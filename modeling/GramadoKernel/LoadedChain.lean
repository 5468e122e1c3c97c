import GramadoKernel.ReadBack

namespace GramadoKernel

-- A FAT16 volume with one sector per cluster, mounted.
structure WellFormedVolume (v : Volume) : Prop where
  sixteen : v.fatbits = 16
  mounted : ∃ root, v.root = some root ∧ root.used = true ∧ root.magic = 1234 ∧ root.spc = 1 ∧ root.dirEntries = fat16RootEntries
  enough : 591 ≤ v.numberOfSectors

-- The entries before the end of a directory that are not deleted.
def LiveEntry (dir : Nat → UInt8) (i : Nat) : Prop := i < 512 ∧ dir (32*i) ≠ 0xE5 ∧ ∀ j ≤ i, dir (32*j) ≠ 0

-- A volume label, or a part of a long name.
def LabelEntry (dir : Nat → UInt8) (i : Nat) : Prop := dir (32*i+11) &&& 0x08 ≠ 0

structure WellFormedDirectory (dir : Nat → UInt8) : Prop where
  distinct : ∀ i j, LiveEntry dir i → LiveEntry dir j → ¬ LabelEntry dir i → ¬ LabelEntry dir j → SameName (entryName dir i) (entryName dir j) → i = j
  labels : ∀ i, LiveEntry dir i → LabelEntry dir i → word dir (16*i+13) = 0

-- The chain of `n` clusters in the data area, up to a mark.
structure FileChain (v : Volume) (cluster : UInt16) (n : Nat) : Prop where
  some : 0 < n
  low : ∀ k < n, 2 ≤ (chain (cachedFat v) cluster k).toNat
  high : ∀ k < n, (chain (cachedFat v) cluster k).toNat < fatCacheSectors*sectorSize/2
  room : ∀ k < n, clusterLba (chain (cachedFat v) cluster k) < v.numberOfSectors
  mark : 0xFFF8 ≤ chain (cachedFat v) cluster n

-- The arguments of a load, but for the size of its buffer.
structure Requests (q : LoadRequest) (name : CString) : Prop where
  fat : q.fatAddress = volume1FatAddress
  dir : q.dirAddress ≠ 0
  entries : (q.dirEntries % 65536).toNat = fat16RootEntries
  named : q.fileName = some name
  full : name.strlen = 11

-- The entry of a file under the given name.
structure FileEntry (dir : Nat → UInt8) (name : CString) (i : Nat) : Prop where
  live : LiveEntry dir i
  file : ¬ LabelEntry dir i
  named : SameName (entryName dir i) name.char

-- Memory after sectors have been put into it one after the other.
def afterWrites (memory : UInt64 → UInt8) (writes : List SectorWrite) : UInt64 → UInt8 :=
  writes.foldl (fun m w a => if inside : (a-w.address).toNat < 512 then w.sector ⟨(a-w.address).toNat,inside⟩ else m a) memory

def chainWrites (v : Volume) (buffer : UInt64) (cluster : UInt16) (n : Nat) : List SectorWrite :=
  (List.range n).map fun k => ⟨bufferAt buffer k,v.disk (clusterLba (chain (cachedFat v) cluster k))⟩

-- The load returns 0, and the sectors of the chain stand in the buffer one after the other.
structure YieldsChain (v : Volume) (q : LoadRequest) (cluster : UInt16) (n : Nat) : Prop where
  returns : ∃ turns, fsLoadFile v q turns = .inr ⟨.ok 0,chainWrites v q.buffer cluster n⟩
  bytes : ∀ memory k, k < n → ∀ j : Fin 512, afterWrites memory (chainWrites v q.buffer cluster n) (q.buffer+UInt64.ofNat (512*k+j)) =
    v.disk (clusterLba (chain (cachedFat v) cluster k)) j

-- The limits of fsLoadFile: the size of the buffer as it is taken, the marks that it knows,
-- the number of sectors and the addresses it refuses. No label may have the name.
structure Loadable (v : Volume) (q : LoadRequest) (name : CString) (i n : Nat) : Prop where
  limit : q.bufferSizeInBytes.toNat % 4294967296 ≤ 512*4096
  fits : (dword (directoryAt v q.dirAddress) (32*i+28)).toNat < q.bufferSizeInBytes.toNat % 4294967296
  unlabelled : ∀ j < i, LabelEntry (directoryAt v q.dirAddress) j → ¬ SameName (entryName (directoryAt v q.dirAddress) j) name.char
  mark : LastMark (chain (cachedFat v) (word (directoryAt v q.dirAddress) (16*i+13)) n)
  short : n/2 ≤ imagesizeLimitInKb
  valid : ∀ k < n, checkAddressValidation (bufferAt q.buffer k) = true

theorem afterWrites_chain {v : Volume} {buffer : UInt64} {cluster : UInt16} {n : Nat} (few : n ≤ 2^32) (memory : UInt64 → UInt8) {k : Nat}
    (below : k < n) (j : Fin 512) :
    afterWrites memory (chainWrites v buffer cluster n) (buffer+UInt64.ofNat (512*k+j)) = v.disk (clusterLba (chain (cachedFat v) cluster k)) j := by
  induction n with
  | zero => omega
  | succ n ih =>
      have split : afterWrites memory (chainWrites v buffer cluster (n+1)) = fun a =>
          if inside : (a-bufferAt buffer n).toNat < 512 then v.disk (clusterLba (chain (cachedFat v) cluster n)) ⟨(a-bufferAt buffer n).toNat,inside⟩
          else afterWrites memory (chainWrites v buffer cluster n) a := by
        simp only [afterWrites,chainWrites,List.range_succ,List.map_append,List.foldl_append,List.map_cons,List.map_nil,List.foldl_cons,List.foldl_nil]
      have offset : (buffer+UInt64.ofNat (512*k+j)-bufferAt buffer n).toNat = (2^64-512*n+(512*k+j)) % 2^64 := by
        have bound := buffer.toNat_lt
        simp only [bufferAt,UInt64.toNat_sub,UInt64.toNat_add,UInt64.toNat_ofNat']
        omega
      rw [split]
      simp only
      rcases Nat.lt_succ_iff_lt_or_eq.mp below with earlier | rfl
      · rw [dif_neg (by rw [offset]; omega)]
        exact ih (by omega) earlier
      · have place : (buffer+UInt64.ofNat (512*k+j)-bufferAt buffer k).toNat = j.val := by
          rw [offset]
          omega
        rw [dif_pos (by rw [place]; exact j.isLt)]
        congr 1
        exact Fin.ext place

section Loads

variable {v : Volume} {q : LoadRequest} {name : CString} {i n : Nat} {dir : Nat → UInt8}

theorem fsLoadFileChecks_iff (volume : WellFormedVolume v) (asks : Requests q name) :
    fsLoadFileChecks v.root q = .ok () ↔
      q.bufferSizeInBytes.toNat % 4294967296 ≠ 0 ∧ q.bufferSizeInBytes.toNat % 4294967296 ≤ 512*4096 := by
  obtain ⟨root,present,used,magic,spc,entries⟩ := volume.mounted
  have address : volume1FatAddress ≠ 0 := by decide
  have positive : 0 < root.spc := by omega
  simp only [fsLoadFileChecks,bind_ok,require_ok,pointer_ok,present,used,magic,positive,entries,asks.fat,asks.dir,asks.entries,address,
    Nat.le_refl,true_and,and_true,and_self,ne_eq,not_false_eq_true,exists_const,Option.some.injEq,exists_eq_left']

-- The first entry of the name is the file, or a label before it.
theorem searchEntry_file (directory : WellFormedDirectory dir) (full : name.strlen = 11) (entry : FileEntry dir name i) :
    ∃ m ≤ i, searchEntry dir name name.strlen fat16RootEntries = some m ∧
      ((m = i ∧ ∀ j < i, LabelEntry dir j → ¬ SameName (entryName dir j) name.char) ∨
        (LabelEntry dir m ∧ word dir (16*m+13) = 0 ∧ SameName (entryName dir m) name.char ∧ m < i)) := by
  have some : ∃ k, ¬ ¬ SameName (entryName dir k) name.char := ⟨i,not_not.mpr entry.named⟩
  obtain ⟨m,named,before⟩ := Loops.first_failure some
  have named := not_not.mp named
  have within : m ≤ i := by
    by_contra later
    exact before i (by omega) entry.named
  have inside := entry.live.1
  have live : LiveEntry dir m := by
    have first : dir (32*m) = dir (32*i) := (named 0 (by decide)).trans (entry.named 0 (by decide)).symm
    exact ⟨by omega,by rw [first]; exact entry.live.2.1,fun j earlier => entry.live.2.2 j (by omega)⟩
  refine ⟨m,within,?_,?_⟩
  · rw [full]
    refine searchEntry_some.mpr ⟨live.1,(entryMatches_full full m).mpr named,?_⟩
    intro j earlier
    rw [← Bool.not_eq_true,entryMatches_full full]
    exact before j earlier
  · by_cases label : LabelEntry dir m
    · have different : m ≠ i := fun same => entry.file (same ▸ label)
      exact .inr ⟨label,directory.labels m live label,named,by omega⟩
    · have same := directory.distinct m i live entry.live label entry.file fun j below => (named j below).trans (entry.named j below).symm
      subst same
      exact .inl ⟨rfl,fun j earlier _ => before j earlier⟩

-- A label's cluster number is none that a load takes.
theorem firstCluster_label {room m : Nat} (found : searchEntry dir name name.strlen fat16RootEntries = some m) (zero : word dir (16*m+13) = 0) :
    firstCluster dir name room = none := by
  simp only [firstCluster,found,Option.bind_some,zero,true_or,if_true,ite_self]

theorem firstCluster_file {room : Nat} (found : searchEntry dir name name.strlen fat16RootEntries = some i) {cluster : UInt16}
    (starts : word dir (16*i+13) = cluster) (accepted : cluster ≠ 0 ∧ cluster ≤ 0xFFF0) :
    firstCluster dir name room = if room ≤ (dword dir (32*i+28)).toNat then none else some cluster := by
  have taken : ¬ (cluster = 0 ∨ 0xFFF0 < cluster) := by
    rintro (zero | high)
    · exact accepted.1 zero
    · exact absurd accepted.2 (UInt16.not_le.mpr high)
  simp only [firstCluster,found,entrySize,Option.bind_some,starts,taken,if_false]

theorem FileChain.readable {cluster : UInt16} (file : FileChain v cluster n) (sixteen : v.fatbits = 16) {k : Nat} (below : k < n) :
    Readable (cachedVolume v) (chain (cachedFat v) cluster k) := by
  have low := file.low k below
  have high := file.high k below
  refine ⟨?_,?_,.inl ⟨sixteen,file.room k below⟩⟩
  · intro zero
    rw [zero] at low
    exact absurd low (by decide)
  · apply UInt16.le_iff_toNat_le.mpr
    simp only [fatCacheSectors,sectorSize] at high
    simp only [UInt16.reduceToNat]
    omega

-- The loop comes back at the end of the chain or not at all.
theorem FileChain.returned {cluster : UInt16} (file : FileChain v cluster n) {m : Nat} {buffer : UInt64}
    (reads : ∀ j < m, Reads (cachedVolume v) buffer cluster j) (mark : LastMark (chain (cachedFat v) cluster m)) : m = n := by
  have past : m ≤ n := by
    by_contra further
    have low : chain (cachedFat v) cluster n ≤ 0xFFF0 := (reads n (by omega)).2.2.1
    exact absurd (UInt16.le_trans file.mark low) (by decide)
  by_contra different
  have high := file.high m (by omega)
  rcases mark with same | same
  · rw [same] at high
    exact absurd high (by decide)
  · rw [same] at high
    exact absurd high (by decide)

theorem chain_sectors (sixteen : v.fatbits = 16) (buffer : UInt64) (cluster : UInt16) (n : Nat) :
    (List.range n).flatMap (sectorAt (cachedVolume v) buffer cluster) = chainWrites v buffer cluster n := by
  have each : ∀ k ∈ List.range n, sectorAt (cachedVolume v) buffer cluster k = [⟨bufferAt buffer k,v.disk (clusterLba (chain (cachedFat v) cluster k))⟩] :=
    fun k _ => if_pos sixteen
  rw [List.flatMap_congr each,chainWrites,List.map_eq_flatMap]

-- A file on a well-formed volume is loaded, or a limit of fsLoadFile is in its way.
theorem file_loaded_iff (volume : WellFormedVolume v) (directory : WellFormedDirectory (directoryAt v q.dirAddress)) (asks : Requests q name)
    (entry : FileEntry (directoryAt v q.dirAddress) name i) (file : FileChain v (word (directoryAt v q.dirAddress) (16*i+13)) n) :
    YieldsChain v q (word (directoryAt v q.dirAddress) (16*i+13)) n ↔ Loadable v q name i n := by
  obtain ⟨m,within,found,place⟩ := searchEntry_file directory asks.full entry
  have accepted := (file.readable volume.sixteen file.some)
  constructor
  · rintro ⟨⟨turns,loaded⟩,_⟩
    -- A load that returns 0 has passed its checks.
    have checked : fsLoadFileChecks v.root q = .ok () := by
      cases checks : fsLoadFileChecks v.root q with
      | ok => rfl
      | error halt => simp [fsLoadFile,fsLoadFileOpening,checks,bind,Except.bind] at loaded
    obtain ⟨_,limit⟩ := (fsLoadFileChecks_iff volume asks).mp checked
    rw [fsLoadFile_at ⟨checked,asks.named,by rw [asks.full]; decide⟩ volume.enough] at loaded
    rcases place with ⟨rfl,unlabelled⟩ | ⟨_,zero,_,_⟩
    · rw [firstCluster_file found rfl ⟨accepted.1,accepted.2.1⟩] at loaded
      split at loaded
      · cases loaded
      · rename_i cluster taken
        split at taken
        · cases taken
        · rename_i fits
          cases taken
          obtain ⟨k,_,reads,mark,short⟩ := chain_loop_returned loaded
          obtain rfl := file.returned reads mark
          exact ⟨limit,Nat.not_le.mp fits,unlabelled,mark,short,fun j below => (reads j below).1⟩
    · rw [firstCluster_label found zero] at loaded
      cases loaded
  · intro loadable
    have same : m = i := by
      rcases place with ⟨same,_⟩ | ⟨label,_,named,earlier⟩
      · exact same
      · exact absurd named (loadable.unlabelled m earlier label)
    subst same
    have fits := loadable.fits
    have short := loadable.short
    have checked : fsLoadFileChecks v.root q = .ok () := (fsLoadFileChecks_iff volume asks).mpr ⟨by omega,loadable.limit⟩
    refine ⟨⟨n,?_⟩,fun memory k below j => afterWrites_chain (by simp only [imagesizeLimitInKb] at short; omega) memory below j⟩
    rw [fsLoadFile_at ⟨checked,asks.named,by rw [asks.full]; decide⟩ volume.enough,
      firstCluster_file found rfl ⟨accepted.1,accepted.2.1⟩,if_neg (Nat.not_le.mpr fits)]
    simp only
    rw [chain_loop_returns file.some (fun k below => ⟨loadable.valid k below,file.readable volume.sixteen below⟩) loadable.mark short (Nat.le_refl n),
      chain_sectors volume.sixteen]

end Loads

-- A volume whose directories hold the file AAAAAAAAAAA of 100 bytes in cluster 3, with this
-- mark in its FAT entry.
def oneFile (mark : UInt16) : Volume where
  numberOfSectors := 65536
  fatbits := 16
  disk := fun _ _ => 7
  fat := fun _ => mark
  fatCacheLoaded := true
  fatCacheSaved := false
  directory := fun _ i => if i < 11 then 0x41 else if i = 26 then 3 else if i = 28 then 100 else 0
  root := some ⟨true,1234,1,512⟩
  clustersToSave := fun _ => 0

def nameA : CString where
  char := fun i => if i < 11 then 0x41 else 0
  strlen := 11
  inside := by
    intro i below
    rw [if_pos below]
    decide
  ended := rfl

def loadNameA : LoadRequest := ⟨volume1FatAddress,0x100000,512,some nameA,0x1000000,512⟩

theorem oneFile_wellFormed (mark : UInt16) : WellFormedVolume (oneFile mark) := ⟨rfl,⟨_,rfl,rfl,rfl,rfl,rfl⟩,by simp [oneFile]⟩

theorem loadNameA_requests : Requests loadNameA nameA := ⟨rfl,by decide,by decide,rfl,rfl⟩

theorem oneFile_byte (mark : UInt16) (i : Nat) :
    directoryAt (oneFile mark) 0x100000 i = if i < 11 then 0x41 else if i = 26 then 3 else if i = 28 then 100 else 0 := by
  rw [directoryAt_other _ (by decide)]
  rfl

theorem oneFile_first (mark : UInt16) : word (directoryAt (oneFile mark) 0x100000) (16*0+13) = 3 := by
  rw [word,oneFile_byte,oneFile_byte]
  decide

theorem oneFile_label (mark : UInt16) : ¬ LabelEntry (directoryAt (oneFile mark) 0x100000) 0 := by
  rw [LabelEntry,oneFile_byte]
  decide

theorem oneFile_directory (mark : UInt16) : WellFormedDirectory (directoryAt (oneFile mark) 0x100000) := by
  -- The second entry is the end of the directory.
  have first : ∀ i, LiveEntry (directoryAt (oneFile mark) 0x100000) i → i = 0 := by
    intro i live
    by_contra later
    have ended := live.2.2 1 (by omega)
    rw [oneFile_byte] at ended
    exact ended (by decide)
  constructor
  · intro i j left right _ _ _
    rw [first i left,first j right]
  · intro i live label
    rw [first i live] at label
    exact absurd label (oneFile_label mark)

theorem oneFile_entry (mark : UInt16) : FileEntry (directoryAt (oneFile mark) 0x100000) nameA 0 := by
  refine ⟨⟨by decide,?_,?_⟩,oneFile_label mark,?_⟩
  · rw [oneFile_byte]
    decide
  · intro j first
    rw [Nat.le_zero.mp first,oneFile_byte]
    decide
  · intro j below
    rw [entryName,oneFile_byte,if_pos (by omega)]
    exact (if_pos below).symm

theorem oneFile_chain {mark : UInt16} (high : 0xFFF8 ≤ mark) :
    FileChain (oneFile mark) (word (directoryAt (oneFile mark) 0x100000) (16*0+13)) 1 := by
  rw [oneFile_first]
  have only : ∀ k < 1, chain (cachedFat (oneFile mark)) 3 k = 3 := by
    intro k below
    rw [Nat.lt_one_iff.mp below]
    rfl
  refine ⟨by decide,?_,?_,?_,high⟩
  · intro k below
    rw [only k below]
    decide
  · intro k below
    rw [only k below]
    decide
  · intro k below
    rw [only k below]
    exact Nat.lt_of_lt_of_eq (show clusterLba 3 < 65536 by decide) rfl

theorem file_loaded_once : YieldsChain (oneFile 0xFFFF) loadNameA 3 1 := by
  have loadable : Loadable (oneFile 0xFFFF) loadNameA nameA 0 1 := by
    refine ⟨by decide,?_,by omega,.inl rfl,by decide,?_⟩
    · rw [dword,show loadNameA.dirAddress = 0x100000 from rfl,oneFile_byte,oneFile_byte,oneFile_byte,oneFile_byte]
      decide
    · intro k below
      rw [Nat.lt_one_iff.mp below]
      decide
  rw [← oneFile_first 0xFFFF]
  exact (file_loaded_iff (oneFile_wellFormed _) (oneFile_directory _) loadNameA_requests (oneFile_entry _)
    (oneFile_chain (by decide))).mpr loadable

-- The mark 0xFFFB ends the chain as well.
theorem other_mark_not_loaded : ¬ YieldsChain (oneFile 0xFFFB) loadNameA 3 1 := by
  intro yields
  rw [← oneFile_first 0xFFFB] at yields
  have loadable := (file_loaded_iff (oneFile_wellFormed _) (oneFile_directory _) loadNameA_requests (oneFile_entry _)
    (oneFile_chain (by decide))).mp yields
  rcases loadable.mark with same | same
  · cases same
  · cases same

end GramadoKernel
