import GramadoKernel.SaveFile

namespace GramadoKernel

def SameName (a b : Nat → UInt8) : Prop := ∀ j < 11, a j = b j

def entryName (dir : Nat → UInt8) (i : Nat) : Nat → UInt8 := fun j => dir (32*i+j)

-- Only the characters of the name are compared. A name has a first one, so an entry that
-- has them is not empty.
theorem entryMatches_given {dir : Nat → UInt8} {name : CString} (some : name.strlen ≠ 0) (i : Nat) :
    entryMatches dir name name.strlen i = true ↔ ∀ j < name.strlen, entryName dir i j = name.char j := by
  simp only [entryMatches,Bool.and_eq_true,decide_eq_true_eq,kstrncmp_zero,name.ended,Nat.lt_irrefl,if_false,and_true]
  constructor
  · rintro ⟨_,same⟩ j below
    have known := same j below
    rw [if_pos below] at known
    exact known.symm
  · intro same
    refine ⟨?_,?_⟩
    · intro zero
      have first : dir (32*i) ≠ 0 := by
        rw [show dir (32*i) = name.char 0 from same 0 (by omega)]
        exact name.inside 0 (by omega)
      have value := congrArg UInt16.toNat zero
      rw [word,littleEndian16_toNat,show 2*(16*i) = 32*i by omega] at value
      apply first
      apply UInt8.toNat_inj.mp
      simp only [UInt16.toNat_zero] at value
      simp only [UInt8.toNat_zero]
      omega
    · intro j below
      rw [if_pos below]
      exact (same j below).symm

-- A name of 11 characters is compared with the whole name of the entry.
theorem entryMatches_full {dir : Nat → UInt8} {name : CString} (full : name.strlen = 11) (i : Nat) :
    entryMatches dir name 11 i = true ↔ SameName (entryName dir i) name.char := by
  have given : entryMatches dir name name.strlen i = true ↔ _ := entryMatches_given (show name.strlen ≠ 0 by omega) i
  rwa [full] at given

theorem copyEntry_new (dir : Nat → UInt8) (free : Nat) (entry : Nat → UInt8) {k : Nat} (below : k < 32) :
    copyEntry dir free entry (32*free+k) = entry k := by
  rw [copyEntry,if_pos (by omega),Nat.add_sub_cancel_left]

theorem copyEntry_other (dir : Nat → UInt8) (free : Nat) (entry : Nat → UInt8) {i k : Nat} (below : k < 32) (different : i ≠ free) :
    copyEntry dir free entry (32*i+k) = dir (32*i+k) := by
  rw [copyEntry,if_neg (by omega)]

-- The entry of a directory (flag 0x10) has no extension.
def KeepsName (name : CString) (flag : UInt8) : Prop := flag = 0x10 → ∀ j < 11, 8 ≤ j → name.char j = 0x20

theorem dirEntry_named {name : CString} {flag : UInt8} {first : UInt16} {size : UInt64} (own : KeepsName name flag) {j : Nat} (below : j < 11) :
    dirEntry name flag first size j = name.char j := by
  unfold dirEntry
  by_cases base : j < 8
  · rw [if_pos base]
  · rw [if_neg base,if_pos below]
    split
    · rename_i folder
      exact (own folder j below (Nat.not_lt.mp base)).symm
    · rfl

-- A directory of 512 entries into which an entry has been copied.
section Copied

variable {old new entry : Nat → UInt8} {free : Nat}

theorem copied_entry (copied : ∀ i < 16384, new i = copyEntry old free entry i) (inside : free < 512) {k : Nat} (below : k < 32) : new (32*free+k) = entry k := by
  rw [copied _ (by omega)]
  exact copyEntry_new _ _ _ below

theorem copied_other (copied : ∀ i < 16384, new i = copyEntry old free entry i) {i k : Nat} (within : i < 512) (below : k < 32)
    (different : i ≠ free) : new (32*i+k) = old (32*i+k) := by
  rw [copied _ (by omega)]
  exact copyEntry_other _ _ _ below different

theorem copied_renamed (copied : ∀ i < 16384, new i = copyEntry old free entry i) {i : Nat} (within : i < 512) (different : i ≠ free)
    (other : Nat → UInt8) : SameName (entryName new i) other ↔ SameName (entryName old i) other := by
  unfold SameName entryName
  constructor
  · intro same j below
    rw [← copied_other copied within (by omega) different]
    exact same j below
  · intro same j below
    rw [copied_other copied within (by omega) different]
    exact same j below

-- An entry that is free has no name.
theorem empty_unnamed {dir : Nat → UInt8} (empty : dir (32*free) = 0) {other : CString} (full : other.strlen = 11) :
    ¬ SameName (entryName dir free) other.char := by
  intro same
  have first := same 0 (by decide)
  rw [entryName,Nat.add_zero,empty] at first
  exact other.inside 0 (by omega) first.symm

end Copied

section Wrote

variable {v w : Volume} {q : SaveRequest} {name : CString} {list : Int → UInt16} {free : Nat}

theorem Wrote.entry (wrote : Wrote v q name list free w) {k : Nat} (below : k < 32) :
    rootdir w (32*free+k) = dirEntry name q.flag (list 0) q.sizeInBytes k :=
  copied_entry wrote.directory wrote.inside below

theorem Wrote.other (wrote : Wrote v q name list free w) {i k : Nat} (within : i < 512) (below : k < 32) (different : i ≠ free) :
    rootdir w (32*i+k) = rootdir v (32*i+k) :=
  copied_other wrote.directory within below different

theorem Wrote.named (wrote : Wrote v q name list free w) (plain : q.flag ≠ 0x10) : SameName (entryName (rootdir w) free) name.char := by
  intro j below
  rw [entryName,wrote.entry (by omega)]
  exact dirEntry_named (fun folder => absurd folder plain) below

theorem Wrote.renamed (wrote : Wrote v q name list free w) {i : Nat} (within : i < 512) (different : i ≠ free) (other : Nat → UInt8) :
    SameName (entryName (rootdir w) i) other ↔ SameName (entryName (rootdir v) i) other :=
  copied_renamed wrote.directory within different other

end Wrote

theorem fsLoadFile_at {v : Volume} {l : LoadRequest} {name : CString} (proper : Proper v l name) (enough : 591 ≤ v.numberOfSectors)
    (turns : Nat) :
    fsLoadFile v l turns =
      match firstCluster (directoryAt v l.dirAddress) name (l.bufferSizeInBytes.toNat % 4294967296) with
      | none => .inr ⟨.ok 1,[]⟩
      | some cluster => Loops.run (fsLoadFileTurn (cachedVolume v)) turns ⟨l.buffer,cluster,0,[]⟩ := by
  by_cases root : l.dirAddress = volume1RootdirAddress
  · have reloaded : reloadDirectory v volume1RootdirAddress =
        .ok {v with directory := Function.update v.directory volume1RootdirAddress (rootdir v)} := by
      rw [reloadDirectory,if_pos rfl]
      exact fsLoadRootdir_ok.mpr ⟨enough,rfl⟩
    have cached : fsLoadFat {v with directory := Function.update v.directory volume1RootdirAddress (rootdir v)} = .ok (cachedVolume v) :=
      fsLoadFat_ok.mpr ⟨.inr (by simp only; omega),rfl⟩
    simp only [fsLoadFile,fsLoadFileOpening_proper proper,reloaded,root,directoryAt_root,bind,Except.bind,Function.update_self]
    cases firstCluster (rootdir v) name (l.bufferSizeInBytes.toNat % 4294967296) with
    | none => rfl
    | some cluster => simp only [cached]
  · have kept : reloadDirectory v l.dirAddress = .ok v := if_neg root
    have cached : fsLoadFat v = .ok {v with fat := cachedFat v,fatCacheLoaded := true} := fsLoadFat_ok.mpr ⟨.inr (by omega),rfl⟩
    simp only [fsLoadFile,fsLoadFileOpening_proper proper,kept,directoryAt_other v root,bind,Except.bind]
    cases firstCluster (v.directory l.dirAddress) name (l.bufferSizeInBytes.toNat % 4294967296) with
    | none => rfl
    | some cluster =>
        simp only [cached]
        rfl

theorem fsLoadFile_root {v : Volume} {l : LoadRequest} {name : CString} (proper : Proper v l name)
    (root : l.dirAddress = volume1RootdirAddress) (enough : 591 ≤ v.numberOfSectors) (turns : Nat) :
    fsLoadFile v l turns =
      match firstCluster (rootdir v) name (l.bufferSizeInBytes.toNat % 4294967296) with
      | none => .inr ⟨.ok 1,[]⟩
      | some cluster => Loops.run (fsLoadFileTurn (cachedVolume v)) turns ⟨l.buffer,cluster,0,[]⟩ := by
  rw [fsLoadFile_at proper enough,root,directoryAt_root]

-- A saved file as it stands on the volume.
structure Stored (v : Volume) (q : SaveRequest) (name : CString) (list : Int → UInt16) (entry : Nat) : Prop where
  inside : entry < 512
  bytes : ∀ k < 32, rootdir v (32*entry+k) = dirEntry name q.flag (list 0) q.sizeInBytes k
  named : SameName (entryName (rootdir v) entry) name.char
  only : ∀ i < 512, SameName (entryName (rootdir v) i) name.char → i = entry
  low : ∀ m : Nat, m < q.fileSize.toNat → 3 ≤ (list m).toNat
  high : ∀ m : Nat, m < q.fileSize.toNat → (list m).toNat < 3+clustersToSaveMax
  marked : list q.fileSize.toNat = 0xFFF8
  room : ∀ m : Nat, m < q.fileSize.toNat → clusterLba (list m) < v.numberOfSectors
  next : ∀ m : Nat, m < q.fileSize.toNat → cachedFat v (list m).toNat = list ((m : Int)+1)
  sector : ∀ m : Nat, m < q.fileSize.toNat → v.disk (clusterLba (list m)) = q.data m
  enough : 591 ≤ v.numberOfSectors

def Absent (v : Volume) (name : CString) : Prop := ∀ i < 512, ¬ SameName (entryName (rootdir v) i) name.char

theorem Wrote.stored {v w : Volume} {q : SaveRequest} {name : CString} {list : Int → UInt16} {free : Nat}
    (wrote : Wrote v q name list free w) (plain : q.flag ≠ 0x10) (absent : Absent v name) : Stored w q name list free where
  inside := wrote.inside
  bytes := fun _ below => wrote.entry below
  named := wrote.named plain
  only := by
    intro i within same
    by_contra different
    exact absent i within ((wrote.renamed within different _).mp same)
  low := wrote.picked.low
  high := wrote.picked.high
  marked := wrote.picked.marked
  room := fun m below => by rw [wrote.size]; exact wrote.room m below
  next := wrote.next
  sector := wrote.sector
  enough := by rw [wrote.size]; exact wrote.enough

theorem Stored.linked {v : Volume} {q : SaveRequest} {name : CString} {list : Int → UInt16} {entry m : Nat}
    (stored : Stored v q name list entry) (below : m < q.fileSize.toNat) : cachedFat v (list m).toNat ≠ 0 := by
  rw [stored.next m below]
  intro zero
  rcases Nat.eq_or_lt_of_le below with last | more
  · have marked := stored.marked
    rw [← last] at marked
    rw [show ((m.succ : Nat) : Int) = (m : Int)+1 from rfl,zero] at marked
    revert marked
    decide
  · have low := stored.low (m+1) more
    rw [show ((m+1 : Nat) : Int) = (m : Int)+1 from rfl,zero] at low
    revert low
    decide

-- A later save takes other clusters and another entry.
theorem Stored.kept {v w : Volume} {q r : SaveRequest} {name other : CString} {list taken : Int → UInt16} {entry free : Nat}
    (stored : Stored v q name list entry) (full : name.strlen = 11) (wrote : Wrote v r other taken free w)
    (plain : r.flag ≠ 0x10) (different : ¬ SameName other.char name.char) : Stored w q name list entry := by
  have apart : entry ≠ free := by
    rintro rfl
    exact empty_unnamed wrote.empty full stored.named
  have clusters : ∀ m : Nat, m < q.fileSize.toNat → ∀ k : Nat, k < r.fileSize.toNat → (list m).toNat ≠ (taken k).toNat := by
    intro m below k within same
    have empty := wrote.picked.free k within
    rw [← same] at empty
    exact stored.linked below empty
  refine ⟨stored.inside,?_,(wrote.renamed stored.inside apart _).mpr stored.named,?_,stored.low,stored.high,stored.marked,?_,?_,?_,?_⟩
  · intro k below
    rw [wrote.other stored.inside below apart]
    exact stored.bytes k below
  · intro i within same
    by_cases new : i = free
    · subst new
      exact absurd (fun j below => (wrote.named plain j below).symm.trans (same j below)) different
    · exact stored.only i within ((wrote.renamed within new _).mp same)
  · intro m below
    rw [wrote.size]
    exact stored.room m below
  · intro m below
    rw [wrote.otherFat _ (clusters m below)]
    exact stored.next m below
  · intro m below
    have low := stored.low m below
    rw [wrote.otherDisk _ (by simp only [clusterLba,volume1DataareaLba]; omega)]
    · exact stored.sector m below
    · intro k within same
      have second := wrote.picked.low k within
      exact clusters m below k within (clusterLba_injective (by omega) (by omega) same)
  · rw [wrote.size]
    exact stored.enough

theorem dword_toNat (bytes : Nat → UInt8) (offset : Nat) :
    (dword bytes offset).toNat = (bytes offset).toNat+256*(bytes (offset+1)).toNat+65536*(bytes (offset+2)).toNat+
      16777216*(bytes (offset+3)).toNat := by
  have first := (bytes offset).toNat_lt
  have second := (bytes (offset+1)).toNat_lt
  have third := (bytes (offset+2)).toNat_lt
  have fourth := (bytes (offset+3)).toNat_lt
  simp only [dword,UInt32.toNat_add,UInt32.toNat_mul,UInt16.toNat_toUInt32,littleEndian16_toNat,UInt32.reduceToNat]
  omega

theorem sizeByte_toNat (size : UInt64) {k : Nat} (below : k < 4) :
    (size >>> UInt64.ofNat (8*k)).toUInt8.toNat = size.toNat/2^(8*k) % 256 := by
  simp only [UInt64.toNat_toUInt8,UInt64.toNat_shiftRight,UInt64.toNat_ofNat',Nat.shiftRight_eq_div_pow]
  rw [Nat.mod_eq_of_lt (show 8*k < 2^64 by omega),Nat.mod_eq_of_lt (show 8*k < 64 by omega)]

-- A directory with the entry of a save.
section Entry

variable {dir : Nat → UInt8} {name : CString} {flag : UInt8} {first : UInt16} {size : UInt64} {entry : Nat}

theorem entry_size (bytes : ∀ k < 32, dir (32*entry+k) = dirEntry name flag first size k) :
    (dword dir (32*entry+28)).toNat = if flag = 0x10 then 0 else size.toNat % 4294967296 := by
  have byte : ∀ k < 4, (dir (32*entry+28+k)).toNat = if flag = 0x10 then 0 else size.toNat/2^(8*k) % 256 := by
    intro k below
    rw [Nat.add_assoc,bytes (28+k) (by omega)]
    unfold dirEntry
    rw [if_neg (by omega),if_neg (by omega),if_neg (by omega)]
    split
    · rfl
    · rw [Nat.add_sub_cancel_left,sizeByte_toNat _ below]
  have lowest := byte 0 (by omega)
  have second := byte 1 (by omega)
  have third := byte 2 (by omega)
  have fourth := byte 3 (by omega)
  rw [Nat.add_zero] at lowest
  rw [dword_toNat,lowest,second,third,fourth]
  split
  · rfl
  · simp only [Nat.mul_zero,Nat.pow_zero,Nat.div_one]
    omega

theorem entry_first (bytes : ∀ k < 32, dir (32*entry+k) = dirEntry name flag first size k) : word dir (16*entry+13) = first := by
  rw [word,show 2*(16*entry+13) = 32*entry+26 by omega,bytes 26 (by omega),bytes 27 (by omega)]
  exact littleEndian16_split first

-- A load finds it where no other entry has its name.
theorem entry_firstCluster (bytes : ∀ k < 32, dir (32*entry+k) = dirEntry name flag first size k) (inside : entry < 512)
    (named : SameName (entryName dir entry) name.char) (only : ∀ i < 512, SameName (entryName dir i) name.char → i = entry) {given : CString}
    (full : given.strlen = 11) (same : SameName given.char name.char) {room : Nat} (fits : size.toNat % 4294967296 < room) :
    firstCluster dir given room = if first = 0 ∨ 0xFFF0 < first then none else some first := by
  have alike : ∀ i, SameName (entryName dir i) given.char ↔ SameName (entryName dir i) name.char :=
    fun i => ⟨fun this j below => (this j below).trans (same j below),fun this j below => (this j below).trans (same j below).symm⟩
  have found : searchEntry dir given given.strlen fat16RootEntries = some entry := by
    rw [full]
    refine searchEntry_some.mpr ⟨inside,(entryMatches_full full entry).mpr ((alike entry).mpr named),?_⟩
    intro j earlier
    rw [← Bool.not_eq_true,entryMatches_full full]
    intro other
    have equal := only j (by omega) ((alike j).mp other)
    omega
  have enough : ¬ room ≤ entrySize dir (some entry) := by
    rw [entrySize,entry_size bytes]
    split
    · omega
    · omega
  simp only [firstCluster,found,enough,if_false,Option.bind_some,entry_first bytes]

end Entry

-- The clusters of a list hold the sectors of a file and are linked in the FAT.
structure OnDisk (v : Volume) (data : Nat → Sector) (list : Int → UInt16) (n : Nat) : Prop where
  low : ∀ m : Nat, m < n → 3 ≤ (list m).toNat
  high : ∀ m : Nat, m < n → (list m).toNat < 3+clustersToSaveMax
  marked : list n = 0xFFF8
  room : ∀ m : Nat, m < n → clusterLba (list m) < v.numberOfSectors
  next : ∀ m : Nat, m < n → cachedFat v (list m).toNat = list ((m : Int)+1)
  sector : ∀ m : Nat, m < n → v.disk (clusterLba (list m)) = data m

section OnDisk

variable {v : Volume} {data : Nat → Sector} {list : Int → UInt16} {n : Nat}

theorem OnDisk.chain (onDisk : OnDisk v data list n) {k : Nat} (within : k ≤ n) : GramadoKernel.chain (cachedFat v) (list 0) k = list k := by
  induction k with
  | zero => rfl
  | succ k ih =>
      rw [GramadoKernel.chain,ih (by omega),onDisk.next k (by omega)]
      rfl

theorem OnDisk.accepted (onDisk : OnDisk v data list n) {k : Nat} (below : k < n) : list k ≠ 0 ∧ list k ≤ 0xFFF0 := by
  have low := onDisk.low k below
  have high := onDisk.high k below
  constructor
  · intro zero
    rw [zero] at low
    simp at low
  · apply UInt16.le_iff_toNat_le.mpr
    simp only [UInt16.reduceToNat]
    simp only [clustersToSaveMax] at high
    omega

theorem OnDisk.readable (onDisk : OnDisk v data list n) (sixteen : v.fatbits = 16) {k : Nat} (below : k < n) : Readable (cachedVolume v) (list k) :=
  ⟨(onDisk.accepted below).1,(onDisk.accepted below).2,.inl ⟨sixteen,onDisk.room k below⟩⟩

theorem OnDisk.loads (onDisk : OnDisk v data list n) (some : 0 < n) (short : n ≤ maxFileSizeInSectors) (sixteen : v.fatbits = 16)
    (enough : 591 ≤ v.numberOfSectors) {l : LoadRequest} {given : CString} (proper : Proper v l given)
    (first : firstCluster (directoryAt v l.dirAddress) given (l.bufferSizeInBytes.toNat % 4294967296) = .some (list 0))
    (valid : ∀ k < n, checkAddressValidation (bufferAt l.buffer k) = true) {turns : Nat} (long : n ≤ turns) :
    fsLoadFile v l turns = .inr ⟨.ok 0,(List.range n).map fun k => ⟨bufferAt l.buffer k,data k⟩⟩ := by
  have follow : ∀ k, k ≤ n → GramadoKernel.chain (cachedVolume v).fat (list 0) k = list k := fun k within => onDisk.chain within
  have reads : ∀ k < n, Reads (cachedVolume v) l.buffer (list 0) k := by
    intro k below
    refine ⟨valid k below,?_⟩
    rw [follow k (by omega)]
    exact onDisk.readable sixteen below
  have mark : LastMark (GramadoKernel.chain (cachedVolume v).fat (list 0) n) := by
    rw [follow n (Nat.le_refl n)]
    exact .inr onDisk.marked
  have limit : n/2 ≤ imagesizeLimitInKb := by
    simp only [imagesizeLimitInKb]
    simp only [maxFileSizeInSectors] at short
    omega
  have sectors : ∀ k ∈ List.range n, sectorAt (cachedVolume v) l.buffer (list 0) k = [⟨bufferAt l.buffer k,data k⟩] := by
    intro k member
    have below := List.mem_range.mp member
    rw [sectorAt,if_pos (show (cachedVolume v).fatbits = 16 from sixteen),follow k (by omega),← onDisk.sector k below]
    rfl
  rw [fsLoadFile_at proper enough,first]
  refine (chain_loop_returns some reads mark limit long).trans ?_
  rw [List.flatMap_congr sectors,List.map_eq_flatMap]

end OnDisk

section Stored

variable {v : Volume} {q : SaveRequest} {name : CString} {list : Int → UInt16} {entry : Nat}

theorem Stored.onDisk (stored : Stored v q name list entry) : OnDisk v q.data list q.fileSize.toNat :=
  ⟨stored.low,stored.high,stored.marked,stored.room,stored.next,stored.sector⟩

theorem Stored.loads (stored : Stored v q name list entry) (some : 0 < q.fileSize.toNat) (short : q.fileSize.toNat ≤ maxFileSizeInSectors)
    (sixteen : v.fatbits = 16) {l : LoadRequest} {given : CString} (proper : Proper v l given) (root : l.dirAddress = volume1RootdirAddress)
    (full : given.strlen = 11) (same : SameName given.char name.char) (fits : q.sizeInBytes.toNat % 4294967296 < l.bufferSizeInBytes.toNat % 4294967296)
    (valid : ∀ k < q.fileSize.toNat, checkAddressValidation (bufferAt l.buffer k) = true) {turns : Nat} (enough : q.fileSize.toNat ≤ turns) :
    fsLoadFile v l turns = .inr ⟨.ok 0,(List.range q.fileSize.toNat).map fun k => ⟨bufferAt l.buffer k,q.data k⟩⟩ := by
  refine stored.onDisk.loads some short sixteen stored.enough proper ?_ valid enough
  obtain ⟨visible,low⟩ := stored.onDisk.accepted some
  have accepted : ¬ (list 0 = 0 ∨ 0xFFF0 < list 0) := by
    rintro (zero | above)
    · exact visible zero
    · exact absurd low (UInt16.not_le.mpr above)
  rw [root,directoryAt_root,entry_firstCluster stored.bytes stored.inside stored.named stored.only full same fits,if_neg accepted]

end Stored

end GramadoKernel
