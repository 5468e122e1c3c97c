import GramadoKernel.Library.Loops
import GramadoKernel.Volume

namespace GramadoKernel

-- x64gva.h, config.h
def volume1FatAddressVa : UInt64 := 0x00030000
def volume1RootdirAddressVa : UInt64 := 0x00070000
def kernelImageBase : UInt64 := 0x30000000
def defaultLfbVirtualaddress : UInt64 := 0x30200000
def defaultBackbufferVirtualaddress : UInt64 := 0x30400000
def imagesizeLimitInKb : Nat := 405

-- The arguments of fsLoadFile.
structure LoadRequest where
  fatAddress : UInt64
  dirAddress : UInt64
  dirEntries : Int
  fileName : Option CString
  buffer : UInt64
  bufferSizeInBytes : UInt64

-- One sector that read_lba has put into memory.
structure SectorWrite where
  address : UInt64
  sector : Sector

-- The variables of the loop over the cluster chain, with the sectors it has
-- put into memory so far.
structure Loading where
  buffer : UInt64
  cluster : UInt16
  nreads : Nat
  stored : List SectorWrite

-- How a load ends: the value it returns or the way it halts.
structure Loaded where
  verdict : Except Halt Nat
  stored : List SectorWrite

-- __check_address_validation
def checkAddressValidation (address : UInt64) : Bool :=
  address ≠ volume1FatAddressVa && address ≠ volume1RootdirAddressVa && address ≠ kernelImageBase &&
    address ≠ defaultLfbVirtualaddress && address ≠ defaultBackbufferVirtualaddress

def clusterLba (cluster : UInt16) : Nat := volume1DataareaLba+cluster.toNat-2

-- The checks of fsLoadFile that end in a panic.
def fsLoadFileChecks (root : Option RootFilesystem) (q : LoadRequest) : Except Halt Unit := do
  require (q.fatAddress ≠ 0) (.panic "fsLoadFile: fat_address\n")
  require (q.dirAddress ≠ 0) (.panic "fsLoadFile: dir_address\n")
  require (q.fatAddress = volume1FatAddress) (.panic "fsLoadFile: Not valid FAT address\n")
  let dirEntries := (q.dirEntries % 65536).toNat
  require (dirEntries ≤ fat16RootEntries) (.panic "fsLoadFile: DirEntries\n")
  require (dirEntries = fat16RootEntries) (.panic "fsLoadFile: [DEBUG] DirEntries IS LESS THE 512\n")
  let size := q.bufferSizeInBytes.toNat % 4294967296
  require (size ≠ 0) (.panic "fsLoadFile: BufferSizeInBytes = 0\n")
  require (size ≤ 512*4096) (.panic "fsLoadFile: BufferSizeInBytes limits\n")
  let root ← pointer root (.panic "fsLoadFile: root\n")
  require (root.used = true ∧ root.magic = 1234) (.panic "fsLoadFile: root validation\n")
  require (0 < root.spc) (.panic "fsLoadFile: Spc\n")
  require (root.dirEntries = fat16RootEntries) (.panic "fsLoadFile: root->dir_entries\n")

-- fsLoadFile up to its loop: the first cluster of the file, `none` where it
-- returns 1.
def fsLoadFileOpening (v : Volume) (q : LoadRequest) : Except Halt (Option UInt16 × Volume) := do
  fsLoadFileChecks v.root q
  match q.fileName with
  | none => .ok (none,v)
  | some name =>
      if name.strlen = 0 ∨ 11 < name.strlen then .ok (none,v)
      else
        let (fileSize,v) ← fsGetFileSize v (some name) q.dirAddress
        if q.bufferSizeInBytes.toNat % 4294967296 ≤ fileSize then .ok (none,v)
        else
          match searchEntry (v.directory q.dirAddress) name name.strlen fat16RootEntries with
          | none => .ok (none,v)
          | some i =>
              let cluster := word (v.directory q.dirAddress) (16*i+13)
              if cluster = 0 ∨ 0xFFF0 < cluster then .ok (none,v)
              else
                let v ← fsLoadFat v
                .ok (some cluster,v)

-- A request that passes every check before the directory is read.
structure Proper (v : Volume) (q : LoadRequest) (name : CString) : Prop where
  checked : fsLoadFileChecks v.root q = .ok ()
  named : q.fileName = some name
  length : name.strlen ≠ 0 ∧ name.strlen ≤ 11

def entrySize (dir : Nat → UInt8) : Option Nat → Nat
  | none => 0
  | some i => (dword dir (32*i+28)).toNat

-- The first cluster of a file that a directory offers for a buffer.
def firstCluster (dir : Nat → UInt8) (name : CString) (size : Nat) : Option UInt16 :=
  let found := searchEntry dir name name.strlen fat16RootEntries
  if size ≤ entrySize dir found then none
  else found.bind fun i =>
    let cluster := word dir (16*i+13)
    if cluster = 0 ∨ 0xFFF0 < cluster then none else some cluster

-- The loop from __loop_next_entry on.
def fsLoadFileTurn (v : Volume) (l : Loading) : Loading ⊕ Loaded :=
  if checkAddressValidation l.buffer = false then .inr ⟨.error (.panic "fsLoadFile: Not a valid address\n"),l.stored⟩
  else if l.cluster = 0 ∨ 0xFFF0 < l.cluster then .inr ⟨.error (.panic "fsLoadFile: fat[] vector limits.\n"),l.stored⟩
  else
    match readLba v (clusterLba l.cluster) with
    | .error halt => .inr ⟨.error halt,l.stored⟩
    | .ok sector =>
        let stored := l.stored ++ (sector.map fun data => ⟨l.buffer,data⟩).toList
        let next := v.fat l.cluster.toNat
        if next = 0xFFF7 then .inr ⟨.error (.panic "fsLoadFile: Bad cluster\n"),stored⟩
        else if next = 0xFFFF ∨ next = 0xFFF8 then
          if imagesizeLimitInKb < (l.nreads+1)/2 then .inr ⟨.error (.panic "fsLoadFile: nreads\n"),stored⟩
          else .inr ⟨.ok 0,stored⟩
        else .inl ⟨l.buffer+512,next,l.nreads+1,stored⟩

-- fsLoadFile after at most `turns` turns of its loop.
def fsLoadFile (v : Volume) (q : LoadRequest) (turns : Nat) : Loading ⊕ Loaded :=
  match fsLoadFileOpening v q with
  | .error halt => .inr ⟨.error halt,[]⟩
  | .ok (none,_) => .inr ⟨.ok 1,[]⟩
  | .ok (some cluster,v) => Loops.run (fsLoadFileTurn v) turns ⟨q.buffer,cluster,0,[]⟩

-- The sectors a load has put into memory, whether it is over or not.
def storedSectors : Loading ⊕ Loaded → List SectorWrite
  | .inl l => l.stored
  | .inr r => r.stored

-- The chain of a file in the FAT, followed without looking at what it holds.
def chain (fat : Nat → UInt16) (cluster : UInt16) : Nat → UInt16
  | 0 => cluster
  | k+1 => fat (chain fat cluster k).toNat

-- A cluster number that the loop takes and whose sector can be read.
def Readable (v : Volume) (cluster : UInt16) : Prop :=
  cluster ≠ 0 ∧ cluster ≤ 0xFFF0 ∧
    (v.fatbits = 16 ∧ clusterLba cluster < v.numberOfSectors ∨ v.fatbits = 12 ∨ v.fatbits = 32)

def bufferAt (buffer : UInt64) (k : Nat) : UInt64 := buffer+UInt64.ofNat (512*k)

-- What turn `k` puts into memory.
def sectorAt (v : Volume) (buffer : UInt64) (cluster : UInt16) (k : Nat) : List SectorWrite :=
  if v.fatbits = 16 then [⟨bufferAt buffer k,v.disk (clusterLba (chain v.fat cluster k))⟩] else []

def loadingAt (v : Volume) (buffer : UInt64) (cluster : UInt16) (k : Nat) : Loading :=
  ⟨bufferAt buffer k,chain v.fat cluster k,k,(List.range k).flatMap (sectorAt v buffer cluster)⟩

-- Turn `k` reads its sector.
def Reads (v : Volume) (buffer : UInt64) (cluster : UInt16) (k : Nat) : Prop :=
  checkAddressValidation (bufferAt buffer k) = true ∧ Readable v (chain v.fat cluster k)

def EndMark (next : UInt16) : Prop := next = 0xFFF7 ∨ next = 0xFFFF ∨ next = 0xFFF8

theorem fsLoadFileChecks_ok {root : Option RootFilesystem} {q : LoadRequest} (checked : fsLoadFileChecks root q = .ok ()) :
    q.dirAddress ≠ 0 ∧ ∃ r, root = some r ∧ 0 < r.spc ∧ r.dirEntries = fat16RootEntries := by
  simp only [fsLoadFileChecks,bind_ok,require_ok,pointer_ok] at checked
  obtain ⟨_,_,_,dir,_,_,_,_,_,_,_,_,_,_,r,present,_,_,_,spc,entries⟩ := checked
  exact ⟨dir,r,present,spc,entries⟩

theorem fsGetFileSize_proper {v : Volume} {q : LoadRequest} {name : CString} (proper : Proper v q name) :
    fsGetFileSize v (some name) q.dirAddress = (do
      let v ← reloadDirectory v q.dirAddress
      .ok (entrySize (v.directory q.dirAddress) (searchEntry (v.directory q.dirAddress) name name.strlen fat16RootEntries),v)) := by
  obtain ⟨dir,root,present,spc,entries⟩ := fsLoadFileChecks_ok proper.checked
  simp only [fsGetFileSize,proper.length.1,dir,Nat.not_lt.mpr proper.length.2,if_false]
  cases reloaded : reloadDirectory v q.dirAddress with
  | error halt => rfl
  | ok w =>
      have kept : w.root = some root := (reloadDirectory_root reloaded).trans present
      have some : 0 < root.dirEntries := by simp [entries,fat16RootEntries]
      simp only [bind,Except.bind,pointer,kept,require,spc,some,if_true]
      rw [entries]
      cases searchEntry (w.directory q.dirAddress) name name.strlen fat16RootEntries with
      | none => rfl
      | some i => rfl

theorem fsLoadFileOpening_proper {v : Volume} {q : LoadRequest} {name : CString} (proper : Proper v q name) :
    fsLoadFileOpening v q = (do
      let v ← reloadDirectory v q.dirAddress
      match firstCluster (v.directory q.dirAddress) name (q.bufferSizeInBytes.toNat % 4294967296) with
      | none => .ok (none,v)
      | some cluster => do
          let v ← fsLoadFat v
          .ok (some cluster,v)) := by
  have refused : ¬ (name.strlen = 0 ∨ 11 < name.strlen) := by
    have := proper.length
    omega
  have sized := fsGetFileSize_proper proper
  simp only [bind,Except.bind] at sized
  simp only [fsLoadFileOpening,proper.checked,proper.named,refused,bind,Except.bind,if_false,sized]
  cases reloadDirectory v q.dirAddress with
  | error halt => rfl
  | ok w =>
      simp only [firstCluster]
      cases found : searchEntry (w.directory q.dirAddress) name name.strlen fat16RootEntries with
      | none => simp only [Option.bind_none,ite_self]
      | some i =>
          by_cases full : q.bufferSizeInBytes.toNat % 4294967296 ≤ entrySize (w.directory q.dirAddress) (some i)
          · simp only [full,if_true]
          · simp only [full,if_false,Option.bind_some]
            split
            · rfl
            · rfl

theorem readLba_ok {v : Volume} {lba : Nat} {sector : Option Sector} :
    readLba v lba = .ok sector ↔
      v.fatbits = 16 ∧ lba < v.numberOfSectors ∧ sector = some (v.disk lba) ∨
        (v.fatbits = 12 ∨ v.fatbits = 32) ∧ sector = none := by
  unfold readLba
  by_cases sixteen : v.fatbits = 16
  · simp only [sixteen,↓reduceIte,Nat.reduceEqDiff,bind_ok,ataReadSector_ok,Except.ok.injEq]
    constructor
    · rintro ⟨_,⟨inside,rfl⟩,rfl⟩
      exact .inl ⟨trivial,inside,rfl⟩
    · rintro (⟨_,inside,rfl⟩ | ⟨impossible,_⟩)
      · exact ⟨_,⟨inside,rfl⟩,rfl⟩
      · simp at impossible
  · by_cases other : v.fatbits = 12 ∨ v.fatbits = 32
    · rcases other with twelve | thirtytwo
      · simp [twelve,eq_comm]
      · simp [thirtytwo,eq_comm]
    · have names : v.fatbits ≠ 12 ∧ v.fatbits ≠ 32 := by tauto
      simp [sixteen,names]

theorem readable_of_read {v : Volume} {cluster : UInt16} {sector : Option Sector} (taken : ¬ (cluster = 0 ∨ 0xFFF0 < cluster))
    (read : readLba v (clusterLba cluster) = .ok sector) : Readable v cluster := by
  refine ⟨fun zero => taken (.inl zero),UInt16.not_lt.mp fun high => taken (.inr high),?_⟩
  rcases readLba_ok.mp read with ⟨sixteen,inside,_⟩ | ⟨other,_⟩
  · exact .inl ⟨sixteen,inside⟩
  · exact .inr other

theorem bufferAt_succ (buffer : UInt64) (k : Nat) : bufferAt buffer (k+1) = bufferAt buffer k+512 := by
  unfold bufferAt
  rw [UInt64.add_assoc,show 512*(k+1) = 512*k+512 by omega,UInt64.ofNat_add]
  rfl

theorem loadingAt_zero (v : Volume) (buffer : UInt64) (cluster : UInt16) :
    loadingAt v buffer cluster 0 = ⟨buffer,cluster,0,[]⟩ := by
  simp [loadingAt,bufferAt,chain]

section Turns

variable {v : Volume} {buffer : UInt64} {cluster : UInt16} {k : Nat}

theorem sector_read (reads : Reads v buffer cluster k) : ∃ sector,
    readLba v (clusterLba (chain v.fat cluster k)) = .ok sector ∧
      (sector.map fun data => SectorWrite.mk (bufferAt buffer k) data).toList = sectorAt v buffer cluster k := by
  obtain ⟨_,_,_,inside | other⟩ := reads
  · exact ⟨_,readLba_ok.mpr (.inl ⟨inside.1,inside.2,rfl⟩),by simp [sectorAt,inside.1]⟩
  · refine ⟨none,readLba_ok.mpr (.inr ⟨other,rfl⟩),?_⟩
    rcases other with twelve | thirtytwo
    · simp [sectorAt,twelve]
    · simp [sectorAt,thirtytwo]

theorem turn_reads (reads : Reads v buffer cluster k) :
    fsLoadFileTurn v (loadingAt v buffer cluster k) =
      let stored := (List.range (k+1)).flatMap (sectorAt v buffer cluster)
      let next := chain v.fat cluster (k+1)
      if next = 0xFFF7 then .inr ⟨.error (.panic "fsLoadFile: Bad cluster\n"),stored⟩
      else if next = 0xFFFF ∨ next = 0xFFF8 then
        if imagesizeLimitInKb < (k+1)/2 then .inr ⟨.error (.panic "fsLoadFile: nreads\n"),stored⟩
        else .inr ⟨.ok 0,stored⟩
      else .inl (loadingAt v buffer cluster (k+1)) := by
  obtain ⟨sector,read,written⟩ := sector_read reads
  obtain ⟨valid,nonzero,low,_⟩ := reads
  have accepted : ¬ (chain v.fat cluster k = 0 ∨ 0xFFF0 < chain v.fat cluster k) := by
    rintro (zero | high)
    · exact nonzero zero
    · exact absurd low (UInt16.not_le.mpr high)
  simp only [fsLoadFileTurn,loadingAt,valid,Bool.true_eq_false,if_false,accepted,read,written,chain,bufferAt_succ,
    List.range_succ,List.flatMap_append,List.flatMap_singleton]

theorem turn_goes (reads : Reads v buffer cluster k) (further : ¬ EndMark (chain v.fat cluster (k+1))) :
    fsLoadFileTurn v (loadingAt v buffer cluster k) = .inl (loadingAt v buffer cluster (k+1)) := by
  rw [turn_reads reads]
  unfold EndMark at further
  have bad : chain v.fat cluster (k+1) ≠ 0xFFF7 := by tauto
  have last : ¬ (chain v.fat cluster (k+1) = 0xFFFF ∨ chain v.fat cluster (k+1) = 0xFFF8) := by tauto
  simp only [bad,last,if_false]

theorem turn_last (reads : Reads v buffer cluster k) (mark : EndMark (chain v.fat cluster (k+1))) : ∃ verdict,
    fsLoadFileTurn v (loadingAt v buffer cluster k) = .inr ⟨verdict,(List.range (k+1)).flatMap (sectorAt v buffer cluster)⟩ := by
  rw [turn_reads reads]
  simp only
  split
  · exact ⟨_,rfl⟩
  · rename_i good
    have last : chain v.fat cluster (k+1) = 0xFFFF ∨ chain v.fat cluster (k+1) = 0xFFF8 := by
      unfold EndMark at mark
      tauto
    rw [if_pos last]
    split
    · exact ⟨_,rfl⟩
    · exact ⟨_,rfl⟩

theorem turn_stops (stops : ¬ Reads v buffer cluster k) : ∃ halt,
    fsLoadFileTurn v (loadingAt v buffer cluster k) = .inr ⟨.error halt,(List.range k).flatMap (sectorAt v buffer cluster)⟩ := by
  simp only [fsLoadFileTurn,loadingAt]
  by_cases valid : checkAddressValidation (bufferAt buffer k) = false
  · exact ⟨_,if_pos valid⟩
  · by_cases refused : chain v.fat cluster k = 0 ∨ 0xFFF0 < chain v.fat cluster k
    · exact ⟨_,(if_neg valid).trans (if_pos refused)⟩
    · cases read : readLba v (clusterLba (chain v.fat cluster k)) with
      | error halt => exact ⟨_,(if_neg valid).trans (if_neg refused)⟩
      | ok sector => exact absurd ⟨by simpa using valid,readable_of_read refused read⟩ stops

-- A cluster number that ends a chain is none that can be read.
theorem endMark_unreadable (mark : EndMark cluster) : ¬ Readable v cluster := by
  intro readable
  rcases mark with rfl | rfl | rfl
  · exact absurd readable.2.1 (by decide)
  · exact absurd readable.2.1 (by decide)
  · exact absurd readable.2.1 (by decide)

-- Turn `k` is followed by another one.
def Goes (v : Volume) (buffer : UInt64) (cluster : UInt16) (k : Nat) : Prop :=
  Reads v buffer cluster k ∧ ¬ EndMark (chain v.fat cluster (k+1))

theorem turn_leaves (leaves : ¬ Goes v buffer cluster k) : ∃ verdict m,
    fsLoadFileTurn v (loadingAt v buffer cluster k) = .inr ⟨verdict,(List.range m).flatMap (sectorAt v buffer cluster)⟩ ∧
      (m = k ∧ ¬ Reads v buffer cluster k ∨ m = k+1 ∧ Reads v buffer cluster k ∧ ¬ Reads v buffer cluster (k+1)) := by
  by_cases reads : Reads v buffer cluster k
  · have mark : EndMark (chain v.fat cluster (k+1)) := not_not.mp fun further => leaves ⟨reads,further⟩
    obtain ⟨verdict,left⟩ := turn_last reads mark
    exact ⟨verdict,k+1,left,.inr ⟨rfl,reads,fun next => endMark_unreadable mark next.2⟩⟩
  · obtain ⟨halt,left⟩ := turn_stops reads
    exact ⟨_,k,left,.inl ⟨rfl,reads⟩⟩

theorem chain_loop_ends_iff : Loops.Ends (fsLoadFileTurn v) ⟨buffer,cluster,0,[]⟩ ↔ ∃ k, ¬ Reads v buffer cluster k := by
  rw [← loadingAt_zero v,Loops.ends_trail_iff (loadingAt v buffer cluster) (Goes v buffer cluster)]
  · constructor
    · rintro ⟨k,leaves⟩
      obtain ⟨_,_,_,⟨_,stops⟩ | ⟨_,_,stops⟩⟩ := turn_leaves leaves
      · exact ⟨k,stops⟩
      · exact ⟨k+1,stops⟩
    · rintro ⟨k,stops⟩
      exact ⟨k,fun goes => stops goes.1⟩
  · intro k goes
    exact turn_goes goes.1 goes.2
  · intro k leaves
    obtain ⟨_,_,left,_⟩ := turn_leaves leaves
    exact ⟨_,left⟩

-- Where a run of the loop stands: the sectors of its first turns are in memory,
-- and of all its turns if all of them read.
theorem chain_loop_stored (n : Nat) : ∃ m,
    storedSectors (Loops.run (fsLoadFileTurn v) n ⟨buffer,cluster,0,[]⟩) = (List.range m).flatMap (sectorAt v buffer cluster) ∧
      (∀ j < m, Reads v buffer cluster j) ∧ ((∀ j < n, Reads v buffer cluster j) → m = n) := by
  rw [← loadingAt_zero v]
  by_cases all : ∀ j < n, Goes v buffer cluster j
  · rw [Loops.run_trail_short (loadingAt v buffer cluster) (k := n) (fun j before => turn_goes (all j before).1 (all j before).2) (Nat.le_refl n)]
    exact ⟨n,rfl,fun j before => (all j before).1,fun _ => rfl⟩
  · have some : ∃ k, ¬ (k < n → Goes v buffer cluster k) := by simpa using all
    obtain ⟨k,leaves,before⟩ := Loops.first_failure some
    obtain ⟨within,stops⟩ : k < n ∧ ¬ Goes v buffer cluster k := by simpa using leaves
    have earlier : ∀ j < k, Goes v buffer cluster j := fun j below => before j below (Nat.lt_trans below within)
    obtain ⟨verdict,m,left,place⟩ := turn_leaves stops
    rw [Loops.run_trail_done (loadingAt v buffer cluster) (fun j below => turn_goes (earlier j below).1 (earlier j below).2) left within]
    refine ⟨m,rfl,?_,?_⟩
    · intro j below
      rcases place with ⟨rfl,_⟩ | ⟨rfl,reads,_⟩
      · exact (earlier j below).1
      · rcases Nat.lt_succ_iff_lt_or_eq.mp below with lower | rfl
        · exact (earlier j lower).1
        · exact reads
    · intro reading
      rcases place with ⟨rfl,unread⟩ | ⟨rfl,_,unread⟩
      · exact absurd (reading m within) unread
      · exact Nat.le_antisymm within (Nat.not_lt.mp fun more => unread (reading (k+1) more))

-- The marks at which the loop returns.
def LastMark (next : UInt16) : Prop := next = 0xFFFF ∨ next = 0xFFF8

-- A chain whose sectors can be read, up to a mark at which the loop returns.
theorem chain_loop_returns {n turns : Nat} (some : 0 < n) (reads : ∀ j < n, Reads v buffer cluster j) (mark : LastMark (chain v.fat cluster n))
    (short : n/2 ≤ imagesizeLimitInKb) (enough : n ≤ turns) :
    Loops.run (fsLoadFileTurn v) turns ⟨buffer,cluster,0,[]⟩ = .inr ⟨.ok 0,(List.range n).flatMap (sectorAt v buffer cluster)⟩ := by
  have goes : ∀ j < n-1, fsLoadFileTurn v (loadingAt v buffer cluster j) = .inl (loadingAt v buffer cluster (j+1)) := by
    intro j below
    refine turn_goes (reads j (by omega)) fun ended => ?_
    exact endMark_unreadable ended (reads (j+1) (by omega)).2
  have last : fsLoadFileTurn v (loadingAt v buffer cluster (n-1)) =
      .inr ⟨.ok 0,(List.range n).flatMap (sectorAt v buffer cluster)⟩ := by
    have good : chain v.fat cluster n ≠ 0xFFF7 := by
      intro bad
      rw [bad] at mark
      rcases mark with same | same
      · exact absurd same (by decide)
      · exact absurd same (by decide)
    rw [turn_reads (reads _ (by omega)),Nat.sub_add_cancel some]
    unfold LastMark at mark
    simp only [good,mark,if_false,if_true,Nat.not_lt.mpr short]
  rw [← loadingAt_zero v]
  exact Loops.run_trail_done (loadingAt v buffer cluster) goes last (by omega)

-- Nothing else makes it return.
theorem chain_loop_returned {turns code : Nat} {stored : List SectorWrite}
    (done : Loops.run (fsLoadFileTurn v) turns ⟨buffer,cluster,0,[]⟩ = .inr ⟨.ok code,stored⟩) :
    ∃ n, 0 < n ∧ (∀ j < n, Reads v buffer cluster j) ∧ LastMark (chain v.fat cluster n) ∧ n/2 ≤ imagesizeLimitInKb := by
  rw [← loadingAt_zero v] at done
  by_cases all : ∀ j < turns, Goes v buffer cluster j
  · rw [Loops.run_trail_short (loadingAt v buffer cluster) (k := turns) (fun j before => turn_goes (all j before).1 (all j before).2)
      (Nat.le_refl turns)] at done
    cases done
  · have some : ∃ k, ¬ (k < turns → Goes v buffer cluster k) := by simpa using all
    obtain ⟨k,leaves,before⟩ := Loops.first_failure some
    obtain ⟨within,stops⟩ : k < turns ∧ ¬ Goes v buffer cluster k := by simpa using leaves
    have earlier : ∀ j < k, Goes v buffer cluster j := fun j below => before j below (Nat.lt_trans below within)
    have verdict : ∀ result, fsLoadFileTurn v (loadingAt v buffer cluster k) = .inr result → result = ⟨.ok code,stored⟩ := by
      intro result left
      rw [Loops.run_trail_done (loadingAt v buffer cluster) (fun j below => turn_goes (earlier j below).1 (earlier j below).2) left
        within] at done
      exact Sum.inr.inj done
    by_cases reads : Reads v buffer cluster k
    · refine ⟨k+1,Nat.succ_pos k,?_,?_⟩
      · intro j below
        rcases Nat.lt_succ_iff_lt_or_eq.mp below with lower | rfl
        · exact (earlier j lower).1
        · exact reads
      · have left := turn_reads reads
        simp only at left
        split at left
        · cases verdict _ left
        · split at left
          · rename_i mark
            split at left
            · cases verdict _ left
            · rename_i short
              exact ⟨mark,Nat.not_lt.mp short⟩
          · rename_i good further
            refine absurd ⟨reads,?_⟩ stops
            unfold EndMark
            tauto
    · obtain ⟨halt,left⟩ := turn_stops reads
      cases verdict _ left

end Turns

-- The buffer grows by whole sectors and the protected addresses are multiples of
-- the sector size, so it can come to one of them only from such a multiple.
theorem buffer_stopped_iff (buffer : UInt64) :
    (∃ k, checkAddressValidation (bufferAt buffer k) = false) ↔ buffer.toNat % 512 = 0 := by
  have address : ∀ k, (bufferAt buffer k).toNat = (buffer.toNat+512*k) % 2^64 := by
    intro k
    simp [bufferAt,UInt64.toNat_add]
  constructor
  · rintro ⟨k,stopped⟩
    have known := address k
    have cases : bufferAt buffer k = volume1FatAddressVa ∨ bufferAt buffer k = volume1RootdirAddressVa ∨
        bufferAt buffer k = kernelImageBase ∨ bufferAt buffer k = defaultLfbVirtualaddress ∨
        bufferAt buffer k = defaultBackbufferVirtualaddress := by
      simp only [checkAddressValidation,ne_eq,decide_not,Bool.and_eq_false_iff,Bool.not_eq_eq_eq_not,Bool.not_false,
        decide_eq_true_eq] at stopped
      tauto
    rcases cases with same | same | same | same | same
    all_goals
      rw [same] at known
      simp only [volume1FatAddressVa,volume1RootdirAddressVa,kernelImageBase,defaultLfbVirtualaddress,
        defaultBackbufferVirtualaddress,UInt64.reduceToNat] at known
      omega
  · intro aligned
    have bound := buffer.toNat_lt
    refine ⟨(2^64+0x30000-buffer.toNat)/512,?_⟩
    have reached : bufferAt buffer ((2^64+0x30000-buffer.toNat)/512) = volume1FatAddressVa := by
      apply UInt64.toNat_inj.mp
      rw [address]
      simp only [volume1FatAddressVa,UInt64.reduceToNat]
      omega
    rw [reached]
    rfl

-- A load is over, in a value or in a halt.
def LoadEnds (v : Volume) (q : LoadRequest) : Prop := ∃ turns loaded, fsLoadFile v q turns = .inr loaded

theorem fsLoadFile_ends_iff (v : Volume) (q : LoadRequest) :
    LoadEnds v q ↔ ∀ cluster volume, fsLoadFileOpening v q = .ok (some cluster,volume) →
      (∃ k, ¬ Readable volume (chain volume.fat cluster k)) ∨ q.buffer.toNat % 512 = 0 := by
  unfold LoadEnds fsLoadFile
  cases opening : fsLoadFileOpening v q with
  | error halt =>
      constructor
      · intro _ cluster volume reached
        cases reached
      · intro _
        exact ⟨0,_,rfl⟩
  | ok answer =>
      obtain ⟨first,volume⟩ := answer
      cases first with
      | none =>
          constructor
          · intro _ cluster other reached
            cases reached
          · intro _
            exact ⟨0,_,rfl⟩
      | some cluster =>
          have split : (∃ k, ¬ Reads volume q.buffer cluster k) ↔
              (∃ k, ¬ Readable volume (chain volume.fat cluster k)) ∨ q.buffer.toNat % 512 = 0 := by
            rw [← buffer_stopped_iff,← exists_or]
            apply exists_congr
            intro k
            unfold Reads
            rw [not_and_or,Bool.not_eq_true,or_comm]
          have ends : (∃ turns loaded, Loops.run (fsLoadFileTurn volume) turns ⟨q.buffer,cluster,0,[]⟩ = .inr loaded) ↔
              ∃ k, ¬ Reads volume q.buffer cluster k := chain_loop_ends_iff
          rw [ends,split]
          constructor
          · intro condition first other reached
            cases reached
            exact condition
          · intro condition
            exact condition cluster volume rfl

-- A volume whose directories hold the file `A` in their first entry, with all
-- of the FAT cache and of the disk filled the same way.
def filled (entry : UInt16) (byte cluster size : UInt8) : Volume where
  numberOfSectors := 65536
  fatbits := 16
  disk := fun _ _ => byte
  fat := fun _ => entry
  fatCacheLoaded := true
  fatCacheSaved := false
  directory := fun _ i =>
    if i = 0 then 65 else if i = 26 ∨ i = 27 then cluster else if i = 28 then size else 0
  root := some ⟨true,1234,1,512⟩
  clustersToSave := fun _ => 0

def fileA : CString where
  char := fun i => if i = 0 then 65 else 0
  strlen := 1
  inside := by
    intro i low
    simp [show i = 0 by omega]
  ended := rfl

def loadA (buffer size : UInt64) : LoadRequest := ⟨volume1FatAddress,0x100000,512,some fileA,buffer,size⟩

theorem opening_filled (entry : UInt16) (buffer : UInt64) :
    fsLoadFileOpening (filled entry 3 3 100) (loadA buffer 200) = .ok (some 0x0303,filled entry 3 3 100) := by
  have found : searchEntry ((filled entry 3 3 100).directory 0x100000) fileA 1 512 = some 0 :=
    searchEntry_some.mpr ⟨by decide,by simp [entryMatches,word,littleEndian16,kstrncmp,filled,fileA],by simp⟩
  have proper : Proper (filled entry 3 3 100) (loadA buffer 200) fileA := ⟨by simp [fsLoadFileChecks,require,pointer,filled,loadA,fat16RootEntries,volume1FatAddress,bind,Except.bind],rfl,by decide⟩
  have first : firstCluster ((filled entry 3 3 100).directory 0x100000) fileA 200 = some 0x0303 := by
    have located : searchEntry ((filled entry 3 3 100).directory 0x100000) fileA fileA.strlen fat16RootEntries = some 0 := found
    simp only [firstCluster,located,entrySize]
    simp [word,dword,littleEndian16,filled]
  rw [fsLoadFileOpening_proper proper]
  have size : (loadA buffer 200).bufferSizeInBytes.toNat % 4294967296 = 200 := by simp [loadA]
  have reloaded : reloadDirectory (filled entry 3 3 100) (loadA buffer 200).dirAddress = .ok (filled entry 3 3 100) := rfl
  have kept : fsLoadFat (filled entry 3 3 100) = .ok (filled entry 3 3 100) := rfl
  rw [size,reloaded]
  simp only [bind,Except.bind,show (loadA buffer 200).dirAddress = 0x100000 from rfl,first,kept]

theorem chain_filled (k : Nat) : chain (filled 0x0303 3 3 100).fat 0x0303 k = 0x0303 := by
  cases k with
  | zero => rfl
  | succ k => rfl

-- A file whose only cluster is its own successor, loaded to an odd address. Its
-- sector holds the same byte all over: also where it falls on the FAT cache the
-- entry keeps its value.
theorem fsLoadFile_endless : ¬ LoadEnds (filled 0x0303 3 3 100) (loadA 0x1000001 200) := by
  intro ends
  rcases (fsLoadFile_ends_iff _ _).mp ends _ _ (opening_filled 0x0303 0x1000001) with ⟨k,unreadable⟩ | aligned
  · rw [chain_filled] at unreadable
    exact unreadable ⟨by decide,by decide,.inl ⟨rfl,by decide⟩⟩
  · revert aligned
    decide

-- Every byte of the sector falls into the buffer of the caller.
def Inside (q : LoadRequest) (w : SectorWrite) : Prop :=
  ∀ j < 512, (w.address+UInt64.ofNat j-q.buffer).toNat < q.bufferSizeInBytes.toNat

theorem sector_offset (buffer : UInt64) (k j : Nat) :
    (bufferAt buffer k+UInt64.ofNat j-buffer).toNat = (512*k+j) % 2^64 := by
  have shifted : bufferAt buffer k+UInt64.ofNat j-buffer = UInt64.ofNat (512*k+j) := by
    unfold bufferAt
    rw [UInt64.ofNat_add,UInt64.add_assoc,UInt64.add_comm buffer,UInt64.add_sub_cancel]
  rw [shifted,UInt64.toNat_ofNat']

theorem fsLoadFile_inside_iff (v : Volume) (q : LoadRequest) :
    (∀ turns, ∀ w ∈ storedSectors (fsLoadFile v q turns), Inside q w) ↔
      ∀ cluster volume, fsLoadFileOpening v q = .ok (some cluster,volume) → volume.fatbits = 16 →
        ∃ k, 512*k ≤ q.bufferSizeInBytes.toNat ∧
          (¬ Readable volume (chain volume.fat cluster k) ∨ checkAddressValidation (bufferAt q.buffer k) = false) := by
  constructor
  · intro inside cluster volume opening sixteen
    by_contra further
    -- Then the turn after the last whole sector of the buffer reads as well.
    have reads : ∀ j < q.bufferSizeInBytes.toNat/512+1, Reads volume q.buffer cluster j := by
      intro j below
      by_contra unread
      refine further ⟨j,by omega,?_⟩
      unfold Reads at unread
      rw [not_and_or,Bool.not_eq_true] at unread
      exact unread.symm
    obtain ⟨m,stored,_,all⟩ := @chain_loop_stored volume q.buffer cluster (q.bufferSizeInBytes.toNat/512+1)
    have member : SectorWrite.mk (bufferAt q.buffer (q.bufferSizeInBytes.toNat/512))
        (volume.disk (clusterLba (chain volume.fat cluster (q.bufferSizeInBytes.toNat/512)))) ∈
          storedSectors (fsLoadFile v q (q.bufferSizeInBytes.toNat/512+1)) := by
      simp only [fsLoadFile,opening,stored,all reads,List.mem_flatMap,List.mem_range]
      exact ⟨q.bufferSizeInBytes.toNat/512,by omega,by simp [sectorAt,sixteen]⟩
    have last := inside _ _ member 511 (by decide)
    rw [sector_offset] at last
    have bound := q.bufferSizeInBytes.toNat_lt
    omega
  · intro condition turns w member j low
    cases opening : fsLoadFileOpening v q with
    | error halt => simp [fsLoadFile,opening,storedSectors] at member
    | ok answer =>
        obtain ⟨first,volume⟩ := answer
        cases first with
        | none => simp [fsLoadFile,opening,storedSectors] at member
        | some cluster =>
            obtain ⟨m,stored,reads,_⟩ := @chain_loop_stored volume q.buffer cluster turns
            simp only [fsLoadFile,opening,stored,List.mem_flatMap,List.mem_range,sectorAt] at member
            obtain ⟨i,below,written⟩ := member
            by_cases sixteen : volume.fatbits = 16
            · rw [if_pos sixteen,List.mem_singleton] at written
              obtain ⟨k,within,stops⟩ := condition cluster volume opening sixteen
              have order : i < k := by
                by_contra later
                have known := reads k (by omega)
                rcases stops with unreadable | guarded
                · exact unreadable known.2
                · simp [known.1] at guarded
              subst written
              rw [sector_offset]
              have bound := q.bufferSizeInBytes.toNat_lt
              rw [Nat.mod_eq_of_lt (by omega)]
              omega
            · simp [sixteen] at written

-- A file of 100 bytes in one cluster, loaded into a buffer of 200 bytes.
theorem fsLoadFile_overruns : ¬ ∀ turns, ∀ w ∈ storedSectors (fsLoadFile (filled 0xFFF8 3 3 100) (loadA 0x1000000 200) turns),
    Inside (loadA 0x1000000 200) w := by
  intro inside
  obtain ⟨k,within,stops⟩ := (fsLoadFile_inside_iff _ _).mp inside _ _ (opening_filled 0xFFF8 0x1000000) rfl
  have start : k = 0 := by
    simp only [loadA,UInt64.reduceToNat] at within
    omega
  subst start
  rcases stops with unreadable | guarded
  · exact unreadable ⟨by decide,by decide,.inl ⟨rfl,by decide⟩⟩
  · revert guarded
    decide

end GramadoKernel
