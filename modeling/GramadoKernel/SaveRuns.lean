import GramadoKernel.ReadBack
import Mathlib.Data.List.Find

namespace GramadoKernel

-- A property of every cluster that a load beginning at `cluster` reads.
def AllAlong (v : Volume) (cluster : UInt16) (Holds : UInt16 → Prop) : Prop :=
  ∀ k, (∀ j ≤ k, Readable (cachedVolume v) (chain (cachedFat v) cluster j)) → Holds (chain (cachedFat v) cluster k)

theorem chain_shift (fat : Nat → UInt16) (cluster : UInt16) (k : Nat) :
    chain fat (fat cluster.toNat) k = chain fat cluster (k+1) := by
  induction k with
  | zero => rfl
  | succ k ih =>
      rw [chain,ih]
      rfl

theorem AllAlong.here {v : Volume} {cluster : UInt16} {Holds : UInt16 → Prop} (along : AllAlong v cluster Holds)
    (readable : Readable (cachedVolume v) cluster) : Holds cluster := by
  refine along 0 ?_
  intro j first
  rw [Nat.le_zero.mp first]
  exact readable

theorem AllAlong.next {v : Volume} {cluster : UInt16} {Holds : UInt16 → Prop} (along : AllAlong v cluster Holds)
    (readable : Readable (cachedVolume v) cluster) : AllAlong v (cachedFat v cluster.toNat) Holds := by
  intro k reads
  rw [chain_shift]
  refine along (k+1) ?_
  intro j within
  cases j with
  | zero => exact readable
  | succ j =>
      rw [← chain_shift]
      exact reads j (by omega)

theorem readLba_congr {v w : Volume} {lba : Nat} (bits : w.fatbits = v.fatbits) (size : w.numberOfSectors = v.numberOfSectors)
    (same : v.fatbits = 16 → lba < v.numberOfSectors → w.disk lba = v.disk lba) : readLba w lba = readLba v lba := by
  unfold readLba
  rw [bits]
  by_cases sixteen : v.fatbits = 16
  · by_cases inside : lba < v.numberOfSectors
    · simp only [ataReadSector,size,same sixteen inside]
    · simp [sixteen,ataReadSector,size,inside,require,bind,Except.bind]
  · simp only [sixteen,if_false]

-- Two volumes that agree on the sector of a cluster and on its successor take
-- the same turn there.
theorem turn_congr {v w : Volume} {l : Loading} (bits : w.fatbits = v.fatbits) (size : w.numberOfSectors = v.numberOfSectors)
    (same : Readable v l.cluster → w.disk (clusterLba l.cluster) = v.disk (clusterLba l.cluster) ∧
      w.fat l.cluster.toNat = v.fat l.cluster.toNat) : fsLoadFileTurn v l = fsLoadFileTurn w l := by
  by_cases refused : l.cluster = 0 ∨ 0xFFF0 < l.cluster
  · simp only [fsLoadFileTurn,refused,if_true]
  · have taken : l.cluster ≠ 0 ∧ l.cluster ≤ 0xFFF0 := ⟨fun zero => refused (.inl zero),UInt16.not_lt.mp fun high => refused (.inr high)⟩
    have read : readLba w (clusterLba l.cluster) = readLba v (clusterLba l.cluster) :=
      readLba_congr bits size fun sixteen inside => (same ⟨taken.1,taken.2,.inl ⟨sixteen,inside⟩⟩).1
    simp only [fsLoadFileTurn,refused,if_false,read]
    cases answer : readLba v (clusterLba l.cluster) with
    | error halt => rfl
    | ok sector => simp only [(same (readable_of_read refused answer)).2]

theorem turn_next {v : Volume} {l next : Loading} (goes : fsLoadFileTurn v l = .inl next) :
    Readable v l.cluster ∧ next.cluster = v.fat l.cluster.toNat := by
  unfold fsLoadFileTurn at goes
  split at goes
  · cases goes
  · split at goes
    · cases goes
    · rename_i refused
      split at goes
      · cases goes
      · rename_i sector answer
        simp only at goes
        split at goes
        · cases goes
        · split at goes
          · split at goes
            · cases goes
            · cases goes
          · rw [← Sum.inl.inj goes]
            exact ⟨readable_of_read refused answer,rfl⟩

-- A load that has come to a free entry halts on its next turn.
theorem run_from_zero {v : Volume} {l : Loading} (zero : l.cluster = 0) (n : Nat) (code : Nat) (sectors : List SectorWrite) :
    Loops.run (fsLoadFileTurn v) n l ≠ .inr ⟨.ok code,sectors⟩ := by
  intro done
  cases n with
  | zero => simp [Loops.run] at done
  | succ n =>
      have halted : ∃ halt, fsLoadFileTurn v l = .inr ⟨.error halt,l.stored⟩ := by
        by_cases valid : checkAddressValidation l.buffer = false
        · exact ⟨_,if_pos valid⟩
        · exact ⟨_,(if_neg valid).trans (if_pos (.inl zero))⟩
      obtain ⟨halt,left⟩ := halted
      rw [Loops.run_inr left] at done
      cases done

-- The turn on a cluster whose entry is free does not return.
theorem turn_on_free {v : Volume} {l : Loading} {result : Loaded} (free : v.fat l.cluster.toNat = 0)
    (left : fsLoadFileTurn v l = .inr result) : ∃ halt, result.verdict = .error halt := by
  unfold fsLoadFileTurn at left
  split at left
  · exact ⟨_,by rw [← Sum.inr.inj left]⟩
  · split at left
    · exact ⟨_,by rw [← Sum.inr.inj left]⟩
    · split at left
      · exact ⟨_,by rw [← Sum.inr.inj left]⟩
      · simp [free] at left

-- No file of the root directory is spread over cluster number 1, or the next save
-- leaves the last sector of the root directory alone: the loader takes that
-- sector for the one of cluster 1.
def Spared (v : Volume) : Prop :=
  (∃ i < 496, rootdir v (32*i) = 0) ∨
    ∀ i < 512, rootdir v (32*i) ≠ 0 → AllAlong v (word (rootdir v) (16*i+13)) (· ≠ 1)

-- No entry of the root directory leads to a cluster that is marked free.
def NoFreeReference (v : Volume) : Prop :=
  ∀ i < 512, rootdir v (32*i) ≠ 0 → AllAlong v (word (rootdir v) (16*i+13)) fun c => cachedFat v c.toNat ≠ 0

theorem disk_lastSector (v : Volume) (j : Fin 512) : v.disk 590 j = rootdir v (15872+j) := by
  have quotient : volume1RootdirLba+(15872+j.val)/512 = 590 := by
    simp only [volume1RootdirLba]
    omega
  have rest : (15872+j.val) % 512 = j.val := by omega
  rw [rootdir,if_pos (by omega),diskBytes]
  simp only [quotient,rest]

section Wrote

variable {v w : Volume} {q : SaveRequest} {name : CString} {list : Int → UInt16} {free : Nat}

theorem Wrote.lastSector (wrote : Wrote v q name list free w) (early : free < 496) : w.disk 590 = v.disk 590 := by
  funext j
  rw [disk_lastSector w,disk_lastSector v,wrote.directory _ (by omega)]
  exact if_neg (by omega)

theorem Wrote.sectorKept (wrote : Wrote v q name list free w) {cluster : UInt16} (nonzero : cluster ≠ 0)
    (linked : cachedFat v cluster.toNat ≠ 0) (spared : free < 496 ∨ cluster ≠ 1) :
    w.disk (clusterLba cluster) = v.disk (clusterLba cluster) := by
  have positive : 1 ≤ cluster.toNat := by
    by_contra below
    exact nonzero (UInt16.toNat_inj.mp (by simp only [UInt16.toNat_zero]; omega))
  by_cases one : cluster = 1
  · subst one
    exact wrote.lastSector (by tauto)
  · have more : 2 ≤ cluster.toNat := by
      by_contra below
      exact one (UInt16.toNat_inj.mp (by simp only [UInt16.reduceToNat]; omega))
    refine wrote.otherDisk _ (by simp only [clusterLba,volume1DataareaLba]; omega) ?_
    intro m below same
    have low := wrote.picked.low m below
    have equal := clusterLba_injective positive (by omega) same
    rw [equal] at linked
    exact linked (wrote.picked.free m below)

theorem Wrote.fatKept (wrote : Wrote v q name list free w) {c : Nat} (linked : cachedFat v c ≠ 0) : cachedFat w c = cachedFat v c := by
  refine wrote.otherFat c ?_
  intro m below same
  rw [same] at linked
  exact linked (wrote.picked.free m below)

theorem Wrote.turn (wrote : Wrote v q name list free w) {l : Loading}
    (linked : Readable (cachedVolume v) l.cluster → cachedFat v l.cluster.toNat ≠ 0)
    (spared : Readable (cachedVolume v) l.cluster → free < 496 ∨ l.cluster ≠ 1) :
    fsLoadFileTurn (cachedVolume v) l = fsLoadFileTurn (cachedVolume w) l :=
  turn_congr wrote.fatbits wrote.size fun readable =>
    ⟨wrote.sectorKept readable.1 (linked readable) (spared readable),wrote.fatKept (linked readable)⟩

-- A load that came to an end in a value does so again.
theorem Wrote.returned (wrote : Wrote v q name list free w) {n : Nat} {l : Loading} {code : Nat} {sectors : List SectorWrite}
    (spared : free < 496 ∨ AllAlong v l.cluster (· ≠ 1))
    (done : Loops.run (fsLoadFileTurn (cachedVolume v)) n l = .inr ⟨.ok code,sectors⟩) :
    Loops.run (fsLoadFileTurn (cachedVolume w)) n l = .inr ⟨.ok code,sectors⟩ := by
  induction n generalizing l with
  | zero => simp [Loops.run] at done
  | succ n ih =>
      have here : Readable (cachedVolume v) l.cluster → free < 496 ∨ l.cluster ≠ 1 :=
        fun readable => spared.imp id fun along => along.here readable
      by_cases hole : cachedFat v l.cluster.toNat = 0
      · cases taken : fsLoadFileTurn (cachedVolume v) l with
        | inl next =>
            rw [Loops.run_inl taken] at done
            exact absurd done (run_from_zero ((turn_next taken).2.trans hole) n code sectors)
        | inr result =>
            obtain ⟨halt,halted⟩ := turn_on_free hole taken
            rw [Loops.run_inr taken,Sum.inr.injEq] at done
            rw [done] at halted
            cases halted
      · have same := wrote.turn (fun _ => hole) here
        cases taken : fsLoadFileTurn (cachedVolume v) l with
        | inl next =>
            obtain ⟨readable,step⟩ := turn_next taken
            rw [Loops.run_inl taken] at done
            rw [Loops.run_inl (same.symm.trans taken)]
            refine ih (spared.imp id fun along => ?_) done
            rw [step]
            exact along.next readable
        | inr result =>
            rw [Loops.run_inr taken] at done
            rw [Loops.run_inr (same.symm.trans taken)]
            exact done

-- A load that meets no free entry behaves the same, turn by turn.
theorem Wrote.behaves (wrote : Wrote v q name list free w) {n : Nat} {l : Loading} (spared : free < 496 ∨ AllAlong v l.cluster (· ≠ 1))
    (linked : AllAlong v l.cluster fun c => cachedFat v c.toNat ≠ 0) :
    Loops.run (fsLoadFileTurn (cachedVolume v)) n l = Loops.run (fsLoadFileTurn (cachedVolume w)) n l := by
  refine Loops.run_congr (fun l : Loading => (free < 496 ∨ AllAlong v l.cluster (· ≠ 1)) ∧
    AllAlong v l.cluster fun c => cachedFat v c.toNat ≠ 0) ?_ ?_ n ⟨spared,linked⟩
  · intro l both
    exact wrote.turn (fun readable => both.2.here readable) fun readable => both.1.imp id fun along => along.here readable
  · intro l next both goes
    obtain ⟨readable,step⟩ := turn_next goes
    rw [step]
    exact ⟨both.1.imp id fun along => along.next readable,both.2.next readable⟩

theorem Wrote.matches (wrote : Wrote v q name list free w) (plain : q.flag ≠ 0x10) {given : CString} (full : given.strlen = 11)
    (different : ¬ SameName given.char name.char) {i : Nat} (within : i < 512) :
    entryMatches (rootdir w) given 11 i = entryMatches (rootdir v) given 11 i := by
  rw [Bool.eq_iff_iff,entryMatches_full full,entryMatches_full full]
  by_cases new : i = free
  · subst new
    refine ⟨fun same => absurd (fun j below => ?_) different,fun same => absurd same (empty_unnamed wrote.empty full)⟩
    exact (same j below).symm.trans (wrote.named plain j below)
  · exact wrote.renamed within new _

theorem Wrote.firstCluster (wrote : Wrote v q name list free w) (plain : q.flag ≠ 0x10) {given : CString} (full : given.strlen = 11)
    (different : ¬ SameName given.char name.char) (size : Nat) :
    GramadoKernel.firstCluster (rootdir w) given size = GramadoKernel.firstCluster (rootdir v) given size := by
  have search : searchEntry (rootdir w) given given.strlen fat16RootEntries = searchEntry (rootdir v) given given.strlen fat16RootEntries := by
    rw [full]
    exact List.find?_congr fun i member => wrote.matches plain full different (List.mem_range.mp member)
  unfold GramadoKernel.firstCluster
  rw [search]
  cases found : searchEntry (rootdir v) given given.strlen fat16RootEntries with
  | none => simp only [Option.bind_none,ite_self]
  | some i =>
      rw [full] at found
      obtain ⟨within,hit,_⟩ := searchEntry_some.mp found
      have old : i ≠ free := by
        rintro rfl
        exact empty_unnamed wrote.empty full ((entryMatches_full full i).mp hit)
      have bytes : ∀ k < 32, rootdir w (32*i+k) = rootdir v (32*i+k) := fun k below => wrote.other within below old
      have cluster : word (rootdir w) (16*i+13) = word (rootdir v) (16*i+13) := by
        simp only [word,show 2*(16*i+13) = 32*i+26 by omega,Nat.add_assoc]
        rw [bytes 26 (by omega),bytes (26+1) (by omega)]
      have sized : dword (rootdir w) (32*i+28) = dword (rootdir v) (32*i+28) := by
        simp only [dword,Nat.add_assoc]
        rw [bytes 28 (by omega),bytes (28+1) (by omega),bytes (28+2) (by omega),bytes (28+3) (by omega)]
      have sizes : entrySize (rootdir w) (some i) = entrySize (rootdir v) (some i) := congrArg UInt32.toNat sized
      simp only [Option.bind_some,cluster]
      rw [sizes]

end Wrote

theorem firstCluster_entry {dir : Nat → UInt8} {given : CString} {size : Nat} {cluster : UInt16} (full : given.strlen = 11)
    (first : firstCluster dir given size = some cluster) : ∃ i < 512, dir (32*i) ≠ 0 ∧ cluster = word dir (16*i+13) := by
  unfold firstCluster at first
  simp only at first
  split at first
  · cases first
  · rw [Option.bind_eq_some_iff] at first
    obtain ⟨i,found,chosen⟩ := first
    rw [full] at found
    obtain ⟨within,hit,_⟩ := searchEntry_some.mp found
    split at chosen
    · cases chosen
    · refine ⟨i,within,?_,(Option.some.inj chosen).symm⟩
      rw [show dir (32*i) = given.char 0 from (entryMatches_full full i).mp hit 0 (by decide)]
      exact given.inside 0 (by omega)

-- A load of a name of 11 characters from the root directory.
structure Asks (l : LoadRequest) (given : CString) : Prop where
  root : l.dirAddress = volume1RootdirAddress
  named : l.fileName = some given
  full : given.strlen = 11

theorem Asks.proper {l : LoadRequest} {given : CString} (asks : Asks l given) {v : Volume} (checked : fsLoadFileChecks v.root l = .ok ()) :
    Proper v l given := ⟨checked,asks.named,by have := asks.full; omega⟩

theorem fsLoadFile_halted {v : Volume} {l : LoadRequest} {halt : Halt} (failed : fsLoadFileChecks v.root l = .error halt) (turns : Nat) :
    fsLoadFile v l turns = .inr ⟨.error halt,[]⟩ := by
  simp only [fsLoadFile,fsLoadFileOpening,failed,bind,Except.bind]

theorem Wrote.spared {v w : Volume} {q : SaveRequest} {name : CString} {list : Int → UInt16} {free : Nat} (wrote : Wrote v q name list free w)
    (spared : Spared v) {i : Nat} (within : i < 512) (used : rootdir v (32*i) ≠ 0) :
    free < 496 ∨ AllAlong v (word (rootdir v) (16*i+13)) (· ≠ 1) := by
  rcases spared with ⟨k,early,empty⟩ | avoided
  · refine .inl ?_
    by_contra late
    exact wrote.earliest k (by omega) empty
  · exact .inr (avoided i within used)

section Load

variable {v w : Volume} {q : SaveRequest} {name : CString} {list : Int → UInt16} {free : Nat} {l : LoadRequest} {given : CString}

theorem Wrote.loadReturned (wrote : Wrote v q name list free w) (plain : q.flag ≠ 0x10) (spared : Spared v) (asks : Asks l given)
    (different : ¬ SameName given.char name.char) {turns code : Nat} {sectors : List SectorWrite}
    (done : fsLoadFile v l turns = .inr ⟨.ok code,sectors⟩) : fsLoadFile w l turns = .inr ⟨.ok code,sectors⟩ := by
  cases checked : fsLoadFileChecks v.root l with
  | error halt =>
      rw [fsLoadFile_halted checked] at done
      cases done
  | ok =>
      rw [fsLoadFile_root (asks.proper checked) asks.root wrote.enough] at done
      have again : fsLoadFileChecks w.root l = .ok () := by
        rw [wrote.root]
        exact checked
      rw [fsLoadFile_root (asks.proper again) asks.root (by rw [wrote.size]; exact wrote.enough),
        wrote.firstCluster plain asks.full different]
      cases first : GramadoKernel.firstCluster (rootdir v) given (l.bufferSizeInBytes.toNat % 4294967296) with
      | none =>
          rw [first] at done
          exact done
      | some cluster =>
          rw [first] at done
          obtain ⟨i,within,used,rfl⟩ := firstCluster_entry asks.full first
          exact wrote.returned (wrote.spared spared within used) done

theorem Wrote.loadSame (wrote : Wrote v q name list free w) (plain : q.flag ≠ 0x10) (spared : Spared v) (linked : NoFreeReference v)
    (asks : Asks l given) (different : ¬ SameName given.char name.char) (turns : Nat) : fsLoadFile w l turns = fsLoadFile v l turns := by
  cases checked : fsLoadFileChecks v.root l with
  | error halt =>
      have again : fsLoadFileChecks w.root l = .error halt := by
        rw [wrote.root]
        exact checked
      rw [fsLoadFile_halted checked,fsLoadFile_halted again]
  | ok =>
      have again : fsLoadFileChecks w.root l = .ok () := by
        rw [wrote.root]
        exact checked
      rw [fsLoadFile_root (asks.proper checked) asks.root wrote.enough,
        fsLoadFile_root (asks.proper again) asks.root (by rw [wrote.size]; exact wrote.enough),
        wrote.firstCluster plain asks.full different]
      cases first : GramadoKernel.firstCluster (rootdir v) given (l.bufferSizeInBytes.toNat % 4294967296) with
      | none => rfl
      | some cluster =>
          obtain ⟨i,within,used,rfl⟩ := firstCluster_entry asks.full first
          have same := wrote.behaves (n := turns) (l := ⟨l.buffer,word (rootdir v) (16*i+13),0,[]⟩)
            (wrote.spared spared within used) (linked i within used)
          simp only [same]

end Load

theorem Wrote.chainKept {v w : Volume} {q : SaveRequest} {name : CString} {list : Int → UInt16} {free : Nat}
    (wrote : Wrote v q name list free w) {cluster : UInt16} (linked : AllAlong v cluster fun c => cachedFat v c.toNat ≠ 0) {k : Nat}
    (reads : ∀ j ≤ k, Readable (cachedVolume w) (chain (cachedFat w) cluster j)) :
    (∀ j ≤ k, Readable (cachedVolume v) (chain (cachedFat v) cluster j)) ∧ chain (cachedFat w) cluster k = chain (cachedFat v) cluster k := by
  have readable : ∀ c, Readable (cachedVolume w) c → Readable (cachedVolume v) c := by
    intro c now
    obtain ⟨nonzero,low,place⟩ := now
    refine ⟨nonzero,low,?_⟩
    rw [show (cachedVolume w).fatbits = (cachedVolume v).fatbits from wrote.fatbits,
      show (cachedVolume w).numberOfSectors = (cachedVolume v).numberOfSectors from wrote.size] at place
    exact place
  induction k with
  | zero =>
      refine ⟨?_,rfl⟩
      intro j first
      rw [Nat.le_zero.mp first]
      exact readable _ (reads 0 (Nat.le_refl 0))
  | succ k ih =>
      obtain ⟨before,same⟩ := ih fun j within => reads j (by omega)
      have next : chain (cachedFat w) cluster (k+1) = chain (cachedFat v) cluster (k+1) := by
        rw [chain,chain,same]
        exact wrote.fatKept (linked k before)
      refine ⟨?_,next⟩
      intro j within
      rcases Nat.eq_or_lt_of_le within with rfl | earlier
      · rw [← next]
        exact readable _ (reads (k+1) (Nat.le_refl _))
      · exact before j (by omega)

theorem Stored.noFree {v : Volume} {q : SaveRequest} {name : CString} {list : Int → UInt16} {entry : Nat}
    (stored : Stored v q name list entry) : AllAlong v (list 0) fun c => cachedFat v c.toNat ≠ 0 := by
  intro k reads
  have within : k < q.fileSize.toNat := by
    by_contra past
    have last := reads q.fileSize.toNat (by omega)
    rw [stored.onDisk.chain (Nat.le_refl _),stored.marked] at last
    exact endMark_unreadable (.inr (.inr rfl)) last
  rw [stored.onDisk.chain (by omega)]
  exact stored.linked within

theorem Wrote.noFree {v w : Volume} {q : SaveRequest} {name : CString} {list : Int → UInt16} {free : Nat}
    (wrote : Wrote v q name list free w) (stored : Stored w q name list free) (linked : NoFreeReference v) : NoFreeReference w := by
  have pair : ∀ i, word (rootdir w) (16*i+13) = littleEndian16 (rootdir w (32*i+26)) (rootdir w (32*i+27)) := by
    intro i
    rw [word,show 2*(16*i+13) = 32*i+26 by omega]
  intro i within used
  by_cases new : i = free
  · subst new
    have first : word (rootdir w) (16*i+13) = list 0 := by
      rw [pair,stored.bytes 26 (by omega),stored.bytes 27 (by omega)]
      exact littleEndian16_split (list 0)
    rw [first]
    exact stored.noFree
  · have first : word (rootdir w) (16*i+13) = word (rootdir v) (16*i+13) := by
      rw [pair,wrote.other within (by omega) new,wrote.other within (by omega) new,word,show 2*(16*i+13) = 32*i+26 by omega]
    have old : rootdir v (32*i) ≠ 0 := by
      have byte := wrote.other within (show 0 < 32 by decide) new
      rw [Nat.add_zero] at byte
      rwa [byte] at used
    rw [first]
    intro k reads
    obtain ⟨before,same⟩ := wrote.chainKept (linked i within old) reads
    rw [same,wrote.fatKept (linked i within old k before)]
    exact linked i within old k before

-- One save of the sequence: a file of 1 to 16 sectors with a name of 11
-- characters, put into the root directory.
structure Saving (v : Volume) (q : SaveRequest) (w : Volume) : Prop where
  root : q.dirAddress = volume1RootdirAddress
  named : ∃ name, q.fileName = some name ∧ name.strlen = 11
  some : 0 < q.fileSize.toNat
  short : q.fileSize.toNat ≤ 16
  flag : q.flag = 0x20
  saved : fsSaveFile v q = .ok (0,w)

def SaveRequest.name (q : SaveRequest) : Nat → UInt8 :=
  match q.fileName with
  | none => fun _ => 0
  | some name => name.char

-- What a sequence of saves leaves behind.
structure Kept (v : Volume) (saves : List SaveRequest) (w : Volume) : Prop where
  fatbits : w.fatbits = v.fatbits
  stored : ∀ q ∈ saves, ∃ name list entry, q.fileName = some name ∧ name.strlen = 11 ∧ q.flag = 0x20 ∧
    0 < q.fileSize.toNat ∧ q.fileSize.toNat ≤ 16 ∧ Stored w q name list entry
  absent : ∀ other : CString, other.strlen = 11 → Absent v other → (∀ q ∈ saves, ¬ SameName other.char q.name) → Absent w other
  noFree : NoFreeReference v → NoFreeReference w
  returned : ∀ l given, Asks l given → (∀ q ∈ saves, ¬ SameName given.char q.name) → ∀ turns code sectors,
    fsLoadFile v l turns = .inr ⟨.ok code,sectors⟩ → fsLoadFile w l turns = .inr ⟨.ok code,sectors⟩
  behaves : NoFreeReference v → ∀ l given, Asks l given → (∀ q ∈ saves, ¬ SameName given.char q.name) → ∀ turns,
    fsLoadFile w l turns = fsLoadFile v l turns

theorem SaveRequest.name_of {q : SaveRequest} {name : CString} (named : q.fileName = some name) : q.name = name.char := by
  simp only [SaveRequest.name,named]

theorem SameName.symm {a b : Nat → UInt8} (same : SameName a b) : SameName b a := fun j below => (same j below).symm

theorem Kept.save {v m w : Volume} {saves : List SaveRequest} {q : SaveRequest} (kept : Kept v saves m) (saving : Saving m q w)
    (spared : Spared m) (distinct : ∀ p ∈ saves, ¬ SameName p.name q.name)
    (fresh : ∀ i < 512, ¬ SameName (entryName (rootdir v) i) q.name) : Kept v (saves ++ [q]) w := by
  obtain ⟨name,named,full⟩ := saving.named
  obtain ⟨list,free,wrote⟩ := fsSaveFile_wrote saving.saved saving.root named saving.some
  have plain : q.flag ≠ 0x10 := by
    rw [saving.flag]
    decide
  rw [SaveRequest.name_of named] at distinct fresh
  have absent : Absent m name := kept.absent name full fresh fun p member same => distinct p member same.symm
  have stored := wrote.stored plain absent
  refine ⟨wrote.fatbits.trans kept.fatbits,?_,?_,?_,?_,?_⟩
  · intro p member
    rcases List.mem_append.mp member with old | new
    · obtain ⟨other,taken,entry,given,eleven,flag,some,short,before⟩ := kept.stored p old
      refine ⟨other,taken,entry,given,eleven,flag,some,short,before.kept eleven wrote plain ?_⟩
      have apart := distinct p old
      rw [SaveRequest.name_of given] at apart
      exact fun same => apart same.symm
    · rw [List.mem_singleton.mp new]
      exact ⟨name,list,free,named,full,saving.flag,saving.some,saving.short,stored⟩
  · intro other eleven before others i within same
    have apart := others q (List.mem_append_right _ (List.mem_singleton_self q))
    rw [SaveRequest.name_of named] at apart
    by_cases new : i = free
    · subst new
      exact apart fun j below => (same j below).symm.trans (wrote.named plain j below)
    · exact kept.absent other eleven before (fun p member => others p (List.mem_append_left _ member)) i within
        ((wrote.renamed within new _).mp same)
  · exact fun linked => wrote.noFree stored (kept.noFree linked)
  · intro l given asks others turns code sectors done
    have apart := others q (List.mem_append_right _ (List.mem_singleton_self q))
    rw [SaveRequest.name_of named] at apart
    exact wrote.loadReturned plain spared asks apart
      (kept.returned l given asks (fun p member => others p (List.mem_append_left _ member)) turns code sectors done)
  · intro linked l given asks others turns
    have apart := others q (List.mem_append_right _ (List.mem_singleton_self q))
    rw [SaveRequest.name_of named] at apart
    exact (wrote.loadSame plain spared (kept.noFree linked) asks apart turns).trans
      (kept.behaves linked l given asks (fun p member => others p (List.mem_append_left _ member)) turns)

theorem kept_of_saves {v w : Volume} {saves : List SaveRequest} (run : Runs.Path (fun v q w => Saving v q w ∧ Spared v) v saves w)
    (distinct : saves.Pairwise fun a b => ¬ SameName a.name b.name)
    (fresh : ∀ q ∈ saves, ∀ i < 512, ¬ SameName (entryName (rootdir v) i) q.name) : Kept v saves w := by
  induction run with
  | nil =>
      exact ⟨rfl,by simp,fun _ _ absent _ => absent,id,fun _ _ _ _ _ _ _ done => done,fun _ _ _ _ _ _ => rfl⟩
  | @step events m q t earlier last ih =>
      obtain ⟨pairs,_,apart⟩ := List.pairwise_append.mp distinct
      have kept := ih pairs fun p member => fresh p (List.mem_append_left _ member)
      exact kept.save last.1 last.2 (fun p member => apart p member q (List.mem_singleton_self q))
        (fresh q (List.mem_append_right _ (List.mem_singleton_self q)))

-- What a load needs to find room for a saved file.
structure HasRoom (v : Volume) (l : LoadRequest) (q : SaveRequest) : Prop where
  checked : fsLoadFileChecks v.root l = .ok ()
  fits : q.sizeInBytes.toNat % 4294967296 < l.bufferSizeInBytes.toNat % 4294967296
  valid : ∀ k < q.fileSize.toNat, checkAddressValidation (bufferAt l.buffer k) = true

-- Every saved file reads back, and what a load of another file yielded before the
-- saves it yields after them.
theorem saved_files_read_back {v w : Volume} {saves : List SaveRequest} (sixteen : v.fatbits = 16)
    (run : Runs.Path (fun v q w => Saving v q w ∧ Spared v) v saves w)
    (distinct : saves.Pairwise fun a b => ¬ SameName a.name b.name)
    (fresh : ∀ q ∈ saves, ∀ i < 512, ¬ SameName (entryName (rootdir v) i) q.name) :
    (∀ q ∈ saves, ∀ l given, Asks l given → SameName given.char q.name → HasRoom w l q → ∀ turns, q.fileSize.toNat ≤ turns →
      fsLoadFile w l turns = .inr ⟨.ok 0,(List.range q.fileSize.toNat).map fun k => ⟨bufferAt l.buffer k,q.data k⟩⟩) ∧
    (∀ l given, Asks l given → (∀ q ∈ saves, ¬ SameName given.char q.name) → ∀ turns code sectors,
      fsLoadFile v l turns = .inr ⟨.ok code,sectors⟩ → fsLoadFile w l turns = .inr ⟨.ok code,sectors⟩) ∧
    (NoFreeReference v → ∀ l given, Asks l given → (∀ q ∈ saves, ¬ SameName given.char q.name) → ∀ turns,
      fsLoadFile w l turns = fsLoadFile v l turns) := by
  have kept := kept_of_saves run distinct fresh
  refine ⟨?_,kept.returned,kept.behaves⟩
  intro q member l given asks same room turns enough
  obtain ⟨name,list,entry,named,full,flag,some,short,stored⟩ := kept.stored q member
  rw [SaveRequest.name_of named] at same
  exact stored.loads some short (kept.fatbits.trans sixteen) (asks.proper room.checked) asks.root asks.full same room.fits
    room.valid enough

-- A root directory of `n` entries on an else empty volume: BBBBBBBBBBB, which
-- begins at cluster 1, and files AAAAAAAAAAA at cluster 0x4141.
def directoryByte (n i : Nat) : UInt8 :=
  if 32*n ≤ i then 0
  else if 32 ≤ i then 0x41
  else if i < 11 then 0x42
  else if i = 26 then 1
  else 0

def withFiles (n : Nat) : Volume where
  numberOfSectors := 65536
  fatbits := 16
  disk := fun lba j => if 559 ≤ lba ∧ lba < 591 then directoryByte n (512*(lba-559)+j) else 0
  fat := fun c => if c = 1 ∨ c = 0x4141 then 0xFFFF else 0
  fatCacheLoaded := true
  fatCacheSaved := false
  directory := fun _ _ => 0
  root := some ⟨true,1234,1,512⟩
  clustersToSave := fun _ => 0

def letters (letter : UInt8) (visible : letter ≠ 0) : CString where
  char := fun i => if i < 11 then letter else 0
  strlen := 11
  inside := by
    intro i below
    rw [if_pos below]
    exact visible
  ended := rfl

def loadLetters (letter : UInt8) (visible : letter ≠ 0) : LoadRequest :=
  ⟨volume1FatAddress,volume1RootdirAddress,512,some (letters letter visible),0x1000000,1024⟩

def saveLetters (letter : UInt8) (visible : letter ≠ 0) : SaveRequest :=
  ⟨volume1FatAddress,volume1RootdirAddress,512,some (letters letter visible),1,512,fun _ _ => 7,0x20⟩

theorem loadLetters_asks (letter : UInt8) (visible : letter ≠ 0) : Asks (loadLetters letter visible) (letters letter visible) :=
  ⟨rfl,rfl,rfl⟩

theorem loadLetters_checked (letter : UInt8) (visible : letter ≠ 0) :
    fsLoadFileChecks (some ⟨true,1234,1,512⟩) (loadLetters letter visible) = .ok () := by
  simp [fsLoadFileChecks,require,pointer,loadLetters,fat16RootEntries,volume1FatAddress,volume1RootdirAddress,bind,Except.bind]

theorem rootdir_withFiles (n : Nat) {i : Nat} (below : i < 16384) : rootdir (withFiles n) i = directoryByte n i := by
  have place : 559 ≤ 559+i/512 ∧ 559+i/512 < 591 := by omega
  rw [rootdir,if_pos below]
  simp only [diskBytes,withFiles,volume1RootdirLba,place,and_self,if_true,Nat.add_sub_cancel_left,Nat.div_add_mod]

theorem withFiles_fresh (n : Nat) {i : Nat} (within : i < 512) :
    ¬ SameName (entryName (rootdir (withFiles n)) i) (letters 0x43 (by decide)).char := by
  intro same
  have first := same 0 (by decide)
  rw [entryName,rootdir_withFiles n (by omega),directoryByte] at first
  split at first
  · cases first
  · split at first
    · cases first
    · rw [if_pos (by omega)] at first
      cases first

theorem allAlong_single {v : Volume} {cluster : UInt16} {Holds : UInt16 → Prop} (here : Holds cluster)
    (mark : EndMark (cachedFat v cluster.toNat)) : AllAlong v cluster Holds := by
  intro k reads
  cases k with
  | zero => exact here
  | succ k => exact absurd (reads 1 (by omega)) (endMark_unreadable mark)

theorem withFiles_noFree {n : Nat} (few : n ≤ 512) : NoFreeReference (withFiles n) := by
  intro i within used
  have bytes : word (rootdir (withFiles n)) (16*i+13) = littleEndian16 (directoryByte n (32*i+26)) (directoryByte n (32*i+27)) := by
    rw [word,show 2*(16*i+13) = 32*i+26 by omega,rootdir_withFiles n (by omega),rootdir_withFiles n (by omega)]
  rw [rootdir_withFiles n (by omega),directoryByte] at used
  have occupied : i < n := by
    by_contra past
    exact used (if_pos (by omega))
  have cluster : word (rootdir (withFiles n)) (16*i+13) = 1 ∨ word (rootdir (withFiles n)) (16*i+13) = 0x4141 := by
    rw [bytes]
    cases i with
    | zero =>
        simp only [directoryByte,show ¬ 32*n ≤ 32*0+26 by omega,show ¬ 32*n ≤ 32*0+27 by omega,if_false]
        exact .inl (by decide)
    | succ i =>
        simp only [directoryByte,show ¬ 32*n ≤ 32*(i+1)+26 by omega,show ¬ 32*n ≤ 32*(i+1)+27 by omega,
          show 32 ≤ 32*(i+1)+26 by omega,show 32 ≤ 32*(i+1)+27 by omega,if_false,if_true]
        exact .inr (by decide)
  rcases cluster with one | other
  · rw [one]
    exact allAlong_single (by simp [cachedFat,withFiles]) (.inr (.inl rfl))
  · rw [other]
    exact allAlong_single (by simp [cachedFat,withFiles]) (.inr (.inl rfl))

theorem withFiles_unused {n i : Nat} (within : i < 512) : rootdir (withFiles n) (32*i) = 0 ↔ n ≤ i := by
  rw [rootdir_withFiles n (by omega),directoryByte]
  constructor
  · intro zero
    by_contra occupied
    rw [if_neg (by omega)] at zero
    split at zero
    · cases zero
    · rw [if_pos (by omega)] at zero
      cases zero
  · intro past
    exact if_pos (by omega)

theorem withFiles_empty {n : Nat} (room : n < 512) : findEmptyDirectoryEntry (rootdir (withFiles n)) 512 = some n := by
  rw [findEmptyDirectoryEntry,if_neg (by decide)]
  simp only [List.find?_range_eq_some,List.mem_range,decide_eq_true_eq,Bool.not_eq_eq_eq_not,Bool.not_true,decide_eq_false_iff_not]
  refine ⟨(withFiles_unused room).mpr (Nat.le_refl n),by simpa using room,?_⟩
  intro j before zero
  exact absurd ((withFiles_unused (by omega)).mp zero) (by omega)

theorem withFiles_lastSector {n : Nat} (few : n ≤ 496) : (withFiles n).disk 590 = fun _ => 0 := by
  funext j
  rw [disk_lastSector,rootdir_withFiles n (by omega)]
  exact if_pos (by omega)

theorem saveClusters_single {data : Nat → Sector} {v : Volume} (first : v.clustersToSave 0 = 3) (second : v.clustersToSave 1 = 0xFFF8)
    (room : 592 < v.numberOfSectors) : ∃ w, saveClusters data 17 0 v = .ok (true,w) ∧ w.numberOfSectors = v.numberOfSectors := by
  have inside : clusterLba 3 < v.numberOfSectors := room
  have positive : v.numberOfSectors ≠ 0 := by omega
  simp [saveClusters,first,second,ataWriteSector,require,inside,positive,bind,Except.bind]

-- A file of one sector finds its place on such a volume.
theorem withFiles_saves {n : Nat} (room : n < 512) (letter : UInt8) (visible : letter ≠ 0) :
    ∃ w, Saving (withFiles n) (saveLetters letter visible) w := by
  have searched : searchEmptyEntries (cachedFat (withFiles n)) clustersToSaveMax 3 1 0 (withFiles n).clustersToSave =
      (true,Function.update (Function.update (withFiles n).clustersToSave 0 3) 1 0xFFF8) := by
    rw [show clustersToSaveMax = 32766+1+1 from rfl]
    simp [searchEmptyEntries,cachedFat,withFiles]
  obtain ⟨middle,linked,kept⟩ := @saveClusters_single (fun _ _ => 7)
    (prepared (withFiles n) (saveLetters letter visible) (letters letter visible)
      (Function.update (Function.update (withFiles n).clustersToSave 0 3) 1 0xFFF8) n) (by simp [prepared]) (by simp [prepared])
    (by simp [prepared,withFiles])
  have scans : Scans (withFiles n) (saveLetters letter visible) (letters letter visible) :=
    ⟨rfl,by simp [saveLetters,volume1RootdirAddress],rfl,by simp [letters],by simp [saveLetters,fat16RootEntries],
      by simp [saveLetters,maxFileSizeInSectors],by simp [withFiles]⟩
  have chosen : findEmptyDirectoryEntry ((cachedVolume (withFiles n)).directory volume1RootdirAddress) 512 = some n := by
    rw [cachedVolume_rootdir]
    exact withFiles_empty room
  rw [← entered_root rfl] at linked
  obtain ⟨w,saved⟩ := fsSaveFile_saves scans searched chosen linked kept
  exact ⟨w,rfl,⟨_,rfl,rfl⟩,by simp [saveLetters],by simp [saveLetters],rfl,saved⟩

-- The file at cluster 1 is what the sector of that cluster holds.
theorem loadLetters_first {v : Volume} {sector : Sector} (sixteen : v.fatbits = 16) (enough : 591 ≤ v.numberOfSectors)
    (checked : fsLoadFileChecks v.root (loadLetters 0x42 (by decide)) = .ok ()) (last : cachedFat v 1 = 0xFFFF)
    (first : firstCluster (rootdir v) (letters 0x42 (by decide)) 1024 = some 1) (holds : v.disk 590 = sector) :
    fsLoadFile v (loadLetters 0x42 (by decide)) 1 = .inr ⟨.ok 0,[⟨0x1000000,sector⟩]⟩ := by
  have proper := (loadLetters_asks 0x42 (by decide)).proper checked
  have size : (loadLetters 0x42 (by decide)).bufferSizeInBytes.toNat % 4294967296 = 1024 := by simp [loadLetters]
  have read : readLba (cachedVolume v) (clusterLba 1) = .ok (some sector) :=
    readLba_ok.mpr (.inl ⟨sixteen,Nat.lt_of_lt_of_le (by decide) enough,by rw [← holds]; rfl⟩)
  have next : (cachedVolume v).fat 1 = 0xFFFF := last
  have valid : checkAddressValidation 0x1000000 = true := by decide
  rw [fsLoadFile_root proper rfl enough,size,first]
  simp [Loops.run,fsLoadFileTurn,read,next,loadLetters,valid,imagesizeLimitInKb]

theorem withFiles_first {n : Nat} (some : 0 < n) :
    firstCluster (rootdir (withFiles n)) (letters 0x42 (by decide)) 1024 = .some 1 := by
  have byte : ∀ i < 32, rootdir (withFiles n) i = if i < 11 then 0x42 else if i = 26 then 1 else 0 := by
    intro i below
    rw [rootdir_withFiles n (by omega),directoryByte,if_neg (by omega),if_neg (by omega)]
  have found : searchEntry (rootdir (withFiles n)) (letters 0x42 (by decide)) 11 fat16RootEntries = .some 0 := by
    refine searchEntry_some.mpr ⟨by decide,(entryMatches_full rfl 0).mpr ?_,by omega⟩
    intro j below
    rw [entryName,byte _ (by omega),if_pos (by omega)]
    exact (if_pos below).symm
  have located : searchEntry (rootdir (withFiles n)) (letters 0x42 (by decide)) (letters 0x42 (by decide)).strlen fat16RootEntries = .some 0 := found
  have size : dword (rootdir (withFiles n)) (32*0+28) = 0 := by
    simp [dword,byte,littleEndian16]
  have cluster : word (rootdir (withFiles n)) (16*0+13) = 1 := by
    simp [word,byte,littleEndian16]
  simp only [firstCluster,located,entrySize,size,Option.bind_some,cluster]
  decide

-- One save after which both files can be read.
theorem saved_file_read_back_once : ∃ w, Saving (withFiles 1) (saveLetters 0x43 (by decide)) w ∧
    fsLoadFile w (loadLetters 0x43 (by decide)) 1 = .inr ⟨.ok 0,[⟨0x1000000,fun _ => 7⟩]⟩ ∧
    fsLoadFile w (loadLetters 0x42 (by decide)) 1 = .inr ⟨.ok 0,[⟨0x1000000,fun _ => 0⟩]⟩ := by
  obtain ⟨w,saving⟩ := @withFiles_saves 1 (by decide) 0x43 (by decide)
  have spared : Spared (withFiles 1) := .inl ⟨1,by decide,by rw [rootdir_withFiles 1 (by decide)]; rfl⟩
  obtain ⟨list,free,wrote⟩ := fsSaveFile_wrote saving.saved saving.root rfl saving.some
  obtain ⟨loads,returned,_⟩ := saved_files_read_back (v := withFiles 1) rfl (.cons ⟨saving,spared⟩ .nil) (List.pairwise_singleton _ _)
    (by
      intro q member i within
      rw [List.mem_singleton.mp member]
      exact withFiles_fresh 1 within)
  refine ⟨w,saving,?_,?_⟩
  · refine (loads _ (List.mem_singleton_self _) _ _ (loadLetters_asks 0x43 (by decide)) (fun _ _ => rfl) ⟨?_,by decide,by decide⟩ 1
      (by decide)).trans rfl
    rw [wrote.root]
    exact loadLetters_checked 0x43 (by decide)
  · refine returned _ _ (loadLetters_asks 0x42 (by decide)) ?_ 1 0 _ ?_
    · intro q member same
      rw [List.mem_singleton.mp member] at same
      exact absurd (same 0 (by decide)) (by decide)
    · exact loadLetters_first rfl (by decide) (loadLetters_checked 0x42 (by decide)) rfl (withFiles_first (by decide))
        (withFiles_lastSector (by decide))

-- Entry 496 is in the last sector of the root directory. A save that takes it
-- changes what the file at cluster 1 yields.
theorem save_changes_other_file : NoFreeReference (withFiles 496) ∧
    ∃ w, Saving (withFiles 496) (saveLetters 0x43 (by decide)) w ∧
      (∀ i < 512, ¬ SameName (entryName (rootdir (withFiles 496)) i) (saveLetters 0x43 (by decide)).name) ∧
      fsLoadFile (withFiles 496) (loadLetters 0x42 (by decide)) 1 = .inr ⟨.ok 0,[⟨0x1000000,fun _ => 0⟩]⟩ ∧
      ∃ sector : Sector, sector 0 = 0x43 ∧
        fsLoadFile w (loadLetters 0x42 (by decide)) 1 = .inr ⟨.ok 0,[⟨0x1000000,sector⟩]⟩ := by
  obtain ⟨w,saving⟩ := @withFiles_saves 496 (by decide) 0x43 (by decide)
  obtain ⟨list,free,wrote⟩ := fsSaveFile_wrote saving.saved saving.root rfl saving.some
  have first := @withFiles_first 496 (by decide)
  refine ⟨withFiles_noFree (by decide),w,saving,fun i within => withFiles_fresh 496 within,?_,w.disk 590,?_,?_⟩
  · exact loadLetters_first rfl (by decide) (loadLetters_checked 0x42 (by decide)) rfl first (withFiles_lastSector (by decide))
  · have empty := (withFiles_unused wrote.inside).mp wrote.empty
    have last : free = 496 := by
      by_contra different
      exact wrote.earliest 496 (by omega) ((withFiles_unused (by decide)).mpr (Nat.le_refl 496))
    subst last
    rw [disk_lastSector,show 15872+(0 : Fin 512).val = 32*496+0 from rfl,wrote.entry (by decide)]
    rfl
  · refine loadLetters_first wrote.fatbits (by rw [wrote.size]; decide) ?_ ?_ ?_ rfl
    · rw [wrote.root]
      exact loadLetters_checked 0x42 (by decide)
    · rw [wrote.fatKept (by decide)]
      rfl
    · rw [wrote.firstCluster (by decide) rfl ?_]
      · exact first
      · intro same
        exact absurd (same 0 (by decide)) (by decide)

end GramadoKernel
