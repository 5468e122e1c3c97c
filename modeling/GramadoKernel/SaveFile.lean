import GramadoKernel.Library.Runs
import GramadoKernel.LoadFile

namespace GramadoKernel

-- fatlib.h, and the limits written out in fsSaveFile.
def clustersToSaveMax : Nat := 32*1024
def maxFileSizeInSectors : Nat := 16

-- The arguments of fsSaveFile; `data` holds the sectors at file_address.
structure SaveRequest where
  fatAddress : UInt64
  dirAddress : UInt64
  dirEntries : Int
  fileName : Option CString
  fileSize : UInt64
  sizeInBytes : UInt64
  data : Nat → Sector
  flag : UInt8

-- The scan of the FAT for free clusters. One more free entry than the file has
-- sectors is needed: the end of the list is marked only when it is met.
def searchEmptyEntries (fat : Nat → UInt16) : Nat → Nat → Nat → Nat → (Int → UInt16) → Bool × (Int → UInt16)
  | 0,_,_,_,list => (false,list)
  | turns+1,c,fileSize,j,list =>
      if fat c = 0 then
        match fileSize with
        | 0 => (true,Function.update list j 0xFFF8)
        | left+1 => searchEmptyEntries fat turns (c+1) left (j+1) (Function.update list j (UInt16.ofNat c))
      else searchEmptyEntries fat turns (c+1) fileSize j list

-- The bytes of DirEntry[32].
def dirEntry (name : CString) (flag : UInt8) (firstCluster : UInt16) (sizeInBytes : UInt64) (i : Nat) : UInt8 :=
  if i < 8 then name.char i
  else if i < 11 then if flag = 0x10 then 0x20 else name.char i
  else if i < 28 then
    match i with
    | 11 => flag
    | 13 => 0x97
    | 14 => 0xD3
    | 15 => 0xBA
    | 16 => 0xE2
    | 17 => 0x58
    | 18 => 0xE2
    | 19 => 0x58
    | 22 => 0xD3
    | 23 => 0xBA
    | 24 => 0xE2
    | 25 => 0x58
    | 26 => firstCluster.toUInt8
    | 27 => (firstCluster >>> 8).toUInt8
    | _ => 0
  else if flag = 0x10 then 0
  else (sizeInBytes >>> UInt64.ofNat (8*(i-28))).toUInt8

def findEmptyDirectoryEntry (dir : Nat → UInt8) (numberOfEntries : Int) : Option Nat :=
  if numberOfEntries < 0 then none
  else (List.range numberOfEntries.toNat).find? fun i => dir (32*i) = 0

-- memcpy of the 32 bytes of an entry.
def copyEntry (dir : Nat → UInt8) (free : Nat) (entry : Nat → UInt8) : Nat → UInt8 := fun i =>
  if 32*free ≤ i ∧ i < 32*free+32 then entry (i-32*free) else dir i

-- The loop that links the clusters and writes the sectors; `true` where it comes
-- to do_save_dir_and_fat. Its index stays at most 16, so 17 turns are enough.
def saveClusters (data : Nat → Sector) : Nat → Nat → Volume → Except Halt (Bool × Volume)
  | 0,_,v => .ok (false,v)
  | turns+1,i,v =>
      let next := v.clustersToSave i
      if next = 0xFFF8 then
        let last := v.clustersToSave ((i : Int)-1)
        .ok (true,{v with fat := Function.update v.fat last.toNat 0xFFF8})
      else do
        let v := {v with fat := Function.update v.fat next.toNat (v.clustersToSave ((i : Int)+1))}
        let v ← ataWriteSector v (data i) (clusterLba next)
        if 16 < i+1 then .ok (false,v) else saveClusters data turns (i+1) v

def fsSaveFile (v : Volume) (q : SaveRequest) : Except Halt (Nat × Volume) := do
  require (q.fatAddress ≠ 0) (.panic "fsSaveFile: fat_address\n")
  require (q.dirAddress ≠ 0) (.panic "fsSaveFile: dir_address\n")
  require (q.fatAddress = volume1FatAddress) (.panic "fsSaveFile: fat_address\n")
  match q.fileName with
  | none => .ok (1,v)
  | some name =>
      if name.strlen = 0 then .ok (1,v)
      else
        require (q.dirEntries ≠ 0 ∧ q.dirEntries ≤ fat16RootEntries) (.panic "fsSaveFile: [FAIL] max dir entries")
        if maxFileSizeInSectors < q.fileSize.toNat then .ok (1,v)
        else
          let v ← fsLoadRootdir v
          let v ← fsLoadFat v
          let (found,list) := searchEmptyEntries v.fat clustersToSaveMax 3 q.fileSize.toNat 0 v.clustersToSave
          let v := {v with clustersToSave := list}
          if found = false then .ok (1,v)
          else
            match findEmptyDirectoryEntry (v.directory q.dirAddress) q.dirEntries with
            | none => .ok (1,v)
            | some free =>
                let entry := dirEntry name q.flag (v.clustersToSave 0) q.sizeInBytes
                let dir := copyEntry (v.directory q.dirAddress) free entry
                let v := {v with directory := Function.update v.directory q.dirAddress dir}
                let (done,v) ← saveClusters q.data 17 0 v
                if done = false then .ok (1,v)
                else
                  let v ← fsSaveRootdir v
                  .ok (0,{v with fatCacheSaved := false})

-- The list that the scan leaves: `n` different free clusters and the mark.
structure Picked (fat : Nat → UInt16) (list : Int → UInt16) (n : Nat) : Prop where
  free : ∀ i : Nat, i < n → fat (list i).toNat = 0
  low : ∀ i : Nat, i < n → 3 ≤ (list i).toNat
  high : ∀ i : Nat, i < n → (list i).toNat < 3+clustersToSaveMax
  rising : ∀ i j : Nat, i < j → j < n → (list i).toNat < (list j).toNat
  marked : list n = 0xFFF8

theorem searchEmptyEntries_found {fat : Nat → UInt16} {turns c left j : Nat} {list out : Int → UInt16}
    (bound : c+turns ≤ 65536) (found : searchEmptyEntries fat turns c left j list = (true,out)) :
    (∀ i : Nat, j ≤ i → i < j+left → fat (out i).toNat = 0 ∧ c ≤ (out i).toNat ∧ (out i).toNat < c+turns) ∧
      (∀ i k : Nat, j ≤ i → i < k → k < j+left → (out i).toNat < (out k).toNat) ∧
      out ((j+left : Nat) : Int) = 0xFFF8 ∧ ∀ i : Int, i < j → out i = list i := by
  induction turns generalizing c left j list with
  | zero => simp [searchEmptyEntries] at found
  | succ turns ih =>
      unfold searchEmptyEntries at found
      split at found
      · rename_i free
        cases left with
        | zero =>
            simp only [Prod.mk.injEq,true_and] at found
            subst found
            refine ⟨by omega,by omega,by simp,?_⟩
            intro i before
            exact Function.update_of_ne (by omega) _ _
        | succ left =>
            simp only at found
            obtain ⟨picked,rising,marked,kept⟩ := ih (by omega) found
            have here : out (j : Int) = UInt16.ofNat c := by
              rw [kept j (by omega),Function.update_self]
            have value : (out (j : Int)).toNat = c := by
              rw [here,UInt16.toNat_ofNat']
              omega
            refine ⟨?_,?_,?_,?_⟩
            · intro i from_ below
              rcases Nat.eq_or_lt_of_le from_ with rfl | later
              · rw [value]
                exact ⟨free,by omega,by omega⟩
              · obtain ⟨zero,low,high⟩ := picked i later (by omega)
                exact ⟨zero,by omega,by omega⟩
            · intro i k from_ order below
              rcases Nat.eq_or_lt_of_le from_ with rfl | later
              · obtain ⟨_,low,_⟩ := picked k order (by omega)
                omega
              · exact rising i k later order (by omega)
            · rw [show j+(left+1) = j+1+left by omega]
              exact marked
            · intro i before
              rw [kept i (by omega)]
              exact Function.update_of_ne (by omega) _ _
      · obtain ⟨picked,rest⟩ := ih (by omega) found
        refine ⟨?_,rest⟩
        intro i from_ below
        obtain ⟨zero,low,high⟩ := picked i from_ below
        exact ⟨zero,by omega,by omega⟩

theorem searchEmptyEntries_picked {fat : Nat → UInt16} {n : Nat} {list out : Int → UInt16}
    (found : searchEmptyEntries fat clustersToSaveMax 3 n 0 list = (true,out)) : Picked fat out n := by
  obtain ⟨picked,rising,marked,_⟩ := searchEmptyEntries_found (by decide) found
  simp only [Nat.zero_add] at picked rising marked
  exact ⟨fun i below => (picked i (by omega) below).1,fun i below => (picked i (by omega) below).2.1,
    fun i below => (picked i (by omega) below).2.2,fun i j order below => rising i j (by omega) order below,marked⟩

theorem Picked.unmarked (picked : Picked fat list n) {i : Nat} (below : i < n) : list i ≠ 0xFFF8 := by
  intro same
  have high := picked.high i below
  rw [same] at high
  revert high
  decide

theorem Picked.differ (picked : Picked fat list n) {i j : Nat} (first : i < n) (second : j < n) (different : i ≠ j) :
    (list i).toNat ≠ (list j).toNat := by
  rcases Nat.lt_or_gt_of_ne different with order | order
  · have rising := picked.rising i j order second
    omega
  · have rising := picked.rising j i order first
    omega

theorem clusterLba_injective {a b : UInt16} (first : 1 ≤ a.toNat) (second : 1 ≤ b.toNat) (same : clusterLba a = clusterLba b) :
    a.toNat = b.toNat := by
  simp only [clusterLba,volume1DataareaLba] at same
  omega

-- What the chain writer does from index `start` on: every cluster of the list is
-- linked to the next one and holds its sector, and nothing else changes.
structure Linked (list : Int → UInt16) (data : Nat → Sector) (start n : Nat) (v w : Volume) : Prop where
  rest : w = {v with fat := w.fat,disk := w.disk}
  room : ∀ m : Nat, start ≤ m → m < n → clusterLba (list m) < v.numberOfSectors
  next : ∀ m : Nat, start ≤ m → m < n → w.fat (list m).toNat = list ((m : Int)+1)
  sector : ∀ m : Nat, start ≤ m → m < n → w.disk (clusterLba (list m)) = data m
  otherFat : ∀ c, (∀ m : Nat, start ≤ m → m < n → c ≠ (list m).toNat) → w.fat c = v.fat c
  otherDisk : ∀ lba, (∀ m : Nat, start ≤ m → m < n → lba ≠ clusterLba (list m)) → w.disk lba = v.disk lba

theorem saveClusters_linked {fat : Nat → UInt16} {list : Int → UInt16} {data : Nat → Sector} {n turns i : Nat} {v w : Volume}
    (picked : Picked fat list n) (same : v.clustersToSave = list) (within : i ≤ n) (some : 0 < n)
    (behind : 0 < i → v.fat (list ((i : Int)-1)).toNat = list i)
    (done : saveClusters data turns i v = .ok (true,w)) : Linked list data i n v w := by
  induction turns generalizing i v with
  | zero => simp [saveClusters] at done
  | succ turns ih =>
      have entry : ∀ x, v.clustersToSave x = list x := congrFun same
      unfold saveClusters at done
      simp only [entry] at done
      rcases Nat.eq_or_lt_of_le within with rfl | below
      · simp only [picked.marked,if_true,Except.ok.injEq,Prod.mk.injEq,true_and] at done
        have unchanged : Function.update v.fat (list ((i : Int)-1)).toNat 0xFFF8 = v.fat := by
          rw [← picked.marked,← behind some]
          exact Function.update_eq_self _ _
        rw [unchanged] at done
        subst done
        exact ⟨rfl,by omega,by omega,by omega,fun _ _ => rfl,fun _ _ => rfl⟩
      · simp only [picked.unmarked below,if_false,bind_ok,ataWriteSector_ok] at done
        obtain ⟨middle,⟨inside,rfl⟩,done⟩ := done
        split at done
        · simp at done
        · have previous : ((i+1 : Nat) : Int)-1 = i := by omega
          have later := ih (by exact same) below (fun _ => by rw [previous]; exact Function.update_self _ _ _) done
          have apart : ∀ m : Nat, i+1 ≤ m → m < n → (list i).toNat ≠ (list m).toNat :=
            fun m start stop => picked.differ below stop (by omega)
          refine ⟨later.rest,?_,?_,?_,?_,?_⟩
          · intro m start stop
            rcases Nat.eq_or_lt_of_le start with rfl | more
            · exact inside
            · exact later.room m more stop
          · intro m start stop
            rcases Nat.eq_or_lt_of_le start with rfl | more
            · rw [later.otherFat _ apart]
              exact Function.update_self _ _ _
            · exact later.next m more stop
          · intro m start stop
            rcases Nat.eq_or_lt_of_le start with rfl | more
            · rw [later.otherDisk]
              · exact Function.update_self _ _ _
              · intro k first last equal
                have one := picked.low i below
                have two := picked.low k last
                exact apart k first last (clusterLba_injective (by omega) (by omega) equal)
            · exact later.sector m more stop
          · intro c other
            rw [later.otherFat c (fun m start stop => other m (by omega) stop)]
            exact Function.update_of_ne (other i (Nat.le_refl i) below) _ _
          · intro lba other
            rw [later.otherDisk lba (fun m start stop => other m (by omega) stop)]
            exact Function.update_of_ne (other i (Nat.le_refl i) below) _ _

-- The chain writer changes the FAT and the disk only.
theorem saveClusters_rest {data : Nat → Sector} {turns i : Nat} {v w : Volume} {done : Bool} (called : saveClusters data turns i v = .ok (done,w)) :
    w = {v with fat := w.fat,disk := w.disk} := by
  induction turns generalizing i v with
  | zero =>
      cases called
      rfl
  | succ turns ih =>
      simp only [saveClusters] at called
      split at called
      · simp only [Except.ok.injEq,Prod.mk.injEq] at called
        obtain ⟨_,rfl⟩ := called
        rfl
      · simp only [bind_ok,ataWriteSector_ok] at called
        obtain ⟨_,⟨_,rfl⟩,called⟩ := called
        split at called
        · simp only [Except.ok.injEq,Prod.mk.injEq] at called
          obtain ⟨_,rfl⟩ := called
          rfl
        · have rest := ih called
          exact rest

-- All that a save into the root directory does when it returns 0: the clusters
-- of `list` and the directory entry `free` change, in the cache and on the disk.
structure Wrote (v : Volume) (q : SaveRequest) (name : CString) (list : Int → UInt16) (free : Nat) (w : Volume) : Prop where
  picked : Picked (cachedFat v) list q.fileSize.toNat
  inside : free < 512
  empty : rootdir v (32*free) = 0
  earliest : ∀ j < free, rootdir v (32*j) ≠ 0
  size : w.numberOfSectors = v.numberOfSectors
  enough : 591 ≤ v.numberOfSectors
  fatbits : w.fatbits = v.fatbits
  root : w.root = v.root
  loaded : w.fatCacheLoaded = true
  room : ∀ m : Nat, m < q.fileSize.toNat → clusterLba (list m) < v.numberOfSectors
  next : ∀ m : Nat, m < q.fileSize.toNat → cachedFat w (list m).toNat = list ((m : Int)+1)
  otherFat : ∀ c, (∀ m : Nat, m < q.fileSize.toNat → c ≠ (list m).toNat) → cachedFat w c = cachedFat v c
  sector : ∀ m : Nat, m < q.fileSize.toNat → w.disk (clusterLba (list m)) = q.data m
  otherDisk : ∀ lba, 591 ≤ lba → (∀ m : Nat, m < q.fileSize.toNat → lba ≠ clusterLba (list m)) → w.disk lba = v.disk lba
  directory : ∀ i < 16384, rootdir w i = copyEntry (rootdir v) free (dirEntry name q.flag (list 0) q.sizeInBytes) i

theorem findEmptyDirectoryEntry_some {dir : Nat → UInt8} {entries : Int} {free : Nat}
    (found : findEmptyDirectoryEntry dir entries = some free) :
    (free : Int) < entries ∧ dir (32*free) = 0 ∧ ∀ j < free, dir (32*j) ≠ 0 := by
  unfold findEmptyDirectoryEntry at found
  split at found
  · cases found
  · simp only [List.find?_range_eq_some,List.mem_range,decide_eq_true_eq,Bool.not_eq_eq_eq_not,Bool.not_true,
      decide_eq_false_iff_not] at found
    exact ⟨by omega,found.1,found.2.2⟩

-- A volume with its root directory and its FAT read in.
def cachedVolume (v : Volume) : Volume :=
  {v with
    directory := Function.update v.directory volume1RootdirAddress (rootdir v)
    fat := cachedFat v
    fatCacheLoaded := true}

-- The directory at an address as a load or a save of it finds it.
def directoryAt (v : Volume) (dirAddress : UInt64) : Nat → UInt8 := (cachedVolume v).directory dirAddress

-- The volume when the chain writer starts.
def prepared (v : Volume) (q : SaveRequest) (name : CString) (list : Int → UInt16) (free : Nat) : Volume :=
  {v with
    fat := cachedFat v
    fatCacheLoaded := true
    directory := Function.update v.directory volume1RootdirAddress
      (copyEntry (rootdir v) free (dirEntry name q.flag (list 0) q.sizeInBytes))
    clustersToSave := list}

-- The same for a save into any directory.
def entered (v : Volume) (q : SaveRequest) (name : CString) (list : Int → UInt16) (free : Nat) : Volume :=
  {cachedVolume v with
    directory := Function.update (cachedVolume v).directory q.dirAddress
      (copyEntry ((cachedVolume v).directory q.dirAddress) free (dirEntry name q.flag (list 0) q.sizeInBytes))
    clustersToSave := list}

-- A request that comes to the scan of the FAT.
structure Scans (v : Volume) (q : SaveRequest) (name : CString) : Prop where
  fat : q.fatAddress = volume1FatAddress
  dir : q.dirAddress ≠ 0
  named : q.fileName = some name
  visible : name.strlen ≠ 0
  entries : q.dirEntries ≠ 0 ∧ q.dirEntries ≤ fat16RootEntries
  short : q.fileSize.toNat ≤ maxFileSizeInSectors
  enough : 591 ≤ v.numberOfSectors

def scannedFat (v : Volume) (q : SaveRequest) : Bool × (Int → UInt16) :=
  searchEmptyEntries (cachedFat v) clustersToSaveMax 3 q.fileSize.toNat 0 v.clustersToSave

-- What such a request comes to.
theorem fsSaveFile_scans {v : Volume} {q : SaveRequest} {name : CString} (scans : Scans v q name) :
    fsSaveFile v q =
      if (scannedFat v q).1 = false then .ok (1,{cachedVolume v with clustersToSave := (scannedFat v q).2})
      else
        match findEmptyDirectoryEntry ((cachedVolume v).directory q.dirAddress) q.dirEntries with
        | none => .ok (1,{cachedVolume v with clustersToSave := (scannedFat v q).2})
        | some free => (do
            let (done,v) ← saveClusters q.data 17 0 (entered v q name (scannedFat v q).2 free)
            if done = false then .ok (1,v)
            else
              let v ← fsSaveRootdir v
              .ok (0,{v with fatCacheSaved := false})) := by
  have directory : fsLoadRootdir v = .ok {v with directory := Function.update v.directory volume1RootdirAddress (rootdir v)} :=
    fsLoadRootdir_ok.mpr ⟨scans.enough,rfl⟩
  have cache : fsLoadFat {v with directory := Function.update v.directory volume1RootdirAddress (rootdir v)} = .ok (cachedVolume v) :=
    fsLoadFat_ok.mpr ⟨.inr (Nat.le_trans (by decide) scans.enough),rfl⟩
  have address : volume1FatAddress ≠ 0 := by decide
  simp only [fsSaveFile,require,scans.fat,scans.dir,scans.named,scans.visible,scans.entries,Nat.not_lt.mpr scans.short,directory,cache,address,
    bind,Except.bind,if_true,if_false,ne_eq,not_false_eq_true,and_self]
  rfl

theorem fsSaveFile_unscanned {v w : Volume} {q : SaveRequest} {value : Nat} (unscanned : ∀ name, ¬ Scans v q name)
    (saved : fsSaveFile v q = .ok (value,w)) : value = 1 ∧ w = v := by
  unfold fsSaveFile at saved
  simp only [bind_ok,require_ok] at saved
  obtain ⟨_,_,_,dir,_,fat,saved⟩ := saved
  cases named : q.fileName with
  | none =>
      simp only [named,Except.ok.injEq,Prod.mk.injEq] at saved
      exact ⟨saved.1.symm,saved.2.symm⟩
  | some name =>
      simp only [named] at saved
      split at saved
      · simp only [Except.ok.injEq,Prod.mk.injEq] at saved
        exact ⟨saved.1.symm,saved.2.symm⟩
      · rename_i visible
        simp only [bind_ok,require_ok] at saved
        obtain ⟨_,entries,saved⟩ := saved
        split at saved
        · simp only [Except.ok.injEq,Prod.mk.injEq] at saved
          exact ⟨saved.1.symm,saved.2.symm⟩
        · rename_i short
          simp only [bind_ok,fsLoadRootdir_ok] at saved
          obtain ⟨_,⟨enough,_⟩,_⟩ := saved
          exact absurd ⟨fat,dir,named,visible,entries,Nat.not_lt.mp short,enough⟩ (unscanned name)

-- The ways a save returns.
inductive Saved (v : Volume) (q : SaveRequest) : Nat → Volume → Prop where
  | refused : Saved v q 1 v
  | full (scans : Scans v q name) (searched : scannedFat v q = (false,list)) : Saved v q 1 {cachedVolume v with clustersToSave := list}
  | noEntry (scans : Scans v q name) (searched : scannedFat v q = (true,list))
      (chosen : findEmptyDirectoryEntry ((cachedVolume v).directory q.dirAddress) q.dirEntries = none) :
      Saved v q 1 {cachedVolume v with clustersToSave := list}
  | unlinked (scans : Scans v q name) (searched : scannedFat v q = (true,list))
      (chosen : findEmptyDirectoryEntry ((cachedVolume v).directory q.dirAddress) q.dirEntries = some free)
      (linked : saveClusters q.data 17 0 (entered v q name list free) = .ok (false,middle)) : Saved v q 1 middle
  | done (scans : Scans v q name) (searched : scannedFat v q = (true,list))
      (chosen : findEmptyDirectoryEntry ((cachedVolume v).directory q.dirAddress) q.dirEntries = some free)
      (linked : saveClusters q.data 17 0 (entered v q name list free) = .ok (true,middle)) : Saved v q 0 {middle with
        disk := written middle.disk (middle.directory volume1RootdirAddress) volume1RootdirLba rootdirSectors
        fatCacheSaved := false}

theorem fsSaveFile_saved {v w : Volume} {q : SaveRequest} {value : Nat} (saved : fsSaveFile v q = .ok (value,w)) : Saved v q value w := by
  by_cases some : ∃ name, Scans v q name
  · obtain ⟨name,scans⟩ := some
    rw [fsSaveFile_scans scans] at saved
    obtain ⟨found,list,searched⟩ : ∃ found list, scannedFat v q = (found,list) := ⟨_,_,rfl⟩
    rw [searched] at saved
    cases found with
    | false =>
        simp only [if_true,Except.ok.injEq,Prod.mk.injEq] at saved
        obtain ⟨rfl,rfl⟩ := saved
        exact .full scans searched
    | true =>
        simp only [Bool.true_eq_false,if_false] at saved
        cases chosen : findEmptyDirectoryEntry ((cachedVolume v).directory q.dirAddress) q.dirEntries with
        | none =>
            simp only [chosen,Except.ok.injEq,Prod.mk.injEq] at saved
            obtain ⟨rfl,rfl⟩ := saved
            exact .noEntry scans searched chosen
        | some free =>
            simp only [chosen,bind_ok] at saved
            obtain ⟨⟨done,middle⟩,linked,saved⟩ := saved
            cases done with
            | false =>
                simp only [if_true,Except.ok.injEq,Prod.mk.injEq] at saved
                obtain ⟨rfl,rfl⟩ := saved
                exact .unlinked scans searched chosen linked
            | true =>
                simp only [Bool.true_eq_false,if_false,bind_ok,fsSaveRootdir,doSaveSequence_ok,Except.ok.injEq,Prod.mk.injEq] at saved
                obtain ⟨_,⟨_,rfl⟩,rfl,rfl⟩ := saved
                exact .done scans searched chosen linked
  · obtain ⟨rfl,rfl⟩ := fsSaveFile_unscanned (not_exists.mp some) saved
    exact .refused

theorem directoryAt_other (v : Volume) {dirAddress : UInt64} (other : dirAddress ≠ volume1RootdirAddress) :
    directoryAt v dirAddress = v.directory dirAddress :=
  Function.update_of_ne other _ _

theorem cachedVolume_rootdir (v : Volume) : (cachedVolume v).directory volume1RootdirAddress = rootdir v :=
  Function.update_self volume1RootdirAddress _ v.directory

theorem directoryAt_root (v : Volume) : directoryAt v volume1RootdirAddress = rootdir v := cachedVolume_rootdir v

theorem entered_root {v : Volume} {q : SaveRequest} (root : q.dirAddress = volume1RootdirAddress) (name : CString) (list : Int → UInt16) (free : Nat) :
    entered v q name list free = prepared v q name list free := by
  simp only [entered,prepared,cachedVolume,root,Function.update_self,Function.update_idem]

-- The other direction: a save whose parts go through returns 0.
theorem fsSaveFile_saves {v middle : Volume} {q : SaveRequest} {name : CString} {list : Int → UInt16} {free : Nat} (scans : Scans v q name)
    (searched : scannedFat v q = (true,list))
    (chosen : findEmptyDirectoryEntry ((cachedVolume v).directory q.dirAddress) q.dirEntries = some free)
    (linked : saveClusters q.data 17 0 (entered v q name list free) = .ok (true,middle))
    (kept : middle.numberOfSectors = v.numberOfSectors) : ∃ w, fsSaveFile v q = .ok (0,w) := by
  have saved : fsSaveRootdir middle = .ok {middle with
      disk := written middle.disk (middle.directory volume1RootdirAddress) volume1RootdirLba rootdirSectors} :=
    doSaveSequence_ok.mpr ⟨.inr (by rw [kept]; exact scans.enough),rfl⟩
  simp only [fsSaveFile_scans scans,searched,chosen,linked,saved,bind,Except.bind,Bool.true_eq_false,if_false]
  exact ⟨_,rfl⟩

-- All that a save does when it returns 0: an entry of the directory changes, in memory and
-- for the root directory on the disk, and the clusters of `list` where there are any.
structure Stores (v : Volume) (q : SaveRequest) (name : CString) (list : Int → UInt16) (free : Nat) (w : Volume) : Prop where
  scans : Scans v q name
  picked : Picked (cachedFat v) list q.fileSize.toNat
  chosen : findEmptyDirectoryEntry (directoryAt v q.dirAddress) q.dirEntries = some free
  rest : w = {v with
    fat := w.fat
    disk := w.disk
    directory := w.directory
    fatCacheLoaded := true
    fatCacheSaved := false
    clustersToSave := list}
  directory : ∀ i < 16384, directoryAt w q.dirAddress i = copyEntry (directoryAt v q.dirAddress) free (dirEntry name q.flag (list 0) q.sizeInBytes) i
  room : ∀ m : Nat, m < q.fileSize.toNat → clusterLba (list m) < v.numberOfSectors
  next : ∀ m : Nat, m < q.fileSize.toNat → cachedFat w (list m).toNat = list ((m : Int)+1)
  otherFat : 0 < q.fileSize.toNat → ∀ c, (∀ m : Nat, m < q.fileSize.toNat → c ≠ (list m).toNat) → cachedFat w c = cachedFat v c
  sector : ∀ m : Nat, m < q.fileSize.toNat → w.disk (clusterLba (list m)) = q.data m
  otherDisk : 0 < q.fileSize.toNat → ∀ lba, 591 ≤ lba → (∀ m : Nat, m < q.fileSize.toNat → lba ≠ clusterLba (list m)) → w.disk lba = v.disk lba

theorem written_root {disk : Nat → Sector} {memory : Nat → UInt8} {v : Volume} (saved : v.disk = written disk memory volume1RootdirLba rootdirSectors)
    {i : Nat} (below : i < 16384) : rootdir v i = memory i := by
  have within : volume1RootdirLba ≤ volume1RootdirLba+i/512 ∧ volume1RootdirLba+i/512 < volume1RootdirLba+rootdirSectors := by
    simp only [volume1RootdirLba,rootdirSectors]
    omega
  rw [rootdir,if_pos below,diskBytes,saved]
  simp only [written,within,and_self,if_true,Nat.add_sub_cancel_left,Nat.div_add_mod']

theorem loaded_cachedFat {v : Volume} (loaded : v.fatCacheLoaded = true) : cachedFat v = v.fat := by
  funext c
  simp [cachedFat,loaded]

theorem fsSaveFile_stores {v w : Volume} {q : SaveRequest} (saved : fsSaveFile v q = .ok (0,w)) : ∃ name list free, Stores v q name list free w := by
  cases fsSaveFile_saved saved with
  | @done name list free middle scans searched chosen linked =>
      have picked : Picked (cachedFat v) list q.fileSize.toNat := searchEmptyEntries_picked searched
      have kept := saveClusters_rest linked
      have memory : middle.directory = (entered v q name list free).directory := by rw [kept]
      have cached : ∀ c, cachedFat {middle with
          disk := written middle.disk (middle.directory volume1RootdirAddress) volume1RootdirLba rootdirSectors
          fatCacheSaved := false} c = middle.fat c := congrFun (loaded_cachedFat (show middle.fatCacheLoaded = true by rw [kept]; rfl))
      have links : 0 < q.fileSize.toNat → Linked list q.data 0 q.fileSize.toNat (entered v q name list free) middle :=
        fun some => saveClusters_linked picked rfl (Nat.zero_le _) some (by omega) linked
      have beyond : ∀ lba, 591 ≤ lba →
          written middle.disk (middle.directory volume1RootdirAddress) volume1RootdirLba rootdirSectors lba = middle.disk lba := by
        intro lba past
        refine if_neg ?_
        simp only [volume1RootdirLba,rootdirSectors]
        omega
      refine ⟨name,list,free,scans,picked,chosen,?_,?_,?_,?_,?_,?_,?_⟩
      · rw [kept]
        rfl
      · intro i below
        have entry : middle.directory q.dirAddress = copyEntry (directoryAt v q.dirAddress) free (dirEntry name q.flag (list 0) q.sizeInBytes) := by
          rw [memory]
          exact Function.update_self q.dirAddress _ _
        by_cases root : q.dirAddress = volume1RootdirAddress
        · rw [← entry,root,directoryAt_root]
          exact written_root rfl below
        · rw [directoryAt_other _ root,← entry]
      · exact fun m below => (links (by omega)).room m (Nat.zero_le m) below
      · intro m below
        rw [cached]
        exact (links (by omega)).next m (Nat.zero_le m) below
      · intro some c other
        rw [cached]
        exact (links some).otherFat c (fun m _ below => other m below)
      · intro m below
        have low := picked.low m below
        have past : 591 ≤ clusterLba (list m) := by
          simp only [clusterLba,volume1DataareaLba]
          omega
        exact (beyond _ past).trans ((links (by omega)).sector m (Nat.zero_le m) below)
      · intro some lba past other
        exact (beyond lba past).trans ((links some).otherDisk lba (fun m _ below => other m below))

theorem fsSaveFile_wrote {v w : Volume} {q : SaveRequest} {name : CString} (saved : fsSaveFile v q = .ok (0,w))
    (root : q.dirAddress = volume1RootdirAddress) (named : q.fileName = some name) (some : 0 < q.fileSize.toNat) :
    ∃ list free, Wrote v q name list free w := by
  obtain ⟨found,list,free,stores⟩ := fsSaveFile_stores saved
  cases named.symm.trans stores.scans.named
  obtain ⟨inside,empty,earliest⟩ := findEmptyDirectoryEntry_some stores.chosen
  have entries := stores.scans.entries.2
  have directory := stores.directory
  simp only [root,directoryAt_root] at empty earliest directory
  refine ⟨list,free,stores.picked,?_,empty,earliest,?_,stores.scans.enough,?_,?_,?_,stores.room,stores.next,stores.otherFat some,stores.sector,
    stores.otherDisk some,directory⟩
  · simp only [fat16RootEntries] at entries
    omega
  · rw [stores.rest]
  · rw [stores.rest]
  · rw [stores.rest]
  · rw [stores.rest]

end GramadoKernel
