import GramadoKernel.SaveFile

namespace GramadoKernel

-- The free entries among `turns` entries of a FAT from `c` on, in increasing order, and
-- those of the entries that fsSaveFile scans.
def freeFrom (fat : Nat → UInt16) (c turns : Nat) : List Nat := (List.range' c turns).filter fun k => fat k = 0
def freeClusters (fat : Nat → UInt16) : List Nat := freeFrom fat 3 clustersToSaveMax

-- The places of the list from `j` on.
def listed (list : Int → UInt16) (j n : Nat) : List Nat := (List.range n).map fun i => (list ((j+i : Nat) : Int)).toNat

-- The clusters are a chain of the FAT, and these entries are the only ones that changed.
structure Chained (before after : Nat → UInt16) (clusters : List Nat) : Prop where
  follows : ∀ i c, clusters[i]? = some c → (after c).toNat = clusters[i+1]?.getD 0xFFF8
  changed : ∀ c, after c ≠ before c ↔ c ∈ clusters

section Scan

variable {fat : Nat → UInt16} {turns c left j : Nat} {list out : Int → UInt16}

theorem freeFrom_succ (fat : Nat → UInt16) (c turns : Nat) :
    freeFrom fat c (turns+1) = if fat c = 0 then c :: freeFrom fat (c+1) turns else freeFrom fat (c+1) turns := by
  simp only [freeFrom,List.range'_succ,List.filter_cons,decide_eq_true_eq]

theorem freeFrom_sorted (fat : Nat → UInt16) (c turns : Nat) : (freeFrom fat c turns).Pairwise (· < ·) :=
  List.Pairwise.filter _ (List.pairwise_lt_range' )

theorem listed_succ (out : Int → UInt16) (j n : Nat) : listed out j (n+1) = (out j).toNat :: listed out (j+1) n := by
  simp only [listed,List.range_succ_eq_map,List.map_cons,List.map_map,Nat.add_zero,List.cons.injEq,true_and]
  apply List.map_congr_left
  intro i _
  simp only [Function.comp_apply,Nat.succ_eq_add_one,Nat.add_assoc,Nat.add_comm 1 i]

-- The scan comes to its end at a free entry more than it needs.
theorem searchEmptyEntries_found_iff (fat : Nat → UInt16) (turns c left j : Nat) (list : Int → UInt16) :
    (searchEmptyEntries fat turns c left j list).1 = true ↔ left < (freeFrom fat c turns).length := by
  induction turns generalizing c left j list with
  | zero => simp [searchEmptyEntries,freeFrom]
  | succ turns ih =>
      rw [freeFrom_succ]
      unfold searchEmptyEntries
      by_cases free : fat c = 0
      · rw [if_pos free,if_pos free]
        cases left with
        | zero => simp
        | succ left =>
            simp only [ih,List.length_cons]
            omega
      · rw [if_neg free,if_neg free,ih]

-- What it has put into the list then are the lowest free entries.
theorem searchEmptyEntries_listed (bound : c+turns ≤ 65536) (found : searchEmptyEntries fat turns c left j list = (true,out)) :
    listed out j left = (freeFrom fat c turns).take left := by
  induction turns generalizing c left j list with
  | zero => simp [searchEmptyEntries] at found
  | succ turns ih =>
      rw [freeFrom_succ]
      unfold searchEmptyEntries at found
      by_cases free : fat c = 0
      · rw [if_pos free] at found ⊢
        cases left with
        | zero => rfl
        | succ left =>
            simp only at found
            obtain ⟨_,_,_,kept⟩ := searchEmptyEntries_found (by omega) found
            have here : (out j).toNat = c := by
              rw [kept j (by omega),Function.update_self,UInt16.toNat_ofNat']
              omega
            rw [listed_succ,here,List.take_succ_cons,ih (by omega) found]
      · rw [if_neg free] at found ⊢
        exact ih (by omega) found

end Scan

section Writer

variable {fat : Nat → UInt16} {list : Int → UInt16} {data : Nat → Sector} {n turns i : Nat} {v w : Volume}

theorem listed_get (list : Int → UInt16) (n i : Nat) : (listed list 0 n)[i]? = if i < n then some (list i).toNat else none := by
  by_cases below : i < n
  · rw [if_pos below,listed,List.getElem?_map,List.getElem?_range below]
    simp
  · rw [if_neg below,listed,List.getElem?_map,List.getElem?_eq_none (by simpa using below)]
    rfl

theorem mem_listed (list : Int → UInt16) (n c : Nat) : c ∈ listed list 0 n ↔ ∃ i < n, c = (list i).toNat := by
  simp [listed,eq_comm]

theorem linked_chained (linked : Linked list data 0 n v w) (picked : Picked v.fat list n) : Chained v.fat w.fat (listed list 0 n) := by
  constructor
  · intro i c place
    rw [listed_get] at place
    split at place
    · rename_i below
      cases place
      rw [linked.next i (Nat.zero_le i) below,listed_get]
      by_cases more : i+1 < n
      · rw [if_pos more]
        rfl
      · have last : n = i+1 := by omega
        rw [if_neg more,show ((i : Nat) : Int)+1 = ((i+1 : Nat) : Int) from rfl,← last,picked.marked]
        rfl
    · cases place
  · intro c
    rw [mem_listed]
    constructor
    · intro changed
      by_contra outside
      exact changed (linked.otherFat c fun m _ below same => outside ⟨m,below,same⟩)
    · rintro ⟨i,below,rfl⟩
      rw [linked.next i (Nat.zero_le i) below,picked.free i below]
      intro zero
      by_cases more : i+1 < n
      · have low := picked.low (i+1) more
        rw [show ((i+1 : Nat) : Int) = (i : Int)+1 from rfl,zero] at low
        exact absurd low (by decide)
      · have marked := picked.marked
        rw [show n = i+1 by omega,show ((i+1 : Nat) : Int) = (i : Int)+1 from rfl,zero] at marked
        exact absurd marked (by decide)

-- The chain writer comes to the mark before it has counted to its limit, or to a sector
-- that the disk does not have.
theorem saveClusters_outcome (data : Nat → Sector) (picked : Picked fat list n) (same : v.clustersToSave = list) (within : i ≤ n) (few : n ≤ 16) (enough : i+turns = 17) :
    (∃ w, saveClusters data turns i v = .ok (true,w)) ∨
      (∃ m : Nat, i ≤ m ∧ m < n ∧ v.numberOfSectors ≤ clusterLba (list m)) ∧ ∃ halt, saveClusters data turns i v = .error halt := by
  induction turns generalizing i v with
  | zero => omega
  | succ turns ih =>
      have entry : ∀ x, v.clustersToSave x = list x := congrFun same
      unfold saveClusters
      simp only [entry]
      rcases Nat.eq_or_lt_of_le within with rfl | below
      · rw [picked.marked]
        exact .inl ⟨_,rfl⟩
      · rw [if_neg (picked.unmarked below)]
        cases wrote : ataWriteSector {v with fat := Function.update v.fat (list i).toNat (list ((i : Int)+1))} (data i) (clusterLba (list i)) with
        | error halt =>
            refine .inr ⟨⟨i,Nat.le_refl i,below,?_⟩,halt,rfl⟩
            by_contra room
            have written : ataWriteSector {v with fat := Function.update v.fat (list i).toNat (list ((i : Int)+1))} (data i)
                (clusterLba (list i)) = .ok _ := ataWriteSector_ok.mpr ⟨Nat.not_le.mp room,rfl⟩
            rw [wrote] at written
            cases written
        | ok next =>
            obtain ⟨_,made⟩ := ataWriteSector_ok.mp wrote
            simp only [bind,Except.bind]
            rw [if_neg (by omega)]
            rcases ih (v := next) (by rw [made]; exact same) below (by omega) with done | ⟨⟨m,above,last,beyond⟩,halted⟩
            · exact .inl done
            · rw [made] at beyond
              exact .inr ⟨⟨m,by omega,last,beyond⟩,halted⟩

end Writer

-- What the allocation of the clusters of a save promises: the scan finds as many as it
-- can have, the lowest in increasing order, and they become a chain of the FAT.
structure Allocates (v : Volume) (q : SaveRequest) : Prop where
  succeeds : (scannedFat v q).1 = true ↔ q.fileSize.toNat ≤ (freeClusters (cachedFat v)).length
  lowest : (scannedFat v q).1 = true → listed (scannedFat v q).2 0 q.fileSize.toNat = (freeClusters (cachedFat v)).take q.fileSize.toNat
  rising : (scannedFat v q).1 = true → (listed (scannedFat v q).2 0 q.fileSize.toNat).Pairwise (· < ·)
  linked : ∀ name free w, (scannedFat v q).1 = true → saveClusters q.data 17 0 (entered v q name (scannedFat v q).2 free) = .ok (true,w) →
    Chained (cachedFat v) w.fat ((freeClusters (cachedFat v)).take q.fileSize.toNat)
  finishes : (scannedFat v q).1 = true →
    (∀ c ∈ (freeClusters (cachedFat v)).take q.fileSize.toNat, volume1DataareaLba+c-2 < v.numberOfSectors) →
      ∀ name free, ∃ w, saveClusters q.data 17 0 (entered v q name (scannedFat v q).2 free) = .ok (true,w)
  saved : ∀ w, fsSaveFile v q = .ok (0,w) → Chained (cachedFat v) (cachedFat w) ((freeClusters (cachedFat v)).take q.fileSize.toNat)

section Allocation

variable {v : Volume} {q : SaveRequest}

theorem scannedFat_listed (found : (scannedFat v q).1 = true) :
    listed (scannedFat v q).2 0 q.fileSize.toNat = (freeClusters (cachedFat v)).take q.fileSize.toNat :=
  searchEmptyEntries_listed (by decide) (Prod.ext found rfl)

theorem scannedFat_picked (found : (scannedFat v q).1 = true) : Picked (cachedFat v) (scannedFat v q).2 q.fileSize.toNat :=
  searchEmptyEntries_picked (Prod.ext found rfl)

theorem scannedFat_chained (some : 0 < q.fileSize.toNat) (found : (scannedFat v q).1 = true) {name : CString} {free : Nat} {w : Volume}
    (linked : saveClusters q.data 17 0 (entered v q name (scannedFat v q).2 free) = .ok (true,w)) :
    Chained (cachedFat v) w.fat ((freeClusters (cachedFat v)).take q.fileSize.toNat) := by
  have picked := scannedFat_picked found
  have links := saveClusters_linked picked rfl (Nat.zero_le _) some (by omega) linked
  rw [← scannedFat_listed found]
  exact linked_chained links picked

-- The scan misses the clusters exactly where there are as many as are asked for.
theorem allocates_iff (some : 1 ≤ q.fileSize.toNat) (few : q.fileSize.toNat ≤ 16) :
    Allocates v q ↔ (freeClusters (cachedFat v)).length ≠ q.fileSize.toNat := by
  have found : (scannedFat v q).1 = true ↔ q.fileSize.toNat < (freeClusters (cachedFat v)).length := searchEmptyEntries_found_iff _ _ _ _ _ _
  constructor
  · intro allocates exactly
    have missed := found.mp (allocates.succeeds.mpr (Nat.le_of_eq exactly.symm))
    omega
  · intro different
    refine ⟨?_,scannedFat_listed,?_,fun name free w found' linked => scannedFat_chained some found' linked,?_,?_⟩
    · rw [found]
      omega
    · intro enough
      rw [scannedFat_listed enough]
      exact (freeFrom_sorted _ _ _).sublist (List.take_sublist _ _)
    · intro enough room name free
      rcases saveClusters_outcome q.data (scannedFat_picked enough) (v := entered v q name (scannedFat v q).2 free) rfl (Nat.zero_le _) few (Nat.zero_add 17)
        with done | ⟨⟨m,_,below,beyond⟩,_⟩
      · exact done
      · have inside := room (((scannedFat v q).2 m).toNat) (by rw [← scannedFat_listed enough]; exact (mem_listed _ _ _).mpr ⟨m,below,rfl⟩)
        exact absurd inside (Nat.not_lt.mpr beyond)
    · intro w saved
      cases fsSaveFile_saved saved with
      | @done name list free middle scans searched chosen linked =>
          have loaded : middle.fatCacheLoaded = true := congrArg Volume.fatCacheLoaded (saveClusters_rest linked)
          have cached : cachedFat {middle with
              disk := written middle.disk (middle.directory volume1RootdirAddress) volume1RootdirLba rootdirSectors
              fatCacheSaved := false} = middle.fat := loaded_cachedFat loaded
          have picked : (scannedFat v q).2 = list := congrArg Prod.snd searched
          rw [cached]
          rw [← picked] at linked
          exact scannedFat_chained some (congrArg Prod.fst searched) linked

end Allocation

-- A volume with this FAT in its cache.
def fatVolume (fat : Nat → UInt16) : Volume where
  numberOfSectors := 65536
  fatbits := 16
  disk := fun _ _ => 0
  fat := fat
  fatCacheLoaded := true
  fatCacheSaved := true
  directory := fun _ _ => 0
  root := some ⟨true,1234,1,512⟩
  clustersToSave := fun _ => 0

def saveSectors (sectors : UInt64) : SaveRequest :=
  ⟨volume1FatAddress,volume1RootdirAddress,512,some fileA,sectors,sectors*512,fun _ _ => 0,0x20⟩

theorem blank_allocates : Allocates (fatVolume fun _ => 0) (saveSectors 16) := by
  refine (allocates_iff (by decide) (by decide)).mpr ?_
  have all : freeClusters (cachedFat (fatVolume fun _ => 0)) = List.range' 3 clustersToSaveMax := by
    rw [loaded_cachedFat rfl]
    exact List.filter_eq_self.mpr fun _ _ => rfl
  rw [all,List.length_range']
  decide

-- The FAT has one free entry, and one sector is to be saved.
theorem last_cluster_missed : ¬ Allocates (fatVolume fun c => if c = 3 then 0 else 0xFFFF) (saveSectors 1) := by
  intro allocates
  have used : freeFrom (fun c => if c = 3 then 0 else 0xFFFF) 4 32767 = [] := by
    refine List.filter_eq_nil_iff.mpr fun k member => ?_
    have above := (List.mem_range'_1.mp member).1
    simp [show k ≠ 3 by omega]
  have one : freeClusters (cachedFat (fatVolume fun c => if c = 3 then 0 else 0xFFFF)) = [3] := by
    rw [loaded_cachedFat rfl,freeClusters,show clustersToSaveMax = 32767+1 from rfl,freeFrom_succ]
    exact congrArg (List.cons 3) used
  have found := allocates.succeeds.mpr (by rw [one]; decide)
  have more := (searchEmptyEntries_found_iff _ _ _ _ _ _).mp found
  rw [← freeClusters,one] at more
  exact absurd more (by decide)

end GramadoKernel
