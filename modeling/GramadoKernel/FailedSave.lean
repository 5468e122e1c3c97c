import GramadoKernel.ClusterAllocation

namespace GramadoKernel

-- A save that returns 1 leaves the FAT and the disk as they were, and no save changes a
-- FAT entry in use.
structure SparesUsed (v : Volume) (q : SaveRequest) : Prop where
  failed : ∀ w, fsSaveFile v q = .ok (1,w) → cachedFat w = cachedFat v ∧ w.disk = v.disk
  kept : ∀ value w, fsSaveFile v q = .ok (value,w) → ∀ c, cachedFat v c ≠ 0 → cachedFat w c = cachedFat v c

-- A save that comes to the chain writer.
structure Links (v : Volume) (q : SaveRequest) : Prop where
  scans : ∃ name, Scans v q name
  found : q.fileSize.toNat < (freeClusters (cachedFat v)).length
  slot : findEmptyDirectoryEntry ((cachedVolume v).directory q.dirAddress) q.dirEntries ≠ none

-- The word before the list of clusters, which the chain writer takes for the last one of a
-- file without sectors.
def beforeList (v : Volume) : Nat := (v.clustersToSave (-1)).toNat

section Exits

variable {v w : Volume} {q : SaveRequest} {name : CString} {list : Int → UInt16} {free : Nat} {value : Nat}

theorem cachedFat_listed (v : Volume) (list : Int → UInt16) : cachedFat {cachedVolume v with clustersToSave := list} = cachedFat v :=
  loaded_cachedFat rfl

-- The chain writer of a save does not give up.
theorem saveClusters_done (searched : scannedFat v q = (true,list)) (short : q.fileSize.toNat ≤ maxFileSizeInSectors) :
    saveClusters q.data 17 0 (entered v q name list free) ≠ .ok (false,w) := by
  intro gaveUp
  have picked : Picked (cachedFat v) list q.fileSize.toNat := searchEmptyEntries_picked searched
  rcases saveClusters_outcome q.data picked (v := entered v q name list free) rfl (Nat.zero_le _) short (Nat.zero_add 17)
    with ⟨_,done⟩ | ⟨_,halt,halted⟩
  · rw [gaveUp] at done
    cases done
  · rw [gaveUp] at halted
    cases halted

-- It returns 1 only before it has come to the chain writer.
theorem fsSaveFile_failed (failed : fsSaveFile v q = .ok (1,w)) : cachedFat w = cachedFat v ∧ w.disk = v.disk := by
  cases fsSaveFile_saved failed with
  | refused => exact ⟨rfl,rfl⟩
  | full => exact ⟨cachedFat_listed v _,rfl⟩
  | noEntry => exact ⟨cachedFat_listed v _,rfl⟩
  | unlinked scans searched _ linked => exact absurd linked (saveClusters_done searched scans.short)

-- A file with sectors takes free clusters only.
theorem fsSaveFile_keeps (some : 0 < q.fileSize.toNat) (saved : fsSaveFile v q = .ok (value,w)) {c : Nat} (used : cachedFat v c ≠ 0) :
    cachedFat w c = cachedFat v c := by
  by_cases failed : value = 1
  · subst failed
    exact congrFun (fsSaveFile_failed saved).1 c
  · cases fsSaveFile_saved saved with
    | refused => exact absurd rfl failed
    | full => exact absurd rfl failed
    | noEntry => exact absurd rfl failed
    | unlinked => exact absurd rfl failed
    | @done name list free middle scans searched chosen linked =>
        have picked : Picked (cachedFat v) list q.fileSize.toNat := searchEmptyEntries_picked searched
        have links := saveClusters_linked picked rfl (Nat.zero_le _) some (by omega) linked
        have loaded : middle.fatCacheLoaded = true := congrArg Volume.fatCacheLoaded (saveClusters_rest linked)
        rw [loaded_cachedFat (by exact loaded)]
        refine links.otherFat c fun m _ below same => ?_
        rw [same] at used
        exact used (picked.free m below)

-- The list of a file without sectors has its mark in the first place.
theorem scannedFat_empty (zero : q.fileSize.toNat = 0) (found : 0 < (freeClusters (cachedFat v)).length) :
    ∃ list, scannedFat v q = (true,list) ∧ list 0 = 0xFFF8 ∧ list (-1) = v.clustersToSave (-1) := by
  have success : (scannedFat v q).1 = true := (searchEmptyEntries_found_iff _ _ _ _ _ _).mpr (by rw [zero]; exact found)
  obtain ⟨_,_,marked,kept⟩ := searchEmptyEntries_found (c := 3) (by decide) (Prod.ext success rfl : scannedFat v q = (true,(scannedFat v q).2))
  rw [zero] at marked
  exact ⟨_,Prod.ext success rfl,marked,kept (-1) (by decide)⟩

-- Its chain writer marks the entry that the word before the list names.
theorem fsSaveFile_empty (zero : q.fileSize.toNat = 0) (links : Links v q) :
    ∃ w, fsSaveFile v q = .ok (0,w) ∧ cachedFat w = Function.update (cachedFat v) (beforeList v) 0xFFF8 := by
  obtain ⟨⟨name,scans⟩,found,slot⟩ := links
  obtain ⟨free,chosen⟩ := Option.ne_none_iff_exists'.mp slot
  rw [zero] at found
  obtain ⟨list,searched,first,before⟩ := scannedFat_empty zero found
  have linked : saveClusters q.data 17 0 (entered v q name list free) =
      .ok (true,{entered v q name list free with fat := Function.update (cachedFat v) (list (-1)).toNat 0xFFF8}) := by
    unfold saveClusters
    exact if_pos first
  rw [before] at linked
  obtain ⟨w,saved⟩ := fsSaveFile_saves scans searched chosen linked rfl
  refine ⟨w,saved,?_⟩
  cases fsSaveFile_saved saved with
  | done scans' searched' chosen' linked' =>
      cases scans'.named.symm.trans scans.named
      cases searched'.symm.trans searched
      cases chosen'.symm.trans chosen
      cases linked'.symm.trans linked
      exact loaded_cachedFat rfl

end Exits

theorem sparesUsed_iff (v : Volume) (q : SaveRequest) :
    SparesUsed v q ↔ (q.fileSize = 0 → Links v q → cachedFat v (beforeList v) = 0 ∨ cachedFat v (beforeList v) = 0xFFF8) := by
  constructor
  · intro spares zero links
    obtain ⟨w,saved,marked⟩ := fsSaveFile_empty (by rw [zero]; rfl) links
    by_cases free : cachedFat v (beforeList v) = 0
    · exact .inl free
    · right
      rw [← spares.kept 0 w saved _ free,marked]
      exact Function.update_self (beforeList v) _ _
  · intro condition
    refine ⟨fun w failed => fsSaveFile_failed failed,fun value w saved c used => ?_⟩
    by_cases some : 0 < q.fileSize.toNat
    · exact fsSaveFile_keeps some saved used
    · have zero : q.fileSize.toNat = 0 := by omega
      by_cases links : Links v q
      · obtain ⟨w',saved',marked⟩ := fsSaveFile_empty zero links
        cases saved'.symm.trans saved
        rw [marked]
        by_cases same : c = beforeList v
        · subst same
          rw [Function.update_self]
          exact ((condition (UInt64.toNat_inj.mp zero) links).resolve_left used).symm
        · exact Function.update_of_ne same _ _
      · cases fsSaveFile_saved saved with
        | refused => rfl
        | full => exact congrFun (cachedFat_listed v _) c
        | noEntry => exact congrFun (cachedFat_listed v _) c
        | unlinked scans searched _ linked => exact absurd linked (saveClusters_done searched scans.short)
        | done scans searched chosen linked =>
            refine absurd ⟨⟨_,scans⟩,?_,?_⟩ links
            · exact (searchEmptyEntries_found_iff _ _ _ _ _ _).mp (congrArg Prod.fst searched)
            · rw [chosen]
              exact Option.some_ne_none _

theorem blank_sparesUsed : SparesUsed (fatVolume fun _ => 0) (saveSectors 0) :=
  (sparesUsed_iff _ _).mpr fun _ _ => .inl (congrFun (loaded_cachedFat rfl) _)

-- The word before the list is 0, and entry 0 of the FAT holds the media byte F0.
theorem empty_save_marks : ¬ SparesUsed (fatVolume fun c => if c = 0 then 0xFFF0 else 0) (saveSectors 0) := by
  intro spares
  have cached : cachedFat (fatVolume fun c => if c = 0 then 0xFFF0 else 0) = fun c => if c = 0 then 0xFFF0 else 0 := loaded_cachedFat rfl
  have links : Links (fatVolume fun c => if c = 0 then 0xFFF0 else 0) (saveSectors 0) := by
    refine ⟨⟨fileA,rfl,by decide,rfl,by decide,by decide,by decide,by decide⟩,?_,?_⟩
    · rw [cached,freeClusters,show clustersToSaveMax = 32767+1 from rfl,freeFrom_succ,if_pos (by rfl),List.length_cons,
        show (saveSectors 0).fileSize.toNat = 0 from rfl]
      omega
    · rw [show (saveSectors 0).dirAddress = volume1RootdirAddress from rfl,cachedVolume_rootdir]
      intro full
      have taken := List.find?_eq_none.mp full 0 (List.mem_range.mpr (by decide))
      simp [rootdir,diskBytes,fatVolume] at taken
  rcases (sparesUsed_iff _ _).mp spares rfl links with free | marked
  · rw [cached] at free
    cases free
  · rw [cached] at marked
    cases marked

end GramadoKernel
