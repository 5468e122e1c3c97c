import GramadoKernel.SaveRuns

namespace GramadoKernel

-- A live entry under the given name. Its first byte is not 0, as the name's is not.
structure NamedEntry (dir : Nat → UInt8) (name : CString) (i : Nat) : Prop where
  inside : i < 512
  live : dir (32*i) ≠ 0xE5
  named : SameName (entryName dir i) name.char

-- After a save the directory has one live entry of the name, and a load yields the data.
structure Replaces (w : Volume) (q : SaveRequest) (name : CString) (l : LoadRequest) : Prop where
  one : ∃ i, NamedEntry (directoryAt w q.dirAddress) name i ∧ ∀ j, NamedEntry (directoryAt w q.dirAddress) name j → j = i
  yields : ∃ turns, fsLoadFile w l turns = .inr ⟨.ok 0,(List.range q.fileSize.toNat).map fun k => ⟨bufferAt l.buffer k,q.data k⟩⟩

-- No entry has the name yet, there is a sector to save, and the first byte of the name is
-- not the one of a deleted entry.
structure FreshSave (v : Volume) (q : SaveRequest) (name : CString) : Prop where
  absent : ∀ i < 512, ¬ SameName (entryName (directoryAt v q.dirAddress) i) name.char
  some : 0 < q.fileSize.toNat
  visible : name.char 0 ≠ 0xE5

-- A load of the saved name, into a buffer with room for the file.
structure LoadsSaved (v : Volume) (q : SaveRequest) (name : CString) (l : LoadRequest) (given : CString) : Prop where
  dir : l.dirAddress = q.dirAddress
  asked : l.fileName = some given
  full : given.strlen = 11
  same : SameName given.char name.char
  checked : fsLoadFileChecks v.root l = .ok ()
  fits : q.sizeInBytes.toNat % 4294967296 < l.bufferSizeInBytes.toNat % 4294967296
  valid : ∀ k < q.fileSize.toNat, checkAddressValidation (bufferAt l.buffer k) = true

section Stores

variable {v w : Volume} {q : SaveRequest} {name : CString} {list : Int → UInt16} {free : Nat}

theorem Stores.inside (stores : Stores v q name list free w) : free < 512 := by
  have entries := stores.scans.entries.2
  obtain ⟨below,_⟩ := findEmptyDirectoryEntry_some stores.chosen
  simp only [fat16RootEntries] at entries
  omega

theorem Stores.entry (stores : Stores v q name list free w) {k : Nat} (below : k < 32) :
    directoryAt w q.dirAddress (32*free+k) = dirEntry name q.flag (list 0) q.sizeInBytes k :=
  copied_entry stores.directory stores.inside below

-- Another entry keeps its name.
theorem Stores.renamed (stores : Stores v q name list free w) {i : Nat} (within : i < 512) (different : i ≠ free) (other : Nat → UInt8) :
    SameName (entryName (directoryAt w q.dirAddress) i) other ↔ SameName (entryName (directoryAt v q.dirAddress) i) other :=
  copied_renamed stores.directory within different other

-- The entry that a save takes had no name.
theorem Stores.unnamed (stores : Stores v q name list free w) {other : CString} (full : other.strlen = 11) :
    ¬ SameName (entryName (directoryAt v q.dirAddress) free) other.char :=
  empty_unnamed (findEmptyDirectoryEntry_some stores.chosen).2.1 full

theorem Stores.named (stores : Stores v q name list free w) (own : KeepsName name q.flag) :
    SameName (entryName (directoryAt w q.dirAddress) free) name.char := by
  intro j below
  rw [entryName,stores.entry (by omega)]
  exact dirEntry_named own below

theorem Stores.onDisk (stores : Stores v q name list free w) : OnDisk w q.data list q.fileSize.toNat where
  low := stores.picked.low
  high := stores.picked.high
  marked := stores.picked.marked
  room := fun m below => by
    rw [stores.rest]
    exact stores.room m below
  next := stores.next
  sector := stores.sector

-- Where a load of the saved name begins.
theorem Stores.firstCluster (stores : Stores v q name list free w) {l : LoadRequest} {given : CString} (loads : LoadsSaved v q name l given)
    (own : KeepsName name q.flag) (only : ∀ i < 512, SameName (entryName (directoryAt w q.dirAddress) i) name.char → i = free) :
    firstCluster (directoryAt w l.dirAddress) given (l.bufferSizeInBytes.toNat % 4294967296) =
      if list 0 = 0 ∨ 0xFFF0 < list 0 then none else some (list 0) := by
  rw [loads.dir]
  exact entry_firstCluster (fun _ below => stores.entry below) stores.inside (stores.named own) only loads.full loads.same loads.fits

theorem LoadsSaved.proper {l : LoadRequest} {given : CString} (loads : LoadsSaved v q name l given) (stores : Stores v q name list free w) :
    Proper w l given := by
  refine ⟨?_,loads.asked,by rw [loads.full]; decide⟩
  rw [stores.rest]
  exact loads.checked

theorem Stores.enough (stores : Stores v q name list free w) : 591 ≤ w.numberOfSectors := by
  rw [stores.rest]
  exact stores.scans.enough

-- With a visible first byte every entry of the name is a live one.
theorem Stores.alone (stores : Stores v q name list free w) (own : KeepsName name q.flag) (visible : name.char 0 ≠ 0xE5) {i : Nat}
    (alone : ∀ j, NamedEntry (directoryAt w q.dirAddress) name j → j = i) :
    ∀ j < 512, SameName (entryName (directoryAt w q.dirAddress) j) name.char → j = free := by
  have live : ∀ j < 512, SameName (entryName (directoryAt w q.dirAddress) j) name.char → j = i := by
    intro j inside same
    exact alone j ⟨inside,fun deleted => visible ((same 0 (by decide)).symm.trans deleted),same⟩
  intro j inside same
  rw [live j inside same,live free stores.inside (stores.named own)]

-- An empty file has no first cluster, so its load is refused.
theorem Stores.refuses_empty (stores : Stores v q name list free w) {l : LoadRequest} {given : CString} (loads : LoadsSaved v q name l given)
    (own : KeepsName name q.flag) (only : ∀ i < 512, SameName (entryName (directoryAt w q.dirAddress) i) name.char → i = free)
    (loaded : fsLoadFile w l turns = .inr ⟨.ok 0,bytes⟩) : 0 < q.fileSize.toNat := by
  by_contra none
  have marked := stores.picked.marked
  rw [show q.fileSize.toNat = 0 by omega] at marked
  have refused : list 0 = 0 ∨ 0xFFF0 < list 0 := .inr (by rw [show list 0 = 0xFFF8 from marked]; decide)
  rw [fsLoadFile_at (loads.proper stores) stores.enough,stores.firstCluster loads own only,if_pos refused] at loaded
  cases loaded

theorem Stores.fresh (stores : Stores v q name list free w) {l : LoadRequest} {given : CString} (loads : LoadsSaved v q name l given)
    (full : name.strlen = 11) (own : KeepsName name q.flag) (replaces : Replaces w q name l) : FreshSave v q name := by
  obtain ⟨⟨i,entry,alone⟩,turns,loaded⟩ := replaces
  have visible : name.char 0 ≠ 0xE5 := by
    rw [← entry.named 0 (by decide)]
    exact entry.live
  have only := stores.alone own visible alone
  refine ⟨?_,stores.refuses_empty loads own only loaded,visible⟩
  intro j inside same
  have different : j ≠ free := by
    rintro rfl
    exact stores.unnamed full same
  exact different (only j inside ((stores.renamed inside different _).mpr same))

theorem Stores.replaces (stores : Stores v q name list free w) {l : LoadRequest} {given : CString} (loads : LoadsSaved v q name l given)
    (own : KeepsName name q.flag) (sixteen : v.fatbits = 16) (fresh : FreshSave v q name) : Replaces w q name l := by
  have bits : w.fatbits = 16 := by
    rw [stores.rest]
    exact sixteen
  have only : ∀ j < 512, SameName (entryName (directoryAt w q.dirAddress) j) name.char → j = free := by
    intro j inside same
    by_contra different
    exact fresh.absent j inside ((stores.renamed inside different _).mp same)
  have accepted : ¬ (list 0 = 0 ∨ 0xFFF0 < list 0) := by
    rintro (zero | above)
    · exact (stores.onDisk.accepted fresh.some).1 zero
    · exact absurd (stores.onDisk.accepted fresh.some).2 (UInt16.not_le.mpr above)
  refine ⟨⟨free,⟨stores.inside,?_,stores.named own⟩,fun j entry => only j entry.inside entry.named⟩,q.fileSize.toNat,?_⟩
  · intro deleted
    exact fresh.visible ((stores.named own 0 (by decide)).symm.trans deleted)
  · exact stores.onDisk.loads fresh.some stores.scans.short bits stores.enough (loads.proper stores)
      ((stores.firstCluster loads own only).trans (if_neg accepted)) loads.valid (Nat.le_refl _)

-- The entry that the save writes has another name when the directory's extension replaced
-- the name's, so the named one was there before.
theorem Stores.older (stores : Stores v q name list free w) (other : ¬ KeepsName name q.flag) {i : Nat}
    (entry : NamedEntry (directoryAt w q.dirAddress) name i) : NamedEntry (directoryAt v q.dirAddress) name i := by
  have different : i ≠ free := by
    rintro rfl
    apply other
    intro folder j below past
    have byte := entry.named j below
    rw [entryName,stores.entry (by omega)] at byte
    unfold dirEntry at byte
    rw [if_neg (by omega),if_pos below,if_pos folder] at byte
    exact byte.symm
  have before := (stores.renamed entry.inside different _).mp entry.named
  refine ⟨entry.inside,?_,before⟩
  intro deleted
  apply entry.live
  exact (entry.named 0 (by decide)).trans ((before 0 (by decide)).symm.trans deleted)

end Stores

-- A save gives the name to one entry, with the data behind it, exactly when the directory
-- had none of the name; only an older entry can do it for a directory with an extension.
theorem save_replaces_iff {v w : Volume} {q : SaveRequest} {name given : CString} {l : LoadRequest} (sixteen : v.fatbits = 16)
    (named : q.fileName = some name) (full : name.strlen = 11) (saved : fsSaveFile v q = .ok (0,w)) (loads : LoadsSaved v q name l given) :
    (KeepsName name q.flag → (Replaces w q name l ↔ FreshSave v q name)) ∧
      (¬ KeepsName name q.flag → Replaces w q name l → ∃ i, NamedEntry (directoryAt v q.dirAddress) name i) := by
  obtain ⟨found,list,free,stores⟩ := fsSaveFile_stores saved
  cases named.symm.trans stores.scans.named
  refine ⟨fun own => ⟨stores.fresh loads full own,stores.replaces loads own sixteen⟩,?_⟩
  rintro other ⟨⟨i,entry,_⟩,_⟩
  exact ⟨i,stores.older other entry⟩

theorem letters_named (letter : UInt8) (visible : letter ≠ 0) {j : Nat} (below : j < 11) : (letters letter visible).char j = letter := if_pos below

theorem loadLetters_saved {v : Volume} (root : v.root = some ⟨true,1234,1,512⟩) (letter : UInt8) (visible : letter ≠ 0) :
    LoadsSaved v (saveLetters letter visible) (letters letter visible) (loadLetters letter visible) (letters letter visible) := by
  refine ⟨rfl,rfl,rfl,fun _ _ => rfl,?_,by simp [saveLetters,loadLetters],?_⟩
  · rw [root]
    exact loadLetters_checked letter visible
  · intro k below
    have only : k = 0 := Nat.lt_one_iff.mp below
    subst only
    exact (by decide : checkAddressValidation (bufferAt 0x1000000 0) = true)

theorem save_replaces_once : ∃ w, fsSaveFile (withFiles 1) (saveLetters 0x43 (by decide)) = .ok (0,w) ∧
    Replaces w (saveLetters 0x43 (by decide)) (letters 0x43 (by decide)) (loadLetters 0x43 (by decide)) := by
  obtain ⟨w,saving⟩ := @withFiles_saves 1 (by decide) 0x43 (by decide)
  refine ⟨w,saving.saved,((save_replaces_iff rfl rfl rfl saving.saved (loadLetters_saved rfl 0x43 (by decide))).1 fun folder => ?_).mpr ?_⟩
  · exact absurd folder (by decide)
  · refine ⟨fun i within => ?_,by decide,by decide⟩
    rw [show (saveLetters 0x43 (by decide)).dirAddress = volume1RootdirAddress from rfl,directoryAt_root]
    exact withFiles_fresh 1 within

-- The file BBBBBBBBBBB is saved into a directory that has it already.
theorem second_save_adds_entry : ∃ w, fsSaveFile (withFiles 1) (saveLetters 0x42 (by decide)) = .ok (0,w) ∧
    ¬ Replaces w (saveLetters 0x42 (by decide)) (letters 0x42 (by decide)) (loadLetters 0x42 (by decide)) := by
  obtain ⟨w,saving⟩ := @withFiles_saves 1 (by decide) 0x42 (by decide)
  refine ⟨w,saving.saved,fun replaces => ?_⟩
  have fresh := ((save_replaces_iff rfl rfl rfl saving.saved (loadLetters_saved rfl 0x42 (by decide))).1
    fun folder => absurd folder (by decide)).mp replaces
  refine fresh.absent 0 (by decide) ?_
  intro j below
  rw [show (saveLetters 0x42 (by decide)).dirAddress = volume1RootdirAddress from rfl,directoryAt_root,entryName,
    rootdir_withFiles 1 (by omega),letters_named 0x42 (by decide) below,directoryByte,if_neg (by omega),if_neg (by omega),if_pos (by omega)]

end GramadoKernel
