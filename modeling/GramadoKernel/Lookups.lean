import GramadoKernel.ReadBack

namespace GramadoKernel

-- kstring.c
def strncpy (s1 : Nat → UInt8) (s2 : CString) (n : Nat) : Nat → UInt8 := fun j =>
  if j < n then (if j < s2.strlen then s2.char j else 0) else s1 j

-- Name_Desired after the spaces of search_in_dir, which it writes before it copies the name.
def spacesDesired (buffer : Nat → UInt8) (stringSize : Nat) : Nat → UInt8 := fun j =>
  if stringSize = 10 ∧ j = 10 then 0x20
  else if stringSize = 9 ∧ (j = 9 ∨ j = 10) then 0x20
  else if stringSize = 8 ∧ (j = 8 ∨ j = 9 ∨ j = 10) then 0x20
  else buffer j

def nameDesired (buffer : Nat → UInt8) (name : CString) : Nat → UInt8 :=
  Function.update (strncpy (spacesDesired buffer name.strlen) name 11) 11 0

-- The body of the loop of search_in_dir: whether it returns TRUE at an entry.
def entryFound (dir desired : Nat → UInt8) (i : Nat) : Bool :=
  if dir (32*i) = 0xE5 then false
  else if dir (32*i) = 0x2E then false
  else if dir (32*i) ≠ 0 then decide (kstrncmp desired (fun j => if j < 11 then dir (32*i+j) else 0) 11 = 0)
  else false

-- search_in_dir over the bytes at the address of the directory. The buffer is what the stack
-- holds where Name_Desired comes to lie.
def searchInDir (buffer : Nat → UInt8) (name : Option CString) (dirAddress : UInt64) (dir : Nat → UInt8) : Int :=
  match name with
  | none => -1
  | some name =>
      if name.char 0 = 0 then -1
      else if dirAddress = 0 then -1
      else if 11 < name.strlen then -1
      else if name.char 0 = 0x2F then -1
      else if (List.range 512).any (entryFound dir (nameDesired buffer name)) = true then 1
      else -1

-- The entries that the loops of fsLoadFile and of fsGetFileSize select.
def fsLoadFileEntry (dir : Nat → UInt8) (name : CString) : Option Nat := searchEntry dir name name.strlen fat16RootEntries

def fsGetFileSizeEntry (root : RootFilesystem) (dir : Nat → UInt8) (name : CString) : Option Nat :=
  searchEntry dir name (if 11 < name.strlen then 11 else name.strlen) root.dirEntries

theorem firstCluster_selects (dir : Nat → UInt8) (name : CString) (size : Nat) :
    firstCluster dir name size =
      if size ≤ entrySize dir (fsLoadFileEntry dir name) then none
      else (fsLoadFileEntry dir name).bind fun i =>
        let cluster := word dir (16*i+13)
        if cluster = 0 ∨ 0xFFF0 < cluster then none else some cluster := rfl

-- A name filled up to 11 characters.
def filledName (name : CString) (fill : UInt8) : Nat → UInt8 := fun j => if j < name.strlen then name.char j else fill

def FilledEntry (dir : Nat → UInt8) (name : CString) (fill : UInt8) (i : Nat) : Prop := SameName (entryName dir i) (filledName name fill)

-- The entry begins with the characters of the name.
def BeginsWith (dir : Nat → UInt8) (name : CString) (i : Nat) : Prop := ∀ j < name.strlen, entryName dir i j = name.char j

instance (dir : Nat → UInt8) (name : CString) (fill : UInt8) (i : Nat) : Decidable (FilledEntry dir name fill i) :=
  inferInstanceAs (Decidable (∀ j < 11, _))

-- The first live entry whose name is the given one with spaces after it.
def firstLive (dir : Nat → UInt8) (name : CString) : Option Nat :=
  (List.range fat16RootEntries).find? fun i => decide (dir (32*i) ≠ 0 ∧ dir (32*i) ≠ 0xE5 ∧ FilledEntry dir name 0x20 i)

structure LookupsAgree (buffer : Nat → UInt8) (root : RootFilesystem) (dirAddress : UInt64) (dir : Nat → UInt8) (name : CString) : Prop where
  reports : searchInDir buffer (some name) dirAddress dir = 1 ↔ (fsLoadFileEntry dir name).isSome
  same : fsGetFileSizeEntry root dir name = fsLoadFileEntry dir name
  first : fsLoadFileEntry dir name = firstLive dir name

section Named

variable {dir : Nat → UInt8} {name : CString}

theorem FilledEntry.begins (short : name.strlen ≤ 11) (named : FilledEntry dir name fill i) : BeginsWith dir name i := by
  intro j below
  have same := named j (by omega)
  rwa [filledName,if_pos below] at same

theorem BeginsWith.filled (full : name.strlen = 11) (begins : BeginsWith dir name i) : FilledEntry dir name fill i := by
  intro j below
  rw [begins j (by omega),filledName,if_pos (by omega)]

theorem BeginsWith.first (given : name.strlen ≠ 0) (begins : BeginsWith dir name i) : dir (32*i) = name.char 0 := begins 0 (by omega)

theorem desired_filled (buffer : Nat → UInt8) (name : CString) : SameName (nameDesired buffer name) (filledName name 0) := by
  intro j below
  have other : j ≠ 11 := by omega
  simp only [nameDesired,Function.update_of_ne other,strncpy,if_pos below]
  rfl

-- The spaces do not survive the copy: a short name is looked for with zeros after it.
theorem entryFound_iff (given : name.strlen ≠ 0) (short : name.strlen ≤ 11) (buffer : Nat → UInt8) (i : Nat) :
    entryFound dir (nameDesired buffer name) i = true ↔
      name.char 0 ≠ 0xE5 ∧ name.char 0 ≠ 0x2E ∧ FilledEntry dir name 0 i := by
  have ended : nameDesired buffer name 11 = 0 := by simp [nameDesired]
  have desired := desired_filled buffer name
  have compare : kstrncmp (nameDesired buffer name) (fun j => if j < 11 then dir (32*i+j) else 0) 11 = 0 ↔ FilledEntry dir name 0 i := by
    simp only [kstrncmp_zero,ended,Nat.lt_irrefl,if_false,and_true]
    constructor
    · intro same j below
      have equal := same j below
      rw [if_pos below] at equal
      exact equal.symm.trans (desired j below)
    · intro same j below
      rw [if_pos below]
      exact (desired j below).trans (same j below).symm
  constructor
  · intro found
    unfold entryFound at found
    split_ifs at found with deleted dot used
    have named := compare.mp (of_decide_eq_true found)
    have first := (named.begins short).first given
    rw [first] at deleted dot
    exact ⟨deleted,dot,named⟩
  · rintro ⟨deleted,dot,named⟩
    have first := (named.begins short).first given
    have used : name.char 0 ≠ 0 := name.inside 0 (by omega)
    unfold entryFound
    rw [first,if_neg deleted,if_neg dot,if_pos used]
    exact decide_eq_true (compare.mpr named)

theorem searchInDir_iff (given : name.strlen ≠ 0) (short : name.strlen ≤ 11) (address : dirAddress ≠ 0) (buffer : Nat → UInt8) :
    searchInDir buffer (some name) dirAddress dir = 1 ↔
      (name.char 0 ≠ 0x2F ∧ name.char 0 ≠ 0x2E ∧ name.char 0 ≠ 0xE5) ∧ ∃ i < 512, FilledEntry dir name 0 i := by
  have used : name.char 0 ≠ 0 := name.inside 0 (by omega)
  simp only [searchInDir,if_neg used,if_neg address,if_neg (Nat.not_lt.mpr short)]
  by_cases slash : name.char 0 = 0x2F
  · simp [slash]
  · simp only [if_neg slash,List.any_eq_true,List.mem_range,entryFound_iff given short]
    constructor
    · intro found
      split at found
      · rename_i some
        obtain ⟨i,inside,deleted,dot,named⟩ := some
        exact ⟨⟨slash,dot,deleted⟩,i,inside,named⟩
      · cases found
    · rintro ⟨⟨_,dot,deleted⟩,i,inside,named⟩
      rw [if_pos ⟨i,inside,deleted,dot,named⟩]

theorem loadEntry_some (given : name.strlen ≠ 0) :
    fsLoadFileEntry dir name = some i ↔ i < 512 ∧ BeginsWith dir name i ∧ ∀ j < i, ¬ BeginsWith dir name j := by
  simp only [fsLoadFileEntry,searchEntry_some,← Bool.not_eq_true,entryMatches_given given]
  rfl

theorem loadEntry_isSome (given : name.strlen ≠ 0) : (fsLoadFileEntry dir name).isSome ↔ ∃ i < 512, BeginsWith dir name i := by
  simp only [fsLoadFileEntry,searchEntry,List.find?_isSome,List.mem_range,entryMatches_given given]
  rfl

theorem firstLive_some : firstLive dir name = some i ↔
    i < 512 ∧ (dir (32*i) ≠ 0 ∧ dir (32*i) ≠ 0xE5 ∧ FilledEntry dir name 0x20 i) ∧
      ∀ j < i, ¬ (dir (32*j) ≠ 0 ∧ dir (32*j) ≠ 0xE5 ∧ FilledEntry dir name 0x20 j) := by
  simp only [firstLive,List.find?_range_eq_some,List.mem_range,decide_eq_true_eq,Bool.not_eq_eq_eq_not,Bool.not_true,decide_eq_false_iff_not]
  exact ⟨fun ⟨live,inside,before⟩ => ⟨inside,live,before⟩,fun ⟨inside,live,before⟩ => ⟨live,inside,before⟩⟩

theorem firstLive_begins (short : name.strlen ≤ 11) (found : firstLive dir name = some i) : ∃ i < 512, BeginsWith dir name i := by
  obtain ⟨inside,live,_⟩ := firstLive_some.mp found
  exact ⟨i,inside,live.2.2.begins short⟩

-- What the three lookups need to agree where some entry begins with the name: its first
-- character is none that the byte tests skip or refuse, and if it has fewer than 11
-- characters, the first such entry has spaces after it and there is one with zeros.
structure SameEntry (dir : Nat → UInt8) (name : CString) : Prop where
  first : name.char 0 ≠ 0x2F ∧ name.char 0 ≠ 0x2E ∧ name.char 0 ≠ 0xE5
  rest : name.strlen = 11 ∨
    ((∀ i < 512, BeginsWith dir name i → (∀ j < i, ¬ BeginsWith dir name j) → FilledEntry dir name 0x20 i) ∧
      ∃ i < 512, FilledEntry dir name 0 i)

-- The first live entry is the one that fsLoadFile selects if that has spaces after the name.
theorem first_iff (given : name.strlen ≠ 0) (short : name.strlen ≤ 11) (found : fsLoadFileEntry dir name = some i) :
    fsLoadFileEntry dir name = firstLive dir name ↔ name.char 0 ≠ 0xE5 ∧ FilledEntry dir name 0x20 i := by
  obtain ⟨inside,begins,before⟩ := (loadEntry_some given).mp found
  have first := begins.first given
  have used : name.char 0 ≠ 0 := name.inside 0 (by omega)
  rw [found,eq_comm,firstLive_some,first]
  constructor
  · rintro ⟨_,⟨_,live,named⟩,_⟩
    exact ⟨live,named⟩
  · rintro ⟨live,named⟩
    exact ⟨inside,⟨used,live,named⟩,fun j earlier other => before j earlier (other.2.2.begins short)⟩

-- The lookups agree exactly where no entry begins with the name, or where they have the
-- same entry to find.
theorem lookups_agree_iff (buffer : Nat → UInt8) (given : name.strlen ≠ 0) (short : name.strlen ≤ 11)
    (address : dirAddress ≠ 0) (entries : root.dirEntries = 512) :
    LookupsAgree buffer root dirAddress dir name ↔ ((∃ i < 512, BeginsWith dir name i) → SameEntry dir name) := by
  have same : fsGetFileSizeEntry root dir name = fsLoadFileEntry dir name := by
    rw [fsGetFileSizeEntry,if_neg (Nat.not_lt.mpr short),entries]
    rfl
  have reports : searchInDir buffer (some name) dirAddress dir = 1 ↔ _ := searchInDir_iff given short address buffer
  cases found : fsLoadFileEntry dir name with
  | none =>
      have nothing : ¬ ∃ i < 512, BeginsWith dir name i := by
        rw [← loadEntry_isSome given,found]
        simp
      refine ⟨fun _ some => absurd some nothing,fun _ => ⟨?_,same,?_⟩⟩
      · rw [reports,loadEntry_isSome given]
        refine ⟨?_,fun some => absurd some nothing⟩
        rintro ⟨_,i,inside,named⟩
        exact ⟨i,inside,named.begins short⟩
      · cases live : firstLive dir name with
        | none => exact found
        | some i => exact absurd (firstLive_begins short live) nothing
  | some m =>
      obtain ⟨inside,begins,before⟩ := (loadEntry_some given).mp found
      have some : ∃ i < 512, BeginsWith dir name i := ⟨m,inside,begins⟩
      have first := first_iff given short found
      constructor
      · rintro ⟨agrees,_,live⟩ _
        obtain ⟨letters,zeros⟩ := reports.mp (agrees.mpr (by rw [found]; rfl))
        refine ⟨letters,.inr ⟨?_,zeros⟩⟩
        intro i below also earliest
        have least : i = m := by
          rcases Nat.lt_trichotomy i m with lower | equal | higher
          · exact absurd also (before i lower)
          · exact equal
          · exact absurd begins (earliest m higher)
        rw [least]
        exact (first.mp live).2
      · intro condition
        obtain ⟨letters,rest⟩ := condition some
        have spaces : FilledEntry dir name 0x20 m := by
          rcases rest with full | ⟨spaces,_⟩
          · exact begins.filled full
          · exact spaces m inside begins before
        have zeros : ∃ i < 512, FilledEntry dir name 0 i := by
          rcases rest with full | ⟨_,zeros⟩
          · exact ⟨m,inside,begins.filled full⟩
          · exact zeros
        refine ⟨?_,same,first.mpr ⟨letters.2.2,spaces⟩⟩
        rw [reports,loadEntry_isSome given]
        exact ⟨fun _ => some,fun _ => ⟨letters,zeros⟩⟩

end Named

-- The letter A a number of times.
def manyAs (count : Nat) : CString where
  char := fun i => if i < count then 0x41 else 0
  strlen := count
  inside := by
    intro i below
    rw [if_pos below]
    decide
  ended := if_neg (Nat.lt_irrefl _)

-- A directory whose only entry has that name, with spaces after it.
def oneEntry (count : Nat) : Nat → UInt8 := fun i => if i < count then 0x41 else if i < 11 then 0x20 else 0

def wholeRoot : RootFilesystem := ⟨true,1234,1,512⟩

theorem full_name_agrees : LookupsAgree (fun _ => 0) wholeRoot 1 (oneEntry 11) (manyAs 11) ∧ fsLoadFileEntry (oneEntry 11) (manyAs 11) = some 0 := by
  have condition : (∃ i < 512, BeginsWith (oneEntry 11) (manyAs 11) i) → SameEntry (oneEntry 11) (manyAs 11) :=
    fun _ => ⟨by decide,.inl rfl⟩
  have agree := (lookups_agree_iff (fun _ => 0) (show (manyAs 11).strlen ≠ 0 by decide) (by decide) (show (1 : UInt64) ≠ 0 by decide)
    (show wholeRoot.dirEntries = 512 from rfl)).mpr condition
  exact ⟨agree,by decide +kernel⟩

-- The name of two letters: with spaces after it in the entry, search_in_dir does not find it,
-- and it is found for an entry with a third letter.
theorem short_names_differ :
    (searchInDir (fun _ => 0) (some (manyAs 2)) 1 (oneEntry 2) = -1 ∧ fsLoadFileEntry (oneEntry 2) (manyAs 2) = some 0 ∧
      ¬ LookupsAgree (fun _ => 0) wholeRoot 1 (oneEntry 2) (manyAs 2)) ∧
    fsLoadFileEntry (oneEntry 3) (manyAs 2) = some 0 ∧ firstLive (oneEntry 3) (manyAs 2) = none := by
  have missed : searchInDir (fun _ => 0) (some (manyAs 2)) 1 (oneEntry 2) = -1 := by decide +kernel
  have found : fsLoadFileEntry (oneEntry 2) (manyAs 2) = some 0 := by decide +kernel
  refine ⟨⟨missed,found,?_⟩,by decide +kernel,by decide +kernel⟩
  intro agree
  have both := agree.reports.mpr (by rw [found]; rfl)
  rw [missed] at both
  exact absurd both (by decide)

end GramadoKernel
