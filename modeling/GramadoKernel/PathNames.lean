import GramadoKernel.PathLoading

namespace GramadoKernel

def PlainName (s : List UInt8) : Prop := ∀ c ∈ s, c ≠ 0 ∧ c ≠ dot ∧ c ≠ separator

-- The names that fs_load_path takes for a folder and for a file.
structure FolderName where
  text : List UInt8
  plain : PlainName text
  some : text ≠ []
  short : text.length ≤ 10

structure FileName where
  base : List UInt8
  extension : List UInt8
  plain : PlainName base
  some : base ≠ []
  short : base.length ≤ 8
  visible : ∀ c ∈ extension, c ≠ 0 ∧ c ≠ separator

-- An absolute path with a buffer for each of its folders.
structure PathName where
  folders : List FolderName
  file : FileName
  few : folders.length ≤ 3

def FolderName.level (f : FolderName) : List UInt8 := separator :: f.text

def FileName.level (f : FileName) : List UInt8 := separator :: (f.base ++ dot :: f.extension)

def pathText (folders : List FolderName) (file : FileName) : List UInt8 := folders.flatMap FolderName.level ++ file.level

def PathName.text (n : PathName) : List UInt8 := pathText n.folders n.file

-- The eleven characters of an entry.
def FolderName.padded (f : FolderName) (j : Nat) : UInt8 := f.text.getD j 0x20

def FileName.padded (f : FileName) (j : Nat) : UInt8 := if j < 8 then f.base.getD j 0x20 else f.extension.getD (j-8) 0x20

def Spells (char : Nat → UInt8) (p : Nat) (s : List UInt8) : Prop := ∀ i (inside : i < s.length), char (p+i) = s[i]

theorem Spells.getD {char : Nat → UInt8} {s : List UInt8} (spelled : Spells char p s) (inside : i < s.length) (d : UInt8) : s.getD i d = char (p+i) := by
  rw [List.getD_eq_getElem _ _ inside,spelled i inside]

theorem getD_visible {s : List UInt8} (visible : ∀ c ∈ s, c ≠ 0) (i : Nat) : s.getD i 0x20 ≠ 0 := by
  by_cases inside : i < s.length
  · rw [List.getD_eq_getElem _ _ inside]
    exact visible _ (List.getElem_mem inside)
  · rw [List.getD_eq_default _ _ (Nat.not_lt.mp inside)]
    decide

theorem FolderName.visible (f : FolderName) (j : Nat) : f.padded j ≠ 0 := getD_visible (fun c member => (f.plain c member).1) j

theorem FileName.padded_visible (f : FileName) (j : Nat) : f.padded j ≠ 0 := by
  unfold FileName.padded
  split
  · exact getD_visible (fun c member => (f.plain c member).1) j
  · exact getD_visible (fun c member => (f.visible c member).1) (j-8)

-- Eleven characters as name_buffer holds them.
def fullName (name : Nat → UInt8) (visible : ∀ j, name j ≠ 0) : CString where
  char := fun j => if j < 11 then name j else 0
  strlen := 11
  inside := by
    intro j below
    rw [if_pos below]
    exact visible j
  ended := rfl

def FolderName.entry (f : FolderName) : CString := fullName f.padded f.visible

def FileName.entry (f : FileName) : CString := fullName f.padded f.padded_visible

theorem CString.same {a b : CString} (chars : a.char = b.char) (lengths : a.strlen = b.strlen) : a = b := by
  cases a
  cases b
  simp only at chars lengths
  subst chars
  subst lengths
  rfl

section Scan

variable {char : Nat → UInt8} {last : Bool} {s : List UInt8}

end Scan

section Levels

variable {char : Nat → UInt8} {s : List UInt8}

theorem PlainName.count (plain : PlainName s) : s.count separator = 0 := List.count_eq_zero.mpr fun member => (plain separator member).2.2 rfl

end Levels

end GramadoKernel
