import GramadoKernel.OpenNames
import GramadoKernel.PathWalks

namespace GramadoKernel

-- The first entry of a directory that has the name.
structure FirstNamed (dir name : Nat → UInt8) (i : Nat) : Prop where
  inside : i < 512
  named : SameName (entryName dir i) name
  first : ∀ j < i, ¬ SameName (entryName dir j) name

theorem FirstNamed.unique {dir name : Nat → UInt8} {i j : Nat} (this : FirstNamed dir name i) (other : FirstNamed dir name j) : i = j := by
  rcases Nat.lt_trichotomy i j with lower | same | higher
  · exact absurd this.named (other.first i lower)
  · exact same
  · exact absurd other.named (this.first j higher)

def fileSize (dir : Nat → UInt8) (i : Nat) : Nat := (dword dir (32*i+28)).toNat

section Found

variable {s t : FileSystem} {a : OpenSupply} {n : OpenName} {name : CString}

end Found

section Open

variable {s : FileSystem} {a : OpenSupply} {n : OpenName} {pathname : CString}

end Open

section Refused

variable {s t : FileSystem} {a : OpenSupply}

end Refused

section Exactly

variable {s : FileSystem} {n : OpenName} {pathname : CString}

end Exactly

end GramadoKernel
