import GramadoKernel.OpenFile
import GramadoKernel.PathNames

namespace GramadoKernel

-- A name as open takes it: a base of letters and digits with an extension or without one,
-- behind a slash or not.
structure OpenName where
  slash : Bool
  base : List UInt8
  extension : Option (List UInt8)
  some : base ≠ []
  short : base.length ≤ 8
  plain : ∀ c ∈ base, letterOrDigit c
  few : ∀ e ∈ extension, e.length ≤ 3
  letters : ∀ e ∈ extension, ∀ c ∈ e, letterOrDigit c

def OpenName.tail (n : OpenName) : List UInt8 :=
  match n.extension with
  | none => []
  | .some e => 0x2E :: e

def OpenName.start (n : OpenName) : Nat := if n.slash = true then 1 else 0

def OpenName.text (n : OpenName) : List UInt8 := (if n.slash = true then [0x2F] else []) ++ (n.base ++ n.tail)

-- The extension as fs_fntos2 saves it. A capital letter is lost.
def OpenName.saved (n : OpenName) : Nat → UInt8 :=
  match n.extension with
  | none => spaceExtension
  | .some e => fun k => if k < e.length then keptByte (e.getD k 0) else 0

-- The 11 bytes that are looked for.
def OpenName.entry (n : OpenName) (i : Nat) : UInt8 := if i < 8 then upperCased (n.base.getD i 0x20) else savedByte n.saved (i-8)

section Names

variable {n : OpenName}

end Names

section Copies

variable {n : OpenName} {pathname : CString}

end Copies

end GramadoKernel
