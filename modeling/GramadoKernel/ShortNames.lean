import Mathlib.Data.List.GetD
import Mathlib.Logic.Function.Basic

namespace GramadoKernel

def lowerCase (c : UInt8) : Prop := 0x61 ≤ c ∧ c ≤ 0x7A
def upperCase (c : UInt8) : Prop := 0x41 ≤ c ∧ c ≤ 0x5A
def digitByte (c : UInt8) : Prop := 0x30 ≤ c ∧ c ≤ 0x39

-- $ % - _ ( ) { }
def specialByte (c : UInt8) : Prop :=
  c = 0x24 ∨ c = 0x25 ∨ c = 0x2D ∨ c = 0x5F ∨ c = 0x28 ∨ c = 0x29 ∨ c = 0x7B ∨ c = 0x7D

instance (c : UInt8) : Decidable (lowerCase c) := inferInstanceAs (Decidable (_ ∧ _))
instance (c : UInt8) : Decidable (upperCase c) := inferInstanceAs (Decidable (_ ∧ _))
instance (c : UInt8) : Decidable (digitByte c) := inferInstanceAs (Decidable (_ ∧ _))
instance (c : UInt8) : Decidable (specialByte c) := inferInstanceAs (Decidable (_ ∨ _))

-- The first loop of fs_fntos, up to a point or the end of the string. The pointer moves on
-- with the size of the name, ns.
def fntosName : Nat → (Nat → UInt8) → Nat → Nat → Option ((Nat → UInt8) × Nat × Nat)
  | 0,_,_,_ => none
  | fuel+1,m,name,ns =>
      if m name = 0 ∨ m name = 0x2E then some (m,name,ns)
      else
        let m := if lowerCase (m name) then Function.update m name (m name-0x20) else m
        fntosName fuel m (name+1) (ns+1)

-- The body of the loop over the extension. Its last test finds no 0, since the condition of
-- the loop lets none through.
def fntosByte (name i : Nat) (m ext : Nat → UInt8) : (Nat → UInt8) × (Nat → UInt8) :=
  let (m,ext) :=
    if lowerCase (m (name+i+1)) then
      let m := Function.update m (name+i+1) (m (name+i+1)-0x20)
      (m,Function.update ext i (m (name+i+1)))
    else (m,ext)
  let ext := if specialByte (m (name+i+1)) then Function.update ext i (m (name+i+1)) else ext
  let ext := if digitByte (m (name+i+1)) then Function.update ext i (m (name+i+1)) else ext
  (m,ext)

-- The loop itself, with the turns that are left of its three.
def fntosExtension (name : Nat) : Nat → Nat → (Nat → UInt8) → (Nat → UInt8) → (Nat → UInt8) × (Nat → UInt8)
  | 0,_,m,ext => (m,ext)
  | turns+1,i,m,ext =>
      if m (name+i+1) = 0 then (m,ext)
      else
        let (m,ext) := fntosByte name i m ext
        fntosExtension name turns (i+1) m ext

-- The label CompleteName8WithSpaces, with the number of spaces.
def fntosSpaces : Nat → (Nat → UInt8) → Nat → (Nat → UInt8) × Nat
  | 0,m,name => (m,name)
  | spaces+1,m,name => fntosSpaces spaces (Function.update m name 0x20) (name+1)

-- The bytes of the extension that are saved, and the end of the string.
def fntosAdd (ext : Nat → UInt8) : Nat → Nat → (Nat → UInt8) → Nat → (Nat → UInt8)
  | 0,_,m,name => Function.update m name 0
  | turns+1,i,m,name => fntosAdd ext turns (i+1) (Function.update m name (if ext i ≠ 0 then ext i else 0x20)) (name+1)

def binExtension : Nat → UInt8
  | 0 => 0x42
  | 1 => 0x49
  | 2 => 0x4E
  | _ => 0

-- fs_fntos over the memory that the name is in. There is no result where the fuel does not
-- reach the end of the string.
def fsFntos (fuel : Nat) (m : Nat → UInt8) (name : Option Nat) : Option (Nat → UInt8) :=
  match name with
  | none => some m
  | some name =>
      if m name = 0 then some m
      else do
        let (m,name,ns) ← fntosName fuel m name 0
        let (m,ext) := if m name = 0 ∧ ns ≤ 8 then (m,binExtension) else fntosExtension name 3 0 m (fun _ => 0)
        let (m,name) := fntosSpaces (8-ns) m name
        some (fntosAdd ext 3 0 m name)

def upperCased (c : UInt8) : UInt8 := if lowerCase c then c-0x20 else c

-- Memory with other bytes in a range.
def overwrite (m : Nat → UInt8) (p n : Nat) (f : Nat → UInt8) : Nat → UInt8 := fun j => if p ≤ j ∧ j < p+n then f j else m j

theorem overwrite_none (m : Nat → UInt8) (p : Nat) (f : Nat → UInt8) : overwrite m p 0 f = m := by
  funext j
  exact if_neg (by omega)

theorem overwrite_first {m : Nat → UInt8} (f : Nat → UInt8) (first : f p = value) :
    overwrite (Function.update m p value) (p+1) n f = overwrite m p (n+1) f := by
  funext j
  unfold overwrite
  by_cases same : j = p
  · subst same
    rw [if_neg (by omega),if_pos (by omega),Function.update_self,first]
  · rw [Function.update_of_ne same]
    by_cases within : p ≤ j ∧ j < p+(n+1)
    · rw [if_pos within,if_pos (by omega)]
    · rw [if_neg within,if_neg (by omega)]

theorem overwrite_congr {f g : Nat → UInt8} (same : ∀ j, p ≤ j → j < p+n → f j = g j) : overwrite m p n f = overwrite m p n g := by
  funext j
  unfold overwrite
  split
  · rename_i within
    exact same j within.1 within.2
  · rfl

theorem overwrite_inside {m f : Nat → UInt8} (low : p ≤ j) (high : j < p+n) : overwrite m p n f j = f j := if_pos ⟨low,high⟩

theorem overwrite_outside {m f : Nat → UInt8} (apart : j < p ∨ p+n ≤ j) : overwrite m p n f j = m j := if_neg (by omega)

theorem fntosName_eq (ns : Nat) {m : Nat → UInt8} (inside : ∀ i < n, m (p+i) ≠ 0 ∧ m (p+i) ≠ 0x2E) (ended : m (p+n) = 0 ∨ m (p+n) = 0x2E)
    (enough : n < fuel) : fntosName fuel m p ns = some (overwrite m p n (fun j => upperCased (m j)),p+n,ns+n) := by
  induction n generalizing fuel m p ns with
  | zero =>
      obtain ⟨fuel,rfl⟩ : ∃ rest, fuel = rest+1 := ⟨fuel-1,by omega⟩
      rw [Nat.add_zero] at ended
      rw [fntosName,if_pos ended,overwrite_none,Nat.add_zero,Nat.add_zero]
  | succ n ih =>
      obtain ⟨fuel,rfl⟩ : ∃ rest, fuel = rest+1 := ⟨fuel-1,by omega⟩
      have first := inside 0 (by omega)
      rw [Nat.add_zero] at first
      have goes : ¬ (m p = 0 ∨ m p = 0x2E) := not_or.mpr first
      have here : (if lowerCase (m p) then Function.update m p (m p-0x20) else m) = Function.update m p (upperCased (m p)) := by
        unfold upperCased
        split
        · rfl
        · exact (Function.update_eq_self p m).symm
      have others : ∀ j, p < j → Function.update m p (upperCased (m p)) j = m j := fun j later => Function.update_of_ne (by omega) ..
      have shift : ∀ i, p+1+i = p+(i+1) := by omega
      simp only [fntosName,if_neg goes,here]
      rw [ih _ ?_ ?_ (by omega)]
      · rw [overwrite_congr fun j low _ => congrArg upperCased (others j (by omega)),overwrite_first (fun j => upperCased (m j)) rfl,shift,
          show ns+1+n = ns+(n+1) by omega]
      · intro i below
        rw [others _ (by omega),shift]
        exact inside (i+1) (by omega)
      · rw [others _ (by omega),shift]
        exact ended

theorem fntosSpaces_eq (spaces : Nat) (m : Nat → UInt8) (p : Nat) :
    fntosSpaces spaces m p = (overwrite m p spaces (fun _ => 0x20),p+spaces) := by
  induction spaces generalizing m p with
  | zero => rw [fntosSpaces,overwrite_none,Nat.add_zero]
  | succ spaces ih => rw [fntosSpaces,ih,overwrite_first (fun _ => 0x20) rfl,show p+1+spaces = p+(spaces+1) by omega]

def savedByte (ext : Nat → UInt8) (i : Nat) : UInt8 := if ext i ≠ 0 then ext i else 0x20

theorem fntosAdd_eq (ext : Nat → UInt8) (turns i : Nat) (m : Nat → UInt8) (p : Nat) :
    fntosAdd ext turns i m p = overwrite m p (turns+1) (fun j => if j < p+turns then savedByte ext (i+(j-p)) else 0) := by
  induction turns generalizing i m p with
  | zero =>
      rw [fntosAdd,← overwrite_first _ (if_neg (by omega)),overwrite_none]
  | succ turns ih =>
      rw [fntosAdd,ih]
      rw [overwrite_congr (g := fun j => if j < p+(turns+1) then savedByte ext (i+(j-p)) else 0)]
      · apply overwrite_first
        rw [if_pos (by omega),Nat.sub_self,Nat.add_zero,savedByte]
      · intro j low high
        by_cases within : j < p+(turns+1)
        · rw [if_pos within,if_pos (by omega)]
          congr 1
          omega
        · rw [if_neg within,if_neg (by omega)]

-- What is kept of a byte of the extension. A capital letter is not.
def keptByte (c : UInt8) : UInt8 := if lowerCase c then c-0x20 else if specialByte c ∨ digitByte c then c else 0

theorem fntosByte_eq {m ext : Nat → UInt8} (empty : ext i = 0) :
    fntosByte name i m ext =
      (Function.update m (name+i+1) (upperCased (m (name+i+1))),Function.update ext i (keptByte (m (name+i+1)))) := by
  by_cases lower : lowerCase (m (name+i+1))
  · simp [fntosByte,upperCased,keptByte,lower]
  · have blank : Function.update ext i 0 = ext := by
      rw [← empty]
      exact Function.update_eq_self ..
    by_cases special : specialByte (m (name+i+1))
    · simp [fntosByte,upperCased,keptByte,lower,special]
    · by_cases number : digitByte (m (name+i+1))
      · simp [fntosByte,upperCased,keptByte,lower,special,number]
      · simp [fntosByte,upperCased,keptByte,lower,special,number,blank]

-- The loop writes to the bytes of the extension alone, and saves what it keeps of them.
theorem fntosExtension_eq (ext : Nat → UInt8) {m : Nat → UInt8} (short : n ≤ turns) (inside : ∀ k < n, m (name+(i+k)+1) ≠ 0)
    (ended : n = turns ∨ m (name+(i+n)+1) = 0) (empty : ∀ k, i ≤ k → ext k = 0) :
    ∃ t e, fntosExtension name turns i m ext = (t,e) ∧ (∀ j, j ≤ name+i ∨ name+i+turns < j → t j = m j) ∧
      ∀ k, e k = if i ≤ k ∧ k < i+n then keptByte (m (name+k+1)) else ext k := by
  induction turns generalizing i n m ext with
  | zero =>
      obtain rfl : n = 0 := by omega
      exact ⟨m,ext,rfl,fun _ _ => rfl,fun k => (if_neg (by omega)).symm⟩
  | succ turns ih =>
      cases n with
      | zero =>
          have stop : m (name+i+1) = 0 := by simpa using ended
          exact ⟨m,ext,by rw [fntosExtension,if_pos stop],fun _ _ => rfl,fun k => (if_neg (by omega)).symm⟩
      | succ n =>
          have goes : m (name+i+1) ≠ 0 := inside 0 (by omega)
          have others : ∀ j, j ≠ name+i+1 → Function.update m (name+i+1) (upperCased (m (name+i+1))) j = m j :=
            fun j other => Function.update_of_ne other ..
          have later : ∀ k, name+(i+1+k)+1 = name+(i+(k+1))+1 := by omega
          have inside' : ∀ k < n, Function.update m (name+i+1) (upperCased (m (name+i+1))) (name+(i+1+k)+1) ≠ 0 := by
            intro k below
            rw [others _ (by omega),later]
            exact inside (k+1) (by omega)
          have ended' : n = turns ∨ Function.update m (name+i+1) (upperCased (m (name+i+1))) (name+(i+1+n)+1) = 0 := by
            rcases ended with full | zero
            · exact .inl (by omega)
            · exact .inr (by rw [others _ (by omega),later]; exact zero)
          have empty' : ∀ k, i+1 ≤ k → Function.update ext i (keptByte (m (name+i+1))) k = 0 := by
            intro k low
            exact (Function.update_of_ne (by omega) ..).trans (empty k (by omega))
          obtain ⟨t,e,run,outside,saved⟩ := ih _ (by omega) inside' ended' empty'
          refine ⟨t,e,?_,?_,?_⟩
          · rw [fntosExtension,if_neg goes,fntosByte_eq (empty i (Nat.le_refl i))]
            exact run
          · intro j apart
            rw [outside j (by omega),others j (by omega)]
          · intro k
            rw [saved k]
            by_cases first : k = i
            · subst first
              rw [if_neg (by omega),if_pos (by omega),Function.update_self]
            · by_cases within : i ≤ k ∧ k < i+(n+1)
              · rw [if_pos within,if_pos (by omega),others _ (by omega)]
              · rw [if_neg within,if_neg (by omega),Function.update_of_ne first]

-- The end of fs_fntos: spaces up to the eighth byte, three bytes of extension and a 0.
theorem fntos_end {m : Nat → UInt8} (short : n ≤ 8) (ext : Nat → UInt8) :
    fntosAdd ext 3 0 (fntosSpaces (8-n) m (p+n)).1 (fntosSpaces (8-n) m (p+n)).2 =
      overwrite (overwrite m (p+n) (8-n) (fun _ => 0x20)) (p+8) 4 (fun j => if j < p+11 then savedByte ext (j-(p+8)) else 0) := by
  rw [fntosSpaces_eq,fntosAdd_eq]
  simp only [show p+n+(8-n) = p+8 by omega,Nat.zero_add,Nat.add_assoc,Nat.reduceAdd]

-- A name in memory with the 0 that ends it.
structure NameAt (m : Nat → UInt8) (p : Nat) (name : List UInt8) : Prop where
  chars : ∀ i < name.length, m (p+i) = name.getD i 0
  ended : m (p+name.length) = 0

def letterOrDigit (c : UInt8) : Prop := lowerCase c ∨ upperCase c ∨ digitByte c

-- The base of a name in the first eight of the 11 bytes, in capitals and with spaces after
-- it, and the end. No other byte of the memory but the 12 is written.
structure CanonicalBase (m t : Nat → UInt8) (p : Nat) (base : List UInt8) : Prop where
  base : ∀ i < 8, t (p+i) = upperCased (base.getD i 0x20)
  ended : t (p+11) = 0
  kept : ∀ j, j < p ∨ p+12 ≤ j → t j = m j

theorem letter_plain (letter : letterOrDigit c) : c ≠ 0 ∧ c ≠ 0x2E := by
  constructor
  · rintro rfl
    revert letter
    unfold letterOrDigit
    decide
  · rintro rfl
    revert letter
    unfold letterOrDigit
    decide

theorem saved_upperCased (letter : letterOrDigit c) (small : ¬ upperCase c) (kept : ext k = keptByte c) : savedByte ext k = upperCased c := by
  unfold savedByte
  rw [kept]
  rcases letter with lower | capital | number
  · have value : keptByte c = c-0x20 := if_pos lower
    have some : c-0x20 ≠ 0 := by
      intro zero
      rw [UInt8.sub_eq_iff_eq_add] at zero
      subst zero
      revert lower
      decide
    rw [value,if_pos some,upperCased,if_pos lower]
  · exact absurd capital small
  · have other : ¬ lowerCase c := by
      intro lower
      have low := UInt8.le_trans lower.1 number.2
      revert low
      decide
    have value : keptByte c = c := by rw [keptByte,if_neg other,if_pos (.inr number)]
    rw [value,if_pos (letter_plain (.inr (.inr number))).1,upperCased,if_neg other]

-- The bytes of the base come from the first loop, what follows them from the end.
theorem base_done (ext : Nat → UInt8) {m m' : Nat → UInt8} {base : List UInt8} (short : base.length ≤ 8) (chars : ∀ i < base.length, m (p+i) = base.getD i 0)
    (same : ∀ j, j < p+base.length ∨ p+12 ≤ j → m' j = overwrite m p base.length (fun j => upperCased (m j)) j)
    (final : t = overwrite (overwrite m' (p+base.length) (8-base.length) (fun _ => 0x20)) (p+8) 4
      (fun j => if j < p+11 then savedByte ext (j-(p+8)) else 0)) :
    CanonicalBase m t p base ∧ ∀ k < 3, t (p+8+k) = savedByte ext k := by
  subst final
  refine ⟨⟨?_,?_,?_⟩,?_⟩
  · intro i below
    rw [overwrite_outside (by omega)]
    by_cases within : i < base.length
    · rw [overwrite_outside (by omega),same _ (by omega),overwrite_inside (by omega) (by omega),chars i within]
      congr 1
      rw [List.getD_eq_getElem _ _ within,List.getD_eq_getElem _ _ within]
    · rw [overwrite_inside (by omega) (by omega),List.getD_eq_default _ _ (by omega)]
      rfl
  · rw [overwrite_inside (by omega) (by omega),if_neg (by omega)]
  · intro j apart
    rw [overwrite_outside (by omega),overwrite_outside (by omega),same j (by omega),overwrite_outside (by omega)]
  · intro k below
    rw [overwrite_inside (by omega) (by omega),if_pos (by omega),Nat.add_sub_cancel_left]

theorem NameAt.split (name : NameAt m p (front ++ rest)) :
    (∀ i < front.length, m (p+i) = front.getD i 0) ∧ NameAt m (p+front.length) rest := by
  refine ⟨?_,?_,?_⟩
  · intro i within
    rw [name.chars i (by rw [List.length_append]; omega),List.getD_append _ _ _ _ within]
  · intro i within
    rw [Nat.add_assoc,name.chars _ (by rw [List.length_append]; omega),List.getD_append_right _ _ _ _ (Nat.le_add_right ..),
      Nat.add_sub_cancel_left]
  · rw [Nat.add_assoc,← List.length_append]
    exact name.ended

theorem getD_letter {name : List UInt8} (letters : ∀ c ∈ name, letterOrDigit c) (within : i < name.length) : letterOrDigit (name.getD i d) := by
  rw [List.getD_eq_getElem _ _ within]
  exact letters _ (List.getElem_mem within)

-- The first loop over a base of letters and digits.
theorem fntosName_base {m : Nat → UInt8} {base : List UInt8} (plain : ∀ c ∈ base, letterOrDigit c) (chars : ∀ i < base.length, m (p+i) = base.getD i 0)
    (ended : m (p+base.length) = 0 ∨ m (p+base.length) = 0x2E) (enough : base.length < fuel) :
    fntosName fuel m p 0 = some (overwrite m p base.length (fun j => upperCased (m j)),p+base.length,base.length) := by
  have inside : ∀ i < base.length, m (p+i) ≠ 0 ∧ m (p+i) ≠ 0x2E := by
    intro i within
    rw [chars i within]
    exact letter_plain (getD_letter plain within)
  simpa using fntosName_eq 0 inside ended enough

theorem first_not_zero {m : Nat → UInt8} {base : List UInt8} (given : base ≠ []) (plain : ∀ c ∈ base, letterOrDigit c)
    (chars : ∀ i < base.length, m (p+i) = base.getD i 0) : m p ≠ 0 := by
  have positive : 0 < base.length := List.length_pos_iff.mpr given
  have first := chars 0 positive
  rw [Nat.add_zero] at first
  rw [first]
  exact (letter_plain (getD_letter plain positive)).1

-- A base of letters and digits with an extension of at most three becomes the name of 11
-- bytes; a capital letter of the extension is left open. Without a point the extension is BIN.
theorem fntos_canonical (m : Nat → UInt8) (p : Nat) (base : List UInt8) (some : base ≠ []) (short : base.length ≤ 8)
    (plain : ∀ c ∈ base, letterOrDigit c) :
    (∀ ext : List UInt8, ext.length ≤ 3 → (∀ c ∈ ext, letterOrDigit c) → NameAt m p (base ++ 0x2E :: ext) →
      ∀ fuel, base.length < fuel → ∃ t, fsFntos fuel m (.some p) = .some t ∧ CanonicalBase m t p base ∧
        ∀ k < 3, ¬ upperCase (ext.getD k 0x20) → t (p+8+k) = upperCased (ext.getD k 0x20)) ∧
    (NameAt m p base → ∀ fuel, base.length < fuel → ∃ t, fsFntos fuel m (.some p) = .some t ∧ CanonicalBase m t p base ∧
      ∀ k < 3, t (p+8+k) = binExtension k) := by
  constructor
  · intro ext few letters name fuel enough
    obtain ⟨chars,rest⟩ := name.split
    obtain ⟨dot,after⟩ := (show NameAt m (p+base.length) ([0x2E] ++ ext) from rest).split
    replace after : NameAt m (p+base.length+1) ext := after
    have point : m (p+base.length) = 0x2E := dot 0 (by decide)
    have follows : ∀ k, p+base.length+(0+k)+1 = p+base.length+1+k := by omega
    have beyond : ∀ j, p+base.length ≤ j → overwrite m p base.length (fun j => upperCased (m j)) j = m j :=
      fun j low => overwrite_outside (.inr low)
    have inside : ∀ k < ext.length, overwrite m p base.length (fun j => upperCased (m j)) (p+base.length+(0+k)+1) ≠ 0 := by
      intro k within
      rw [beyond _ (by omega),follows]
      exact (after.chars k within) ▸ (letter_plain (getD_letter letters within)).1
    have ended : ext.length = 3 ∨ overwrite m p base.length (fun j => upperCased (m j)) (p+base.length+(0+ext.length)+1) = 0 := by
      refine .inr ?_
      rw [beyond _ (by omega),follows]
      exact after.ended
    obtain ⟨m',saved,run,outside,kept⟩ := fntosExtension_eq (fun _ => 0) few inside ended fun _ _ => rfl
    have same : ∀ j, j < p+base.length ∨ p+12 ≤ j → m' j = overwrite m p base.length (fun j => upperCased (m j)) j :=
      fun j apart => outside j (by omega)
    obtain ⟨canonical,bytes⟩ := base_done saved short chars same rfl
    refine ⟨_,?_,canonical,?_⟩
    · simp only [fsFntos,if_neg (first_not_zero some plain chars),fntosName_base plain chars (.inr point) enough,beyond _ (Nat.le_refl _),
        point,show ¬ (0x2E : UInt8) = 0 by decide,false_and,if_false,run,Option.bind_some,bind]
      rw [← fntos_end short]
    · intro k below small
      rw [bytes k below]
      by_cases within : k < ext.length
      · have byte : saved k = keptByte (ext.getD k 0x20) := by
          rw [kept k,if_pos (by omega),beyond _ (by omega),show p+base.length+k+1 = p+base.length+1+k by omega,after.chars k within,
            List.getD_eq_getElem _ _ within,List.getD_eq_getElem _ _ within]
        exact saved_upperCased (getD_letter letters within) small byte
      · have blank : saved k = 0 := by rw [kept k,if_neg (by omega)]
        rw [List.getD_eq_default _ _ (by omega),savedByte,blank]
        rfl
  · intro name fuel enough
    obtain ⟨canonical,bytes⟩ := base_done binExtension short name.chars (fun _ _ => rfl) rfl
    refine ⟨_,?_,canonical,?_⟩
    · simp only [fsFntos,if_neg (first_not_zero some plain name.chars),fntosName_base plain name.chars (.inl name.ended) enough,
        overwrite_outside (.inr (Nat.le_refl (p+base.length))),name.ended,short,and_self,if_true,Option.bind_some,bind]
      rw [← fntos_end short]
    · intro k below
      rw [bytes k below]
      obtain rfl | rfl | rfl : k = 0 ∨ k = 1 ∨ k = 2 := by omega
      · rfl
      · rfl
      · rfl

def nameMemory (name : List UInt8) : Nat → UInt8 := fun i => name.getD i 0

theorem nameMemory_at (name : List UInt8) : NameAt (nameMemory name) 0 name := by
  refine ⟨fun i _ => by rw [Nat.zero_add]; rfl,?_⟩
  rw [Nat.zero_add]
  exact List.getD_eq_default _ _ (Nat.le_refl _)

-- aB.c7 becomes AB, six spaces and C7 with a space.
theorem mixed_name_canonical : ∃ t, fsFntos 3 (nameMemory [0x61,0x42,0x2E,0x63,0x37]) (some 0) = some t ∧
    CanonicalBase (nameMemory [0x61,0x42,0x2E,0x63,0x37]) t 0 [0x61,0x42] ∧ t 8 = 0x43 ∧ t 9 = 0x37 ∧ t 10 = 0x20 := by
  have plain : ∀ c ∈ ([0x61,0x42] : List UInt8), letterOrDigit c :=
    List.forall_mem_cons.mpr ⟨.inl (by decide),List.forall_mem_singleton.mpr (.inr (.inl (by decide)))⟩
  have letters : ∀ c ∈ ([0x63,0x37] : List UInt8), letterOrDigit c :=
    List.forall_mem_cons.mpr ⟨.inl (by decide),List.forall_mem_singleton.mpr (.inr (.inr (by decide)))⟩
  obtain ⟨t,run,canonical,bytes⟩ := (fntos_canonical (nameMemory [0x61,0x42,0x2E,0x63,0x37]) 0 [0x61,0x42] (by decide) (by decide) plain).1
    [0x63,0x37] (by decide) letters (nameMemory_at _) 3 (by decide)
  exact ⟨t,run,canonical,bytes 0 (by decide) (by decide),bytes 1 (by decide) (by decide),bytes 2 (by decide) (by decide)⟩

-- The name a gets the extension BIN, and a second call makes it longer. The extension of a.B
-- is lost.
theorem names_not_canonical :
    (∃ t, fsFntos 9 (nameMemory [0x61]) (some 0) = some t ∧ t 8 ≠ 0x20 ∧
      ∃ u, fsFntos 12 t (some 0) = some u ∧ u 11 ≠ t 11 ∧ u 14 = 0) ∧
    ∃ t, fsFntos 9 (nameMemory [0x61,0x2E,0x42]) (some 0) = some t ∧ t 8 ≠ 0x42 :=
  ⟨⟨_,rfl,by decide,_,rfl,by decide,by decide⟩,_,rfl,by decide⟩

end GramadoKernel
