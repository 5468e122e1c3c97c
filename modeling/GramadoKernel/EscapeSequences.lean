import GramadoKernel.PlainOutput
import Mathlib.Data.List.GetD
import Mathlib.Data.List.Induction
import Mathlib.Logic.Function.Basic

namespace GramadoKernel

open Stateful

-- A text is made of characters and of sequences ESC [ p1 ; ... ; pn X.
inductive Item where
  | char (ch : UInt8)
  | sequence (parameters : List (List UInt8)) (final : UInt8)

def separated : List (List UInt8) → List UInt8
  | [] => []
  | [digits] => digits
  | digits :: rest => digits ++ 59 :: separated rest

def Item.bytes : Item → List UInt8
  | .char ch => [ch]
  | .sequence parameters final => 27 :: 91 :: (separated parameters ++ [final])

-- The letters with a case of their own in stage 4, the grave accent and the at sign.
def finals : List UInt8 :=
  ['G'.toUInt8,96,'A'.toUInt8,'B'.toUInt8,'e'.toUInt8,'C'.toUInt8,'a'.toUInt8,'D'.toUInt8,'E'.toUInt8,'F'.toUInt8,'d'.toUInt8,
    'H'.toUInt8,'f'.toUInt8,'J'.toUInt8,'K'.toUInt8,'L'.toUInt8,'M'.toUInt8,'P'.toUInt8,'@'.toUInt8,'m'.toUInt8,'r'.toUInt8,
    's'.toUInt8,'u'.toUInt8]

def Item.WellFormed : Item → Prop
  | .char ch => ch ≠ Ascii.escape
  | .sequence parameters final => parameters.length ≤ nparMax ∧ (∀ digits ∈ parameters, ∀ ch ∈ digits, isDigit ch = true) ∧ final ∈ finals

-- What a sequence does, given the values of its parameters. The attributes that 'm' is for
-- are not implemented, nor is the scrolling region of 'r'.
def act (final : UInt8) (ivalue ivalue2 : Int) : Output Unit := do
  let t ← get
  let x := t.console.cursorX
  let y := t.console.cursorY
  if final = 'G'.toUInt8 ∨ final = 96 then localGotoxy ivalue (asInt y)
  else if final = 'A'.toUInt8 then localGotoxy (asInt x) (asInt (y-asLong ivalue))
  else if final = 'B'.toUInt8 ∨ final = 'e'.toUInt8 then localGotoxy (asInt x) (asInt (y+asLong ivalue))
  else if final = 'C'.toUInt8 ∨ final = 'a'.toUInt8 then localGotoxy (asInt (x+asLong ivalue)) (asInt y)
  else if final = 'D'.toUInt8 then localGotoxy (asInt (x-asLong ivalue)) (asInt y)
  else if final = 'E'.toUInt8 then localGotoxy 0 (asInt (y+asLong ivalue))
  else if final = 'F'.toUInt8 then localGotoxy 0 (asInt (y-asLong ivalue))
  else if final = 'd'.toUInt8 then localGotoxy (asInt x) ivalue
  else if final = 'H'.toUInt8 ∨ final = 'f'.toUInt8 then localGotoxy ivalue ivalue2
  else if final = 'J'.toUInt8 then csiJ ivalue
  else if final = 'K'.toUInt8 then csiK ivalue
  else if final = 'L'.toUInt8 then csiL ivalue
  else if final = 'M'.toUInt8 then csiM ivalue
  else if final = 'P'.toUInt8 then csiP ivalue
  else if final = '@'.toUInt8 then csiAt ivalue
  else if final = 'm'.toUInt8 ∨ final = 'r'.toUInt8 then pure ()
  else if final = 's'.toUInt8 then localSaveCur
  else if final = 'u'.toUInt8 then localRestoreCur
  else pure ()

theorem act_plain (final : UInt8) (ivalue ivalue2 : Int) : Plain (act final ivalue ivalue2) := by
  refine Leaves.get (fun _ _ => rfl) fun t => ?_
  refine Leaves.ite (fun _ => localGotoxy_plain _ _) fun _ => ?_
  refine Leaves.ite (fun _ => localGotoxy_plain _ _) fun _ => ?_
  refine Leaves.ite (fun _ => localGotoxy_plain _ _) fun _ => ?_
  refine Leaves.ite (fun _ => localGotoxy_plain _ _) fun _ => ?_
  refine Leaves.ite (fun _ => localGotoxy_plain _ _) fun _ => ?_
  refine Leaves.ite (fun _ => localGotoxy_plain _ _) fun _ => ?_
  refine Leaves.ite (fun _ => localGotoxy_plain _ _) fun _ => ?_
  refine Leaves.ite (fun _ => localGotoxy_plain _ _) fun _ => ?_
  refine Leaves.ite (fun _ => localGotoxy_plain _ _) fun _ => ?_
  refine Leaves.ite (fun _ => Leaves.pure _) fun _ => ?_
  refine Leaves.ite (fun _ => Leaves.pure _) fun _ => ?_
  refine Leaves.ite (fun _ => Leaves.pure _) fun _ => ?_
  refine Leaves.ite (fun _ => Leaves.pure _) fun _ => ?_
  refine Leaves.ite (fun _ => repeated_plain _ (consolePutchar_plain _)) fun _ => ?_
  refine Leaves.ite (fun _ => repeated_plain _ (consolePutchar_plain _)) fun _ => ?_
  refine Leaves.ite (fun _ => Leaves.pure _) fun _ => ?_
  refine Leaves.ite (fun _ => localSaveCur_plain) fun _ => ?_
  exact Leaves.ite (fun _ => localRestoreCur_plain) fun _ => Leaves.pure _

-- How stage 4 leaves a sequence.
def closing (final : UInt8) : Output Unit := if final = 'm'.toUInt8 then clearParameters >>= fun _ => setStage .text else setStage .final

theorem ite_then {condition : Prop} [Decidable condition] {one two first second : Output Unit} {later : Unit → Output Unit}
    (met : condition → one = first >>= later) (other : ¬ condition → two = second >>= later) :
    (if condition then one else two) = (if condition then first else second) >>= later := by
  by_cases holds : condition
  · rw [if_pos holds,if_pos holds]
    exact met holds
  · rw [if_neg holds,if_neg holds]
    exact other holds

theorem writeFinal_act {final : UInt8} (handled : final ∈ finals) (t : Terminal) :
    writeFinal final t = (act final (t.parameter 0) (t.parameter 1) >>= fun _ => closing final) (t.inStage .text) := by
  unfold finals at handled
  simp only [List.mem_cons,List.not_mem_nil,or_false] at handled
  unfold writeFinal act
  rw [bind_done (show setStage .text t = .ok () (t.inStage .text) from rfl),get_bind,bind_assoc,get_bind]
  by_cases attributes : final = 'm'.toUInt8
  · subst attributes
    rfl
  · have close : closing final = setStage .final := if_neg attributes
    rw [close]
    refine congrFun (ite_then (fun _ => rfl) fun column => ?_) _
    refine ite_then (fun _ => rfl) fun up => ?_
    refine ite_then (fun _ => rfl) fun down => ?_
    refine ite_then (fun _ => rfl) fun right => ?_
    refine ite_then (fun _ => rfl) fun left => ?_
    refine ite_then (fun _ => rfl) fun next => ?_
    refine ite_then (fun _ => rfl) fun previous => ?_
    refine ite_then (fun _ => rfl) fun line => ?_
    refine ite_then (fun _ => rfl) fun place => ?_
    refine ite_then (fun _ => rfl) fun j => ?_
    refine ite_then (fun _ => rfl) fun k => ?_
    refine ite_then (fun _ => rfl) fun l => ?_
    refine ite_then (fun _ => rfl) fun m => ?_
    refine ite_then (fun _ => rfl) fun p => ?_
    refine ite_then (fun _ => rfl) fun insert => ?_
    simp only [attributes,false_or,if_false]
    refine ite_then (fun _ => rfl) fun region => ?_
    refine ite_then (fun _ => rfl) fun save => ?_
    refine ite_then (fun _ => rfl) fun restore => ?_
    grind

theorem writeFinal_other {final : UInt8} (other : final ∉ finals) (t : Terminal) : writeFinal final t = .ok () (t.inStage .text) := by
  unfold finals at other
  simp only [List.mem_cons,List.not_mem_nil,or_false,not_or] at other
  unfold writeFinal
  rw [bind_done (show setStage .text t = .ok () (t.inStage .text) from rfl),get_bind]
  simp only [other,or_self,if_false]
  rfl

section Bytes

variable {respond : Output Unit} {doEcho : Bool} {t : Terminal} {ch : UInt8}

theorem writeByte_text (stage : t.escapeSequenceStage = .text) : writeByte respond doEcho ch t = writeText doEcho ch t := by
  unfold writeByte
  rw [get_bind,stage]

theorem writeByte_final (stage : t.escapeSequenceStage = .final) : writeByte respond doEcho ch t = writeFinal ch t := by
  unfold writeByte
  rw [get_bind,stage]

theorem writeByte_escape (stage : t.escapeSequenceStage = .text) : writeByte respond doEcho 27 t = .ok () (t.inStage .escape) := by
  rw [writeByte_text stage]
  rfl

theorem writeByte_bracket (stage : t.escapeSequenceStage = .escape) : writeByte respond doEcho 91 t = .ok () (t.inStage .csi) := by
  unfold writeByte
  rw [get_bind,stage]
  rfl

-- The first byte after the bracket is one of the parameters already.
theorem writeByte_csi (stage : t.escapeSequenceStage = .csi) (other : ch ≠ '?'.toUInt8) :
    writeByte respond doEcho ch t = writeByte respond doEcho ch (t.cleared.inStage .parameters) := by
  unfold writeByte
  rw [get_bind,stage,get_bind]
  show writeCsi ch t = writeParameter ch (t.cleared.inStage .parameters)
  unfold writeCsi
  rw [bind_done (show clearParameters t = .ok () t.cleared from rfl),
    bind_done (show setStage .parameters t.cleared = .ok () (t.cleared.inStage .parameters) from rfl),if_neg other]

theorem writeByte_digit (stage : t.escapeSequenceStage = .parameters) (digit : isDigit ch = true) :
    writeByte respond doEcho ch t = .ok () (t.setParameter ch) := by
  have other : ¬ (ch = ';'.toUInt8 ∧ t.npar < nparMax-1) := by
    rintro ⟨rfl,_⟩
    cases digit
  unfold writeByte
  rw [get_bind,stage]
  show writeParameter ch t = _
  unfold writeParameter
  rw [get_bind,if_neg other,if_pos digit]
  rfl

theorem writeByte_semicolon (stage : t.escapeSequenceStage = .parameters) (room : t.npar < nparMax-1) :
    writeByte respond doEcho 59 t = .ok () t.nextParameter := by
  unfold writeByte
  rw [get_bind,stage]
  show writeParameter 59 t = _
  unfold writeParameter
  rw [get_bind,if_pos ⟨rfl,room⟩]
  rfl

theorem final_kind {final : UInt8} (handled : final ∈ finals) : final ≠ ';'.toUInt8 ∧ final ≠ '?'.toUInt8 ∧ isDigit final = false ∧
    32 < final ∧ final ≤ 126 := by
  unfold finals at handled
  simp only [List.mem_cons,List.not_mem_nil,or_false] at handled
  rcases handled with rfl | rfl | rfl | rfl | rfl | rfl | rfl | rfl | rfl | rfl | rfl | rfl | rfl | rfl | rfl | rfl | rfl | rfl |
    rfl | rfl | rfl | rfl | rfl
  all_goals decide

theorem writeByte_letter {final : UInt8} (stage : t.escapeSequenceStage = .parameters) (handled : final ∈ finals) :
    writeByte respond doEcho final t = writeFinal final t := by
  obtain ⟨other,_,letter,_⟩ := final_kind handled
  unfold writeByte
  rw [get_bind,stage]
  show writeParameter final t = _
  unfold writeParameter
  rw [get_bind,if_neg (fun both => other both.1),if_neg (by rw [letter]; decide)]
  rw [bind_done (show setStage .final t = .ok () (t.inStage .final) from rfl),writeFinal_act handled,writeFinal_act handled]
  rfl

end Bytes

-- What stands in par[] for a parameter: its last digit.
def lastCode (digits : List UInt8) : UInt64 :=
  match digits.getLast? with
  | none => 0
  | some ch => ch.toUInt64

-- The terminal in stage 3 with these parameters read.
structure Reading (t : Terminal) (parameters : List (List UInt8)) (u : Terminal) : Prop where
  others : u = t.sequenced u.sequencing
  stage : u.escapeSequenceStage = .parameters
  par : ∀ i < nparMax, u.par i = if i < t.npar then t.par i else lastCode (parameters.getD (i-t.npar) [])

-- The same after the digits of one parameter.
structure DigitsRead (t : Terminal) (digits : List UInt8) (u : Terminal) : Prop where
  others : u = t.sequenced u.sequencing
  stage : u.escapeSequenceStage = .parameters
  npar : u.npar = t.npar
  par : u.par = Function.update t.par t.npar (lastCode digits)

theorem DigitsRead.entry (read : DigitsRead t digits u) (i : Nat) : u.par i = if i = t.npar then lastCode digits else t.par i := by
  rw [read.par]
  by_cases here : i = t.npar
  · rw [here,Function.update_self,if_pos rfl]
  · rw [Function.update_of_ne here,if_neg here]

theorem DigitsRead.last (read : DigitsRead t digits u) (clear : ∀ i < nparMax, t.npar ≤ i → t.par i = 0) : Reading t [digits] u := by
  refine ⟨read.others,read.stage,fun i small => ?_⟩
  rw [read.entry]
  rcases Nat.lt_trichotomy i t.npar with before | rfl | beyond
  · rw [if_neg (Nat.ne_of_lt before),if_pos before]
  · rw [if_pos rfl,if_neg (Nat.lt_irrefl _),Nat.sub_self]
    rfl
  · obtain ⟨k,gap⟩ := Nat.exists_eq_add_of_lt beyond
    rw [if_neg (Nat.ne_of_gt beyond),if_neg (Nat.not_lt_of_gt beyond),clear i small (Nat.le_of_lt beyond),show i-t.npar = k+1 by omega]
    rfl

-- A semicolon and more parameters behind it.
theorem DigitsRead.more (read : DigitsRead t digits u) (later : Reading u.nextParameter rest w) : Reading t (digits :: rest) w := by
  refine ⟨?_,later.stage,fun i small => ?_⟩
  · rw [later.others,read.others]
    rfl
  · have next : u.nextParameter.npar = t.npar+1 := congrArg (·+1) read.npar
    have entry : u.nextParameter.par i = if i = t.npar then lastCode digits else t.par i := read.entry i
    rw [later.par i small,next,entry]
    rcases Nat.lt_trichotomy i t.npar with before | rfl | beyond
    · rw [if_pos (Nat.lt_succ_of_lt before),if_neg (Nat.ne_of_lt before),if_pos before]
    · rw [if_pos (Nat.lt_succ_self _),if_pos rfl,if_neg (Nat.lt_irrefl _),Nat.sub_self]
      rfl
    · obtain ⟨k,gap⟩ := Nat.exists_eq_add_of_lt beyond
      rw [if_neg (by omega),if_neg (Nat.not_lt_of_gt beyond),show i-(t.npar+1) = k by omega,show i-t.npar = k+1 by omega]
      rfl

section Parse

variable {respond : Output Unit} {doEcho : Bool} {t : Terminal}

theorem digits_run (stage : t.escapeSequenceStage = .parameters) {digits : List UInt8} (all : ∀ ch ∈ digits, isDigit ch = true)
    (clear : t.par t.npar = 0) : ∃ u, forM digits (writeByte respond doEcho) t = .ok () u ∧ DigitsRead t digits u := by
  induction digits using List.reverseRecOn with
  | nil =>
      refine ⟨t,rfl,rfl,stage,rfl,?_⟩
      rw [show lastCode [] = t.par t.npar from clear.symm,Function.update_eq_self]
  | append_singleton digits ch ih =>
      obtain ⟨u,done,others,still,npar,par⟩ := ih fun d among => all d (List.mem_append_left _ among)
      refine ⟨u.setParameter ch,?_,?_,still,npar,?_⟩
      · rw [List.forM_append,bind_done done,List.forM_cons,List.forM_nil,bind_pure_unit]
        exact writeByte_digit still (all ch (List.mem_append_right _ (List.mem_singleton_self ch)))
      · rw [others]
        rfl
      · show Function.update u.par u.npar ch.toUInt64 = _
        rw [npar,par,Function.update_idem]
        unfold lastCode
        rw [List.getLast?_concat]

theorem parameters_run (stage : t.escapeSequenceStage = .parameters) {parameters : List (List UInt8)}
    (all : ∀ digits ∈ parameters, ∀ ch ∈ digits, isDigit ch = true) (room : t.npar+parameters.length ≤ nparMax)
    (clear : ∀ i < nparMax, t.npar ≤ i → t.par i = 0) :
    ∃ u, forM (separated parameters) (writeByte respond doEcho) t = .ok () u ∧ Reading t parameters u := by
  induction parameters generalizing t with
  | nil =>
      refine ⟨t,rfl,rfl,stage,fun i small => ?_⟩
      split
      · rfl
      · rename_i beyond
        exact clear i small (Nat.not_lt.mp beyond)
  | cons digits rest ih =>
      obtain ⟨one,others⟩ := List.forall_mem_cons.mp all
      rw [List.length_cons] at room
      have first : ∃ u, forM digits (writeByte respond doEcho) t = .ok () u ∧ DigitsRead t digits u :=
        digits_run stage one (clear t.npar (by omega) (Nat.le_refl _))
      obtain ⟨u,done,read⟩ := first
      cases rest with
      | nil => exact ⟨u,done,read.last clear⟩
      | cons next rest =>
          rw [List.length_cons] at room
          have npar := read.npar
          have later : ∃ w, forM (separated (next :: rest)) (writeByte respond doEcho) u.nextParameter = .ok () w ∧
              Reading u.nextParameter (next :: rest) w := by
            refine ih read.stage others ?_ fun i small beyond => ?_
            · show u.npar+1+(next :: rest).length ≤ nparMax
              rw [List.length_cons]
              omega
            · replace beyond : u.npar+1 ≤ i := beyond
              show u.par i = 0
              rw [read.entry,if_neg (by omega)]
              exact clear i small (by omega)
          obtain ⟨w,finished,reading⟩ := later
          refine ⟨w,?_,read.more reading⟩
          show (forM (digits ++ 59 :: separated (next :: rest)) (writeByte respond doEcho) : Output Unit) t = _
          rw [List.forM_append,bind_done done,List.forM_cons,bind_done (writeByte_semicolon read.stage (by omega))]
          exact finished

-- What par[] tells of a parameter in the end.
def lastDigit (digits : List UInt8) : Int :=
  match digits.getLast? with
  | none => 0
  | some ch => (ch.toNat : Int)-48

theorem digit_range {ch : UInt8} (digit : isDigit ch = true) : 48 ≤ ch.toNat ∧ ch.toNat ≤ 57 := by
  unfold isDigit at digit
  simp only [Bool.and_eq_true,decide_eq_true_eq,UInt8.le_iff_toNat_le] at digit
  exact digit

theorem kAtoi_digit {ch : UInt8} (digit : isDigit ch = true) : kAtoi [ch] = (ch.toNat : Int)-48 := by
  obtain ⟨low,high⟩ := digit_range digit
  have sign : isSign ch = false := by
    unfold isSign
    simp only [Bool.or_eq_false_iff,beq_eq_false_iff_ne,ne_eq,← UInt8.toNat_inj]
    simp
    omega
  have minus : ch ≠ 45 := by
    rw [ne_eq,← UInt8.toNat_inj]
    simp
    omega
  unfold kAtoi
  simp [digit,sign,minus]

theorem parameter_lastDigit {digits : List UInt8} (all : ∀ ch ∈ digits, isDigit ch = true) (read : t.par i = lastCode digits) :
    t.parameter i = lastDigit digits := by
  unfold Terminal.parameter
  rw [read]
  unfold lastCode lastDigit
  cases ending : digits.getLast? with
  | none => rfl
  | some ch =>
      have digit := all ch (List.mem_of_getLast? ending)
      obtain ⟨low,_⟩ := digit_range digit
      have byte : (ch.toUInt64 &&& 0xFF).toUInt8 = ch := by
        rw [← UInt8.toNat_inj]
        have masked := Nat.and_two_pow_sub_one_of_lt_two_pow (n := 8) ch.toNat_lt
        simpa using masked
      have some : ch ≠ 0 := by
        rintro rfl
        simp at low
      dsimp only
      rw [byte,if_neg some,kAtoi_digit digit]

theorem separated_mem {parameters : List (List UInt8)} (all : ∀ digits ∈ parameters, ∀ ch ∈ digits, isDigit ch = true)
    (among : ch ∈ separated parameters) : isDigit ch = true ∨ ch = 59 := by
  induction parameters with
  | nil => cases among
  | cons digits rest ih =>
      obtain ⟨one,others⟩ := List.forall_mem_cons.mp all
      cases rest with
      | nil => exact .inl (one ch among)
      | cons next rest =>
          rcases List.mem_append.mp among with here | later
          · exact .inl (one ch here)
          · rcases List.mem_cons.mp later with same | further
            · exact .inr same
            · exact ih others further

theorem getD_digits {parameters : List (List UInt8)} (all : ∀ digits ∈ parameters, ∀ ch ∈ digits, isDigit ch = true) (i : Nat) :
    ∀ ch ∈ parameters.getD i [], isDigit ch = true := by
  by_cases inside : i < parameters.length
  · rw [List.getD_eq_getElem _ _ inside]
    exact all _ (List.getElem_mem inside)
  · rw [List.getD_eq_default _ _ (Nat.not_lt.mp inside)]
    intro ch none
    cases none

theorem csi_run (stage : t.escapeSequenceStage = .csi) (other : b ≠ '?'.toUInt8) : (forM (b :: bs) (writeByte respond doEcho) : Output Unit) t =
    (forM (b :: bs) (writeByte respond doEcho) : Output Unit) (t.cleared.inStage .parameters) := by
  rw [List.forM_cons,bind_run,bind_run,writeByte_csi stage other]

-- The whole sequence from its ESC on: its parameters are read, and its letter acts with
-- the last digit of each.
theorem sequence_run (stage : t.escapeSequenceStage = .text) {parameters : List (List UInt8)} {final : UInt8}
    (formed : (Item.sequence parameters final).WellFormed) : ∃ q : Sequencing, q.stage = .text ∧
      forM (Item.sequence parameters final).bytes (writeByte respond doEcho) t =
        (act final (lastDigit (parameters.getD 0 [])) (lastDigit (parameters.getD 1 [])) >>= fun _ => closing final) (t.sequenced q) := by
  obtain ⟨few,digits,handled⟩ := formed
  have begin : ∃ b bs, separated parameters ++ [final] = b :: bs ∧ b ≠ '?'.toUInt8 := by
    cases listed : separated parameters with
    | nil => exact ⟨final,[],rfl,(final_kind handled).2.1⟩
    | cons b bs =>
        refine ⟨b,bs ++ [final],rfl,?_⟩
        rintro rfl
        rcases separated_mem digits (listed ▸ List.mem_cons_self) with digit | other
        · cases digit
        · cases other
  have read : ∃ u, forM (separated parameters) (writeByte respond doEcho) (t.cleared.inStage .parameters) = .ok () u ∧
      Reading (t.cleared.inStage .parameters) parameters u := by
    refine parameters_run rfl digits (by show 0+parameters.length ≤ nparMax; omega) fun i small _ => ?_
    exact if_pos small
  obtain ⟨u,done,others,still,entries⟩ := read
  have first : u.parameter 0 = lastDigit (parameters.getD 0 []) := parameter_lastDigit (getD_digits digits 0) (entries 0 (by decide))
  have second : u.parameter 1 = lastDigit (parameters.getD 1 []) := parameter_lastDigit (getD_digits digits 1) (entries 1 (by decide))
  refine ⟨{u.sequencing with stage := .text},rfl,?_⟩
  obtain ⟨b,bs,same,plain⟩ := begin
  have text : t.sequenced {u.sequencing with stage := .text} = u.inStage .text := by
    rw [others]
    rfl
  unfold Item.bytes
  rw [List.forM_cons,bind_done (writeByte_escape stage),List.forM_cons,bind_done (writeByte_bracket rfl),same,csi_run rfl plain,← same,
    List.forM_append]
  rw [show ((t.inStage .escape).inStage .csi).cleared.inStage .parameters = t.cleared.inStage .parameters from rfl,bind_done done,
    List.forM_cons,List.forM_nil,bind_pure_unit,writeByte_letter still handled,writeFinal_act handled,first,second,text]

end Parse

end GramadoKernel
