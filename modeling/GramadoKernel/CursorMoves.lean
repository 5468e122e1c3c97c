import GramadoKernel.EndlessConsole
import Mathlib.Algebra.Order.Ring.Int

namespace GramadoKernel

open Stateful

-- The letters that move the cursor by their first parameter.
def movingLetters : List UInt8 :=
  ['G'.toUInt8,96,'A'.toUInt8,'B'.toUInt8,'e'.toUInt8,'C'.toUInt8,'a'.toUInt8,'D'.toUInt8,'E'.toUInt8,'F'.toUInt8,'d'.toUInt8,
    'H'.toUInt8,'f'.toUInt8,'P'.toUInt8,'@'.toUInt8]

def cursorLetters : List UInt8 := 's'.toUInt8 :: 'u'.toUInt8 :: movingLetters

def TwoParameters (final : UInt8) : Prop := final = 'H'.toUInt8 ∨ final = 'f'.toUInt8

-- The cells drawn and the cursor
def SameCells (s t : Terminal) : Prop := SamePicture s t ∧ s.console.cursorX = t.console.cursorX ∧ s.console.cursorY = t.console.cursorY

theorem sameCells_refl (t : Terminal) : SameCells t t := ⟨⟨rfl,rfl⟩,rfl,rfl⟩

theorem SameCells.symm (same : SameCells s t) : SameCells t s := by
  obtain ⟨⟨drawings,scrolls⟩,x,y⟩ := same
  exact ⟨⟨drawings.symm,scrolls.symm⟩,x.symm,y.symm⟩

theorem SameCells.trans (one : SameCells s t) (two : SameCells t u) : SameCells s u := by
  obtain ⟨⟨drawings,scrolls⟩,x,y⟩ := one
  obtain ⟨⟨more,scrolled⟩,column,line⟩ := two
  exact ⟨⟨drawings.trans more,scrolls.trans scrolled⟩,x.trans column,y.trans line⟩

section Words

theorem asLong_toNat (value : Int) : ((asLong value).toNat : Int) = value%2^64 := by
  have high : 0 ≤ value%2^64 := Int.emod_nonneg _ (by decide)
  have small : (value%2^64).toNat < 2^64 := by omega
  unfold asLong UInt64.ofInt
  rw [UInt64.toNat_ofNat_of_lt' small,Int.toNat_of_nonneg high]

theorem asInt_mod (v : UInt64) : asInt v%2^32 = (v.toNat : Int)%2^32 := by
  show v.toUInt32.toBitVec.toInt%2^32 = _
  have whole : Int.bmod (v.toUInt32.toBitVec.toNat : Int) (2^32)%2^32 = (v.toUInt32.toBitVec.toNat : Int)%2^32 := Int.bmod_emod
  rw [BitVec.toInt_eq_toNat_bmod,whole]
  show (v.toUInt32.toNat : Int)%2^32 = _
  rw [UInt64.toNat_toUInt32]
  omega

theorem low_toNat (value : Int) : ((asLong value &&& 0xFFFFFFFF).toNat : Int) = value%2^32 := by
  have whole := asLong_toNat value
  have masked : (asLong value).toNat &&& (0xFFFFFFFF : UInt64).toNat = (asLong value).toNat%2^32 := Nat.and_two_pow_sub_one_eq_mod _ 32
  rw [UInt64.toNat_and,masked]
  omega

theorem low_inj {a b : Int} (same : asLong a &&& 0xFFFFFFFF = asLong b &&& 0xFFFFFFFF) : a%2^32 = b%2^32 := by
  rw [← low_toNat,← low_toNat,same]

theorem add_inj {x : UInt64} {a b : Int} (same : asInt (x+asLong a)%2^32 = asInt (x+asLong b)%2^32) : a%2^32 = b%2^32 := by
  rw [asInt_mod,asInt_mod,UInt64.toNat_add,UInt64.toNat_add] at same
  have first := asLong_toNat a
  have second := asLong_toNat b
  omega

theorem sub_inj {y : UInt64} {a b : Int} (same : asInt (y-asLong a)%2^32 = asInt (y-asLong b)%2^32) : a%2^32 = b%2^32 := by
  rw [asInt_mod,asInt_mod,UInt64.toNat_sub,UInt64.toNat_sub] at same
  have first := asLong_toNat a
  have second := asLong_toNat b
  have low := (asLong a).toNat_lt
  have high := (asLong b).toNat_lt
  omega

end Words

section Moves

variable {least : Nat} {t u : Terminal}

theorem gotoxy_prepared (prepared : Prepared least t) (newX newY : Int) :
    localGotoxy newX newY t = .ok () (t.put (t.console.goto (asLong newX &&& 0xFFFFFFFF) (asLong newY &&& 0xFFFFFFFF))) := by
  have wide (v : UInt64) : ¬ (0xFFFFFFFFFFFFFFFF : UInt64) < v := by
    rw [UInt64.lt_iff_toNat_lt]
    have small := v.toNat_lt
    have limit : (0xFFFFFFFFFFFFFFFF : UInt64).toNat = 2^64-1 := rfl
    omega
  have right := wide (asLong newX)
  have bottom := wide (asLong newY)
  rw [← prepared.console.right] at right
  rw [← prepared.console.bottom] at bottom
  show EStateM.Result.ok () (t.put (if t.console.cursorRight < asLong newX then t.console
    else if t.console.cursorBottom < asLong newY then t.console
    else t.console.goto (asLong newX &&& 0xFFFFFFFF) (asLong newY &&& 0xFFFFFFFF))) = _
  rw [if_neg right,if_neg bottom]

theorem gotoxy_view (prepared : Prepared least t) {a b c d : Int} (same : Together SameCells SameCells (localGotoxy a b t) (localGotoxy c d t)) :
    a%2^32 = c%2^32 ∧ b%2^32 = d%2^32 := by
  rw [gotoxy_prepared prepared,gotoxy_prepared prepared] at same
  obtain ⟨_,x,y⟩ := same
  exact ⟨low_inj x,low_inj y⟩

theorem outbyte_space (used : InUse t) :
    consoleOutbyte 32 t = .ok () (t.put ((t.console.goto (t.console.cursorX+1) t.console.cursorY).remember 32)) := by
  unfold consoleOutbyte
  rw [get_bind,if_neg used.sized,if_neg used.initialized]
  rfl

structure Spaced (count : Nat) (t u : Terminal) : Prop where
  drawings : u.drawings = t.drawings
  cursorX : u.console.cursorX.toNat = (t.console.cursorX.toNat+count)%2^64

theorem putSpace_prepared (prepared : Prepared least t) : ∃ u, consolePutchar 32 t = .ok () u ∧ Prepared least u ∧ Spaced 1 t u := by
  obtain ⟨u,done,kept⟩ := consolePutchar_prepared 32 t prepared
  refine ⟨u,done,kept,?_⟩
  have used : InUse (t.setMode true) := ⟨prepared.used.sized,prepared.used.initialized⟩
  unfold consolePutchar at done
  rw [get_bind,if_neg prepared.painted,bind_done (show (modify fun t => t.setMode true : Output Unit) t = .ok () (t.setMode true) from rfl),
    bind_done (outbyte_space used)] at done
  cases done
  exact ⟨rfl,UInt64.toNat_add _ _⟩

theorem spaces_prepared (prepared : Prepared least t) (count : Nat) :
    ∃ u, (forM (List.replicate count ()) fun _ => consolePutchar 32 : Output Unit) t = .ok () u ∧ Spaced count t u := by
  induction count generalizing t with
  | zero => exact ⟨t,rfl,rfl,(Nat.mod_eq_of_lt t.console.cursorX.toNat_lt).symm⟩
  | succ count ih =>
      obtain ⟨v,one,kept,first⟩ := putSpace_prepared prepared
      obtain ⟨u,done,later⟩ := ih kept
      refine ⟨u,?_,later.drawings.trans first.drawings,?_⟩
      · rw [List.replicate_succ,List.forM_cons,bind_done one]
        exact done
      · rw [later.cursorX,first.cursorX]
        omega

-- How many spaces csi_P and csi_at put
def spaces (nr : Int) : Nat := if nr = 0 then 1 else nr.toNat

theorem repeated_spaces (prepared : Prepared least t) {nr : Int} (low : -2^31 ≤ nr) (high : nr < 2^31) :
    ∃ u, repeated nr (consolePutchar 32) t = .ok () u ∧ Spaced (spaces nr) t u := by
  have last : t.console.cursorRight-1 = 0xFFFFFFFFFFFFFFFE := by
    rw [prepared.console.right]
    decide
  have limit : (0xFFFFFFFFFFFFFFFE : UInt64).toNat = 2^64-2 := rfl
  have value := asLong_toNat nr
  have none : Spaced 0 t t := ⟨rfl,(Nat.mod_eq_of_lt t.console.cursorX.toNat_lt).symm⟩
  unfold repeated
  rw [get_bind,last]
  by_cases beyond : (0xFFFFFFFFFFFFFFFE : UInt64) < asLong nr
  · rw [if_pos beyond,if_pos (by decide)]
    rw [UInt64.lt_iff_toNat_lt,limit] at beyond
    have count : spaces nr = 0 := by
      unfold spaces
      rw [if_neg (by omega)]
      omega
    rw [count]
    exact ⟨t,rfl,none⟩
  · rw [if_neg beyond]
    by_cases zero : nr = 0
    · subst zero
      exact spaces_prepared prepared 1
    · rw [if_neg zero]
      have count : spaces nr = nr.toNat := if_neg zero
      rw [count]
      by_cases negative : nr < 0
      · rw [if_pos negative,Int.toNat_of_nonpos (Int.le_of_lt negative)]
        exact ⟨t,rfl,none⟩
      · rw [if_neg negative]
        exact spaces_prepared prepared nr.toNat

theorem spaces_view (prepared : Prepared least t) {a b : Int} (low : -2^31 ≤ a) (high : a < 2^31) (low' : -2^31 ≤ b) (high' : b < 2^31)
    (same : Together SameCells SameCells (repeated a (consolePutchar 32) t) (repeated b (consolePutchar 32) t)) : spaces a = spaces b := by
  obtain ⟨u,one,first⟩ := repeated_spaces prepared low high
  obtain ⟨v,two,second⟩ := repeated_spaces prepared low' high'
  rw [one,two] at same
  have x := congrArg UInt64.toNat same.2.1
  rw [first.cursorX,second.cursorX] at x
  have few : spaces a < 2^31 := by
    unfold spaces
    split <;> omega
  have less : spaces b < 2^31 := by
    unfold spaces
    split <;> omega
  omega

theorem act_draws (prepared : Prepared least t) (final : UInt8) (ivalue ivalue2 : Int) :
    ∃ u, act final ivalue ivalue2 t = .ok () u ∧ u.drawings = t.drawings := by
  obtain ⟨program,acts,same⟩ := act_action final ivalue ivalue2 t
  rw [same]
  cases acts with
  | goto newX newY => exact ⟨_,gotoxy_prepared prepared newX newY,rfl⟩
  | spaces nr =>
      obtain ⟨nr',limited⟩ : ∃ nr' : Int, repeated nr (consolePutchar 32) t =
          (if nr' < 0 then pure () else forM (List.replicate nr'.toNat ()) fun _ => consolePutchar 32 : Output Unit) t := ⟨_,get_bind _ t⟩
      rw [limited]
      by_cases negative : nr' < 0
      · rw [if_pos negative]
        exact ⟨t,rfl,rfl⟩
      · rw [if_neg negative]
        obtain ⟨u,done,spaced⟩ := spaces_prepared prepared nr'.toNat
        exact ⟨u,done,spaced.drawings⟩
  | nothing => exact ⟨t,rfl,rfl⟩
  | save => exact ⟨_,rfl,rfl⟩
  | restore => exact ⟨_,rfl,rfl⟩

theorem act_uses {final : UInt8} {a b c d : Int} (first : final ∈ movingLetters → a = c) (second : TwoParameters final → b = d) :
    act final a b = act final c d := by
  by_cases moving : final ∈ movingLetters
  · obtain rfl := first moving
    by_cases two : TwoParameters final
    · rw [second two]
    · unfold TwoParameters at two
      unfold act
      simp only [two,if_false]
  · unfold movingLetters at moving
    simp only [List.mem_cons,List.not_mem_nil,or_false,not_or] at moving
    unfold act
    simp only [moving,or_self,if_false]
    rfl

theorem ite_view {condition : Prop} [Decidable condition] {one two first second : Output Unit} {conclusion : Prop}
    (same : Together SameCells SameCells ((if condition then one else two) t) ((if condition then first else second) t))
    (met : condition → Together SameCells SameCells (one t) (first t) → conclusion)
    (other : ¬ condition → Together SameCells SameCells (two t) (second t) → conclusion) : conclusion := by
  by_cases holds : condition
  · rw [if_pos holds,if_pos holds] at same
    exact met holds same
  · rw [if_neg holds,if_neg holds] at same
    exact other holds same

-- Where two values of its first parameter act alike, they are the same int, or as many spaces.
theorem act_first (prepared : Prepared least t) {final : UInt8} (moving : final ∈ movingLetters) {a b c d : Int}
    (same : Together SameCells SameCells (act final a b t) (act final c d t)) :
    a%2^32 = c%2^32 ∨ Together SameCells SameCells (repeated a (consolePutchar 32) t) (repeated c (consolePutchar 32) t) := by
  unfold act at same
  rw [get_bind,get_bind] at same
  refine ite_view same (fun _ same => .inl (gotoxy_view prepared same).1) fun column same => ?_
  refine ite_view same (fun _ same => .inl (sub_inj (gotoxy_view prepared same).2)) fun up same => ?_
  refine ite_view same (fun _ same => .inl (add_inj (gotoxy_view prepared same).2)) fun down same => ?_
  refine ite_view same (fun _ same => .inl (add_inj (gotoxy_view prepared same).1)) fun right same => ?_
  refine ite_view same (fun _ same => .inl (sub_inj (gotoxy_view prepared same).1)) fun left same => ?_
  refine ite_view same (fun _ same => .inl (add_inj (gotoxy_view prepared same).2)) fun next same => ?_
  refine ite_view same (fun _ same => .inl (sub_inj (gotoxy_view prepared same).2)) fun previous same => ?_
  refine ite_view same (fun _ same => .inl (gotoxy_view prepared same).2) fun line same => ?_
  refine ite_view same (fun _ same => .inl (gotoxy_view prepared same).1) fun place same => ?_
  unfold movingLetters at moving
  simp only [List.mem_cons,List.not_mem_nil,or_false] at moving
  have count : final = 'P'.toUInt8 ∨ final = '@'.toUInt8 := by grind
  have other : final ≠ 'J'.toUInt8 ∧ final ≠ 'K'.toUInt8 ∧ final ≠ 'L'.toUInt8 ∧ final ≠ 'M'.toUInt8 := by
    rcases count with rfl | rfl <;> decide
  obtain ⟨j,k,l,m⟩ := other
  rw [if_neg j,if_neg k,if_neg l,if_neg m,if_neg j,if_neg k,if_neg l,if_neg m] at same
  refine ite_view same (fun _ same => .inr same) fun delete same => ?_
  exact ite_view same (fun _ same => .inr same) fun insert _ => absurd count (not_or.mpr ⟨delete,insert⟩)

theorem act_second (prepared : Prepared least t) {final : UInt8} (two : TwoParameters final) {a b c d : Int}
    (same : Together SameCells SameCells (act final a b t) (act final c d t)) : b%2^32 = d%2^32 := by
  have other : ¬ (final = 'G'.toUInt8 ∨ final = 96) ∧ final ≠ 'A'.toUInt8 ∧ ¬ (final = 'B'.toUInt8 ∨ final = 'e'.toUInt8) ∧
      ¬ (final = 'C'.toUInt8 ∨ final = 'a'.toUInt8) ∧ final ≠ 'D'.toUInt8 ∧ final ≠ 'E'.toUInt8 ∧ final ≠ 'F'.toUInt8 ∧
        final ≠ 'd'.toUInt8 := by
    rcases two with rfl | rfl <;> decide
  obtain ⟨column,up,down,right,left,next,previous,line⟩ := other
  unfold TwoParameters at two
  unfold act at same
  rw [get_bind,get_bind] at same
  rw [if_neg column,if_neg up,if_neg down,if_neg right,if_neg left,if_neg next,if_neg previous,if_neg line,if_pos two] at same
  rw [if_neg column,if_neg up,if_neg down,if_neg right,if_neg left,if_neg next,if_neg previous,if_neg line,if_pos two] at same
  exact (gotoxy_view prepared same).2

end Moves

-- The decimal value of a parameter, as an int
def decimal (digits : List UInt8) : Int := (Int32.ofInt (digits.foldl (fun rv ch => rv*10+((ch.toNat : Int)-48)) 0)).toInt

-- The parameters that the letter uses are their last digits.
def Exact (parameters : List (List UInt8)) (final : UInt8) : Prop :=
  (final ∈ movingLetters → decimal (parameters.getD 0 []) = lastDigit (parameters.getD 0 [])) ∧
    (TwoParameters final → decimal (parameters.getD 1 []) = lastDigit (parameters.getD 1 []))

section Values

variable {digits : List UInt8}

theorem decimal_range (digits : List UInt8) : -2^31 ≤ decimal digits ∧ decimal digits < 2^31 :=
  ⟨Int32.le_toInt _,Int32.toInt_lt _⟩

theorem lastDigit_range (all : ∀ ch ∈ digits, isDigit ch = true) : 0 ≤ lastDigit digits ∧ lastDigit digits ≤ 9 := by
  unfold lastDigit
  cases ending : digits.getLast? with
  | none => exact ⟨by decide,by decide⟩
  | some ch =>
      obtain ⟨low,high⟩ := digit_range (all ch (List.mem_of_getLast? ending))
      dsimp only
      omega

-- An int keeps the parity of the number, and ten is even.
theorem decimal_parity (digits : List UInt8) : decimal digits%2 = lastDigit digits%2 := by
  have whole (v : Int) : (Int32.ofInt v).toInt%2 = v%2 := by
    rw [Int32.toInt_ofInt]
    have reduced : Int.bmod v (2^32)%2^32 = v%2^32 := Int.bmod_emod
    show Int.bmod v (2^32)%2 = v%2
    omega
  unfold decimal
  rw [whole]
  cases digits using List.reverseRecOn with
  | nil => rfl
  | append_singleton digits ch =>
      unfold lastDigit
      rw [List.foldl_append,List.getLast?_concat]
      dsimp only [List.foldl_cons,List.foldl_nil]
      omega

theorem spaces_inj {a b : Int} (low : 0 ≤ a) (parity : b%2 = a%2) (same : spaces b = spaces a) : b = a := by
  unfold spaces at same
  split at same <;> split at same <;> omega

-- Where its last digits act like its values, they are its values.
theorem exact_of_same (prepared : Prepared least t) {parameters : List (List UInt8)} {final : UInt8}
    (all : ∀ digits ∈ parameters, ∀ ch ∈ digits, isDigit ch = true)
    (same : Together SameCells SameCells (act final (decimal (parameters.getD 0 [])) (decimal (parameters.getD 1 [])) t)
      (act final (lastDigit (parameters.getD 0 [])) (lastDigit (parameters.getD 1 [])) t)) : Exact parameters final := by
  have range (i : Nat) := decimal_range (parameters.getD i [])
  have digit (i : Nat) := lastDigit_range (getD_digits all i)
  have one := range 0
  have first := digit 0
  constructor
  · intro moving
    rcases act_first prepared moving same with alike | spaced
    · omega
    · have count := spaces_view prepared one.1 one.2 (by omega) (by omega) spaced
      exact spaces_inj first.1 (decimal_parity _) count
  · intro pair
    have alike := act_second prepared pair same
    have two := range 1
    have second := digit 1
    omega

end Values

end GramadoKernel
