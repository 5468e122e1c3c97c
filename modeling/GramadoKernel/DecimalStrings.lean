import GramadoKernel.ConsoleWrite
import GramadoKernel.Printk
import Mathlib.Data.List.GetD

namespace GramadoKernel
open Numerals

-- k_atoi in the 32 bits of an int, on the memory from `str` on.
def kAtoiInt (memory : List UInt8) : Int32 :=
  let string := (memory.takeWhile (· ≠ 0)).dropWhile fun char => !isDigit char && !isSign char
  let digits := if string.head?.any isSign = true then string.tail else string
  let rv := (digits.takeWhile isDigit).foldl (fun (rv : Int32) char => rv*10+(Int32.ofNat char.toNat-48)) 0
  if string.head? = some 45 then -rv else rv

-- The digits of kinguio_itoa as the loop stores them from `p` on.
def storeDigits (m : Nat → UInt8) (p value : Nat) : (Nat → UInt8) × Nat :=
  let m := Function.update m p (UInt8.ofNat (value%10)+48)
  if value/10 = 0 then (m,p+1) else storeDigits m (p+1) (value/10)

-- The loop that turns the digits around.
def turnRound (m : Nat → UInt8) (valuestring p : Nat) : Nat → UInt8 :=
  if valuestring < p then turnRound (Function.update (Function.update m valuestring (m p)) p (m valuestring)) (valuestring+1) (p-1) else m
termination_by p-valuestring

-- kinguio_itoa with its buffer at `str`.
def itoaBuffer (val : Int) (str : Nat) (m : Nat → UInt8) : Nat → UInt8 :=
  let minimum := val < -sintMax
  let value := if val < 0 then if minimum then sintMax else -val else val
  let valuestring := if val < 0 then str+1 else str
  let m := if val < 0 then Function.update m str 45 else m
  let (m,p) := storeDigits m valuestring value.toNat
  let m := if minimum then Function.update m valuestring (m valuestring+1) else m
  let m := Function.update m p 0
  turnRound m valuestring (p-1)

theorem kAtoiInt_wraps (memory : List UInt8) : kAtoiInt memory = Int32.ofInt (kAtoi (memory.takeWhile (· ≠ 0))) := by
  have sums (chars : List UInt8) (rv : Int) :
      chars.foldl (fun (rv : Int32) char => rv*10+(Int32.ofNat char.toNat-48)) (Int32.ofInt rv) =
        Int32.ofInt (chars.foldl (fun rv char => rv*10+((char.toNat : Int)-48)) rv) := by
    induction chars generalizing rv with
    | nil => rfl
    | cons char chars ih =>
        rw [List.foldl_cons,List.foldl_cons,← ih]
        congr 1
        rw [Int32.ofInt_add,Int32.ofInt_mul,Int32.ofInt_sub]
        rfl
  unfold kAtoiInt kAtoi
  simp only []
  split
  · rw [Int32.ofInt_neg,← sums]
    rfl
  · rw [← sums]
    rfl

-- The loops by what they leave at each place.
theorem storeDigits_eq (m : Nat → UInt8) (p value : Nat) : storeDigits m p value =
    (fun i => if p ≤ i ∧ i < p+(itoaDigits value).length then (itoaDigits value).getD (i-p) 0 else m i,p+(itoaDigits value).length) := by
  induction value using Nat.strongRecOn generalizing m p with
  | ind value ih =>
      unfold storeDigits itoaDigits
      by_cases last : value/10 = 0
      · simp only [last,if_true,List.length_singleton,Prod.mk.injEq,and_true]
        funext i
        by_cases here : i = p
        · subst here
          simp
        · rw [Function.update_of_ne here,if_neg (by omega)]
      · have smaller : value/10 < value := Nat.div_lt_self (by omega) (by decide)
        simp only [last,if_false,ih _ smaller,List.length_cons,Prod.mk.injEq]
        refine ⟨?_,by omega⟩
        funext i
        by_cases here : i = p
        · subst here
          rw [if_neg (by omega),if_pos (by omega),Function.update_self,Nat.sub_self]
          rfl
        · by_cases later : p+1 ≤ i
          · by_cases inside : i < p+1+(itoaDigits (value/10)).length
            · rw [if_pos ⟨later,inside⟩,if_pos (by omega),show i-p = (i-(p+1))+1 by omega]
              rfl
            · rw [if_neg (by omega),if_neg (by omega),Function.update_of_ne here]
          · rw [if_neg (by omega),if_neg (by omega),Function.update_of_ne here]

theorem storeDigits_end (m : Nat → UInt8) (p value : Nat) : (storeDigits m p value).2 = p+(itoaDigits value).length := by
  rw [storeDigits_eq]

theorem turnRound_apply (m : Nat → UInt8) (low high i : Nat) :
    turnRound m low high i = if low ≤ i ∧ i ≤ high then m (low+high-i) else m i := by
  induction m, low, high using turnRound.induct with
  | case1 m low high more ih =>
      rw [turnRound,if_pos more,ih]
      by_cases inside : low+1 ≤ i ∧ i ≤ high-1
      · rw [if_pos inside,if_pos (by omega),Function.update_of_ne (by omega),Function.update_of_ne (by omega)]
        congr 1
        omega
      · rw [if_neg inside]
        by_cases last : i = high
        · subst last
          rw [Function.update_self,if_pos (by omega)]
          congr 1
          omega
        · rw [Function.update_of_ne last]
          by_cases first : i = low
          · subst first
            rw [Function.update_self,if_pos (by omega)]
            congr 1
            omega
          · rw [Function.update_of_ne first,if_neg (by omega)]
  | case2 m low high done =>
      rw [turnRound,if_neg done]
      split
      · congr 1
        omega
      · rfl

-- The terminator after the digits, and the digits turned around before it.
theorem turnRound_digits {m stored : Nat → UInt8} {digits : List UInt8} (some : digits ≠ []) (valuestring : Nat)
    (holds : ∀ i, stored i = if valuestring ≤ i ∧ i < valuestring+digits.length then digits.getD (i-valuestring) 0 else m i) (i : Nat) :
    turnRound (Function.update stored (valuestring+digits.length) 0) valuestring (valuestring+digits.length-1) i =
      if valuestring ≤ i ∧ i ≤ valuestring+digits.length then digits.reverse.getD (i-valuestring) 0 else m i := by
  have positive := List.length_pos_iff.mpr some
  rw [turnRound_apply]
  by_cases inside : valuestring ≤ i ∧ i < valuestring+digits.length
  · rw [if_pos (by omega),if_pos (by omega),Function.update_of_ne (by omega),holds,if_pos (by omega)]
    rw [List.getD_eq_getElem _ _ (by omega),List.getD_eq_getElem _ _ (by rw [List.length_reverse]; omega),List.getElem_reverse]
    congr 1
    omega
  · rw [if_neg (by omega)]
    by_cases last : i = valuestring+digits.length
    · rw [last,Function.update_self,if_pos (by omega),List.getD_eq_default]
      rw [List.length_reverse]
      omega
    · rw [Function.update_of_ne last,holds,if_neg inside,if_neg (by omega)]

-- The digits in the memory, with the last one corrected for INT_MIN.
theorem storeDigits_bumped (m : Nat → UInt8) (valuestring value : Nat) (minimum : Bool) :
    let stored := (storeDigits m valuestring value).1
    let digits := if minimum then bumped (itoaDigits value) else itoaDigits value
    digits ≠ [] ∧ digits.length = (itoaDigits value).length ∧ ∀ i, (if minimum then Function.update stored valuestring (stored valuestring+1) else stored) i =
      if valuestring ≤ i ∧ i < valuestring+digits.length then digits.getD (i-valuestring) 0 else m i := by
  obtain ⟨digit,digits,written⟩ : ∃ digit digits, itoaDigits value = digit :: digits := by
    rw [itoaDigits]
    exact ⟨_,_,rfl⟩
  simp only [storeDigits_eq,written]
  cases minimum with
  | false => exact ⟨List.cons_ne_nil _ _,rfl,fun i => rfl⟩
  | true =>
      refine ⟨List.cons_ne_nil _ _,rfl,?_⟩
      intro i
      simp only [if_true,bumped,List.length_cons]
      by_cases first : i = valuestring
      · subst first
        rw [Function.update_self,if_pos (by omega),if_pos (by omega),Nat.sub_self]
        rfl
      · rw [Function.update_of_ne first]
        by_cases inside : valuestring ≤ i ∧ i < valuestring+(digits.length+1)
        · rw [if_pos inside,if_pos inside,show i-valuestring = (i-valuestring-1)+1 by omega]
          rfl
        · rw [if_neg inside,if_neg inside]

theorem sign_before (m : Nat → UInt8) (str : Nat) (sign : UInt8) (digits : List UInt8) (i : Nat) :
    (if str+1 ≤ i ∧ i ≤ str+1+digits.length then digits.getD (i-(str+1)) 0 else Function.update m str sign i) =
      if str ≤ i ∧ i ≤ str+(digits.length+1) then (sign :: digits).getD (i-str) 0 else m i := by
  by_cases first : i = str
  · subst first
    rw [if_neg (by omega),if_pos (by omega),Function.update_self,Nat.sub_self]
    rfl
  · rw [Function.update_of_ne first]
    by_cases inside : str+1 ≤ i ∧ i ≤ str+1+digits.length
    · rw [if_pos inside,if_pos (by omega),show i-str = (i-(str+1))+1 by omega]
      rfl
    · rw [if_neg inside,if_neg (by omega)]

-- What the three steps leave in the memory: the string and its terminator.
theorem itoaBuffer_apply (val : Int) (str : Nat) (m : Nat → UInt8) (i : Nat) : itoaBuffer val str m i =
    if str ≤ i ∧ i ≤ str+(kinguioItoa val).length then (kinguioItoa val).getD (i-str) 0 else m i := by
  unfold itoaBuffer kinguioItoa
  by_cases negative : val < 0
  · simp only [negative,if_true]
    obtain ⟨some,length,holds⟩ := storeDigits_bumped (Function.update m str 45) (str+1)
      (if val < -sintMax then sintMax else -val).toNat (val < -sintMax)
    simp only [decide_eq_true_eq] at some length holds
    rw [storeDigits_end,← length,turnRound_digits some (str+1) holds,List.length_cons,List.length_reverse]
    have joined := sign_before m str 45 (if val < -sintMax then bumped (itoaDigits (if val < -sintMax then sintMax else -val).toNat)
      else itoaDigits (if val < -sintMax then sintMax else -val).toNat).reverse i
    rwa [List.length_reverse] at joined
  · have largest : ¬ val < -sintMax := by
      unfold sintMax
      omega
    have stored := storeDigits_bumped m str val.toNat false
    simp only [negative,largest,if_false]
    obtain ⟨some,length,holds⟩ := stored
    rw [storeDigits_end,List.length_reverse]
    exact turnRound_digits some str holds i

theorem digit_isDigit {c : UInt8} (among : c ∈ numeral 10 n) : isDigit c = true := by
  obtain ⟨d,small,same⟩ := numeral_mem (by decide) among
  have value : c.toNat = 48+d := by rw [same,digit_toNat (by omega),if_pos small]
  unfold isDigit
  rw [Bool.and_eq_true,decide_eq_true_eq,decide_eq_true_eq,UInt8.le_iff_toNat_le,UInt8.le_iff_toNat_le,value]
  have first : (48 : UInt8).toNat = 48 := rfl
  have last : (57 : UInt8).toNat = 57 := rfl
  omega

theorem digit_notSign {c : UInt8} (digit : isDigit c = true) : isSign c = false ∧ c ≠ 45 ∧ c ≠ 0 := by
  have other : ∀ d, isDigit d = false → c ≠ d := by
    rintro d not rfl
    rw [digit] at not
    cases not
  have minus := other 45 rfl
  refine ⟨?_,minus,other 0 rfl⟩
  unfold isSign
  rw [Bool.or_eq_false_iff,beq_eq_false_iff_ne,beq_eq_false_iff_ne]
  exact ⟨other 43 rfl,minus⟩

-- The digits of a natural number, read from their first one on.
theorem kAtoi_numeral (n : Nat) :
    ∃ first digits, numeral 10 n = first :: digits ∧ isDigit first = true ∧
      ((first :: digits).takeWhile isDigit).foldl (fun rv char => rv*10+((char.toNat : Int)-48)) 0 = n := by
  cases text : numeral 10 n with
  | nil => exact absurd text (numeral_ne_nil (by decide) n)
  | cons first digits =>
      have all : ∀ c ∈ first :: digits, isDigit c = true := by
        intro c among
        rw [← text] at among
        exact digit_isDigit among
      have value := numeral_value (show 2 ≤ 10 by decide) (by decide) n
      rw [text] at value
      refine ⟨first,digits,rfl,all first List.mem_cons_self,?_⟩
      rwa [List.takeWhile_eq_self_iff.mpr all]

theorem signedNumeral_nonzero {n : Int} {c : UInt8} (among : c ∈ signedNumeral n) : c ≠ 0 := by
  have digits : ∀ c ∈ numeral 10 n.natAbs, c ≠ 0 := fun c among => (digit_notSign (digit_isDigit among)).2.2
  unfold signedNumeral at among
  split at among
  · rcases List.mem_cons.mp among with minus | later
    · rw [minus]
      decide
    · exact digits c later
  · exact digits c among

theorem kAtoi_signedNumeral (n : Int) : kAtoi (signedNumeral n) = n := by
  obtain ⟨first,digits,text,digit,value⟩ := kAtoi_numeral n.natAbs
  obtain ⟨notSign,notMinus,_⟩ := digit_notSign digit
  unfold kAtoi signedNumeral
  by_cases negative : n < 0
  · rw [if_pos negative,text]
    have minus : isSign 45 = true := rfl
    simp only [List.dropWhile_cons,minus,Bool.not_true,Bool.and_false,Bool.false_eq_true,if_false,List.head?_cons,Option.any_some,if_true,List.tail_cons,value]
    omega
  · rw [if_neg negative,text]
    simp only [List.dropWhile_cons,digit,Bool.not_true,Bool.false_and,Bool.false_eq_true,if_false,List.head?_cons,Option.any_some,notSign,value,
      Option.some.injEq,notMinus]
    omega

theorem signedNumeral_sign (v : Int32) :
    (if v < 0 then 45 :: numeral 10 v.toInt.natAbs else numeral 10 v.toInt.natAbs) = signedNumeral v.toInt := by
  have sign : v < 0 ↔ v.toInt < 0 := Int32.lt_iff_toInt_lt
  unfold signedNumeral
  simp only [sign]

-- A prefix without digits and signs is skipped, and the terminator ends the string.
theorem kAtoiInt_signedNumeral (v : Int32) {before : List UInt8} (plain : ∀ c ∈ before, isDigit c = false ∧ isSign c = false ∧ c ≠ 0)
    (after : List UInt8) : kAtoiInt (before ++ signedNumeral v.toInt ++ 0 :: after) = v := by
  have nonzero : ∀ c ∈ before ++ signedNumeral v.toInt, decide (c ≠ 0) = true := by
    intro c among
    rw [decide_eq_true_eq]
    rcases List.mem_append.mp among with earlier | later
    · exact (plain c earlier).2.2
    · exact signedNumeral_nonzero later
  have skipped : ∀ c ∈ before, (!isDigit c && !isSign c) = true := by
    intro c among
    rw [(plain c among).1,(plain c among).2.1]
    rfl
  rw [kAtoiInt_wraps,List.takeWhile_append_of_pos nonzero]
  have ended : (0 :: after).takeWhile (fun c => decide (c ≠ 0)) = [] := rfl
  have number := kAtoi_signedNumeral v.toInt
  unfold kAtoi at number ⊢
  rw [ended,List.append_nil,List.dropWhile_append_of_pos skipped,number,Int32.ofInt_toInt]

theorem decimal_round_trip (v : Int32) (str : Nat) (m : Nat → UInt8) {before : List UInt8}
    (plain : ∀ c ∈ before, isDigit c = false ∧ isSign c = false ∧ c ≠ 0) :
    ∃ digits, 1 ≤ digits.length ∧ digits.length ≤ 10 ∧ (∀ c ∈ digits, isDigit c = true) ∧ (digits.head? = some 48 → digits = [48]) ∧
      let text := if v < 0 then 45 :: digits else digits
      (∀ i, itoaBuffer v.toInt str m i = if str ≤ i ∧ i ≤ str+text.length then text.getD (i-str) 0 else m i) ∧
        ∀ after, kAtoiInt (text ++ 0 :: after) = v ∧ kAtoiInt (before ++ text ++ 0 :: after) = v := by
  have least := Int32.le_toInt v
  have most := Int32.toInt_lt v
  have fits : v.toInt.natAbs < 10^10 := by omega
  refine ⟨numeral 10 v.toInt.natAbs,List.length_pos_iff.mpr (numeral_ne_nil (by decide) _),numeral_length (by decide) (by decide) fits,?_,?_,?_⟩
  · intro c among
    exact digit_isDigit among
  · intro zero
    have none := numeral_head (by decide) (by decide) zero
    rw [none]
    rfl
  simp only [signedNumeral_sign]
  constructor
  · intro i
    rw [itoaBuffer_apply,kinguioItoa_signedNumeral least]
  intro after
  exact ⟨kAtoiInt_signedNumeral v (List.forall_mem_nil _) after,kAtoiInt_signedNumeral v plain after⟩

theorem decimal_round_trip_minimum :
    ∃ digits, 1 ≤ digits.length ∧ digits.length ≤ 10 ∧ (∀ c ∈ digits, isDigit c = true) ∧ (digits.head? = some 48 → digits = [48]) ∧
      let text := if Int32.minValue < 0 then 45 :: digits else digits
      (∀ i, itoaBuffer Int32.minValue.toInt 64 (fun _ => 0xCC) i =
        if 64 ≤ i ∧ i ≤ 64+text.length then text.getD (i-64) 0 else 0xCC) ∧
        ∀ after, kAtoiInt (text ++ 0 :: after) = Int32.minValue ∧ kAtoiInt ([0x78,0x20] ++ text ++ 0 :: after) = Int32.minValue :=
  decimal_round_trip Int32.minValue 64 (fun _ => 0xCC)
    (List.forall_mem_cons.mpr ⟨by decide,List.forall_mem_cons.mpr ⟨by decide,List.forall_mem_nil _⟩⟩)

end GramadoKernel
