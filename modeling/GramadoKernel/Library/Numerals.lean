import Mathlib.Data.List.TakeWhile
import Mathlib.Data.Nat.Digits.Lemmas

namespace Numerals

-- Digits in ASCII, the capital letters after the ten decimal ones.
def digit (d : Nat) : UInt8 := UInt8.ofNat (if d < 10 then 48+d else 55+d)

-- A number in a base up to 36, without leading zeros.
def numeral (base n : Nat) : List UInt8 := if n = 0 then [digit 0] else ((Nat.digits base n).map digit).reverse

theorem digit_toNat {d : Nat} (small : d < 36) : (digit d).toNat = if d < 10 then 48+d else 55+d := by
  unfold digit
  rw [UInt8.toNat_ofNat_of_lt']
  change _ < 256
  split <;> omega

theorem digit_inj {c d : Nat} (smallC : c < 36) (smallD : d < 36) (same : digit c = digit d) : c = d := by
  have equal := congrArg UInt8.toNat same
  rw [digit_toNat smallC,digit_toNat smallD] at equal
  split at equal <;> split at equal <;> omega

-- The last digit comes off the end.
theorem numeral_rec {base : Nat} (large : 2 ≤ base) (n : Nat) :
    numeral base n = (if n < base then [] else numeral base (n/base)) ++ [digit (n%base)] := by
  unfold numeral
  by_cases zero : n = 0
  · subst zero
    simp [show 0 < base by omega]
  · have positive : 0 < n := Nat.pos_of_ne_zero zero
    rw [if_neg zero,Nat.digits_def' (by omega) positive,List.map_cons,List.reverse_cons]
    congr 1
    by_cases short : n < base
    · simp [short,Nat.div_eq_of_lt short]
    · have rest : n/base ≠ 0 := by
        have one := Nat.div_le_div_right (c := base) (Nat.le_of_not_lt short)
        rw [Nat.div_self (by omega)] at one
        omega
      rw [if_neg short,if_neg rest]

theorem numeral_ne_nil {base : Nat} (large : 2 ≤ base) (n : Nat) : numeral base n ≠ [] := by
  rw [numeral_rec large]
  simp

theorem numeral_mem {base : Nat} (large : 2 ≤ base) {n : Nat} {c : UInt8} (among : c ∈ numeral base n) : ∃ d < base, c = digit d := by
  induction n using Nat.strongRecOn with
  | ind n ih =>
      rw [numeral_rec large,List.mem_append,List.mem_singleton] at among
      rcases among with earlier | last
      · split at earlier
        · cases earlier
        · rename_i long
          exact ih (n/base) (Nat.div_lt_self (by omega) (by omega)) earlier
      · exact ⟨n%base,Nat.mod_lt n (by omega),last⟩

theorem numeral_inj {base : Nat} (large : 2 ≤ base) (letters : base ≤ 36) {m n : Nat} (same : numeral base m = numeral base n) : m = n := by
  induction m using Nat.strongRecOn generalizing n with
  | ind m ih =>
      rw [numeral_rec large m,numeral_rec large n] at same
      obtain ⟨earlier,last⟩ := List.append_inj' same rfl
      have tails : m%base = n%base := by
        have left := Nat.mod_lt m (show 0 < base by omega)
        have right := Nat.mod_lt n (show 0 < base by omega)
        exact digit_inj (by omega) (by omega) (List.cons.inj last).1
      by_cases shortM : m < base
      · by_cases shortN : n < base
        · rwa [Nat.mod_eq_of_lt shortM,Nat.mod_eq_of_lt shortN] at tails
        · rw [if_pos shortM,if_neg shortN] at earlier
          exact absurd earlier.symm (numeral_ne_nil large _)
      · by_cases shortN : n < base
        · rw [if_neg shortM,if_pos shortN] at earlier
          exact absurd earlier (numeral_ne_nil large _)
        · rw [if_neg shortM,if_neg shortN] at earlier
          have quotients := ih (m/base) (Nat.div_lt_self (by omega) (by omega)) earlier
          rw [← Nat.div_add_mod m base,← Nat.div_add_mod n base,quotients,tails]

theorem numeral_length_mono {base m n : Nat} (large : 2 ≤ base) (le : m ≤ n) : (numeral base m).length ≤ (numeral base n).length := by
  have lengths : ∀ k, k ≠ 0 → (numeral base k).length = (Nat.digits base k).length := by
    intro k some
    unfold numeral
    rw [if_neg some,List.length_reverse,List.length_map]
  by_cases zero : m = 0
  · have one : (numeral base m).length = 1 := by
      rw [zero]
      rfl
    rw [one]
    exact List.length_pos_iff.mpr (numeral_ne_nil large n)
  · rw [lengths m zero,lengths n (by omega)]
    exact Nat.le_length_digits_le base m n le

theorem numeral_length {base n k : Nat} (large : 2 ≤ base) (some : 0 < k) (fits : n < base^k) : (numeral base n).length ≤ k := by
  induction k generalizing n with
  | zero => omega
  | succ k ih =>
      rw [numeral_rec large]
      by_cases short : n < base
      · simp [short]
      · have rest : n/base < base^k := by
          rw [Nat.pow_succ] at fits
          exact Nat.div_lt_of_lt_mul (by rwa [Nat.mul_comm])
        have positive : 0 < k := by
          by_contra none
          obtain rfl : k = 0 := by omega
          rw [Nat.pow_one] at fits
          exact short fits
        have earlier := ih positive rest
        simp only [short,if_false,List.length_append,List.length_singleton]
        omega

-- Only 0 begins with a zero.
theorem numeral_head {base n : Nat} (large : 2 ≤ base) (letters : base ≤ 36) (zero : (numeral base n).head? = some (digit 0)) : n = 0 := by
  induction n using Nat.strongRecOn with
  | ind n ih =>
      rw [numeral_rec large] at zero
      by_cases short : n < base
      · simp only [short,if_true,List.nil_append,List.head?_cons,Option.some.injEq] at zero
        rw [Nat.mod_eq_of_lt short] at zero
        exact digit_inj (by omega) (by omega) zero
      · have begins : ((numeral base (n/base)) ++ [digit (n%base)]).head? = (numeral base (n/base)).head? :=
          List.head?_append_of_ne_nil _ (numeral_ne_nil large _)
        rw [if_neg short,begins] at zero
        have none := ih (n/base) (Nat.div_lt_self (by omega) (by omega)) zero
        have one := Nat.div_le_div_right (c := base) (Nat.le_of_not_lt short)
        rw [Nat.div_self (by omega)] at one
        omega

-- The digits give the number back.
theorem numeral_value {base : Nat} (large : 2 ≤ base) (decimal : base ≤ 10) (n : Nat) :
    (numeral base n).foldl (fun (rv : Int) c => rv*base+((c.toNat : Int)-48)) 0 = n := by
  induction n using Nat.strongRecOn with
  | ind n ih =>
      have small := Nat.mod_lt n (show 0 < base by omega)
      have last : ((digit (n%base)).toNat : Int)-48 = (n%base : Nat) := by
        rw [digit_toNat (by omega),if_pos (by omega)]
        omega
      rw [numeral_rec large,List.foldl_append,List.foldl_cons,List.foldl_nil,last]
      by_cases short : n < base
      · simp [short,Nat.mod_eq_of_lt short]
      · rw [if_neg short,ih (n/base) (Nat.div_lt_self (by omega) (by omega))]
        exact_mod_cast Nat.div_add_mod' n base

-- A number written into a field of a fixed width.
def padded (base : Nat) : Nat → Nat → List UInt8
  | 0,_ => []
  | width+1,n => padded base width (n/base) ++ [digit (n%base)]

theorem padded_zero {base : Nat} (width : Nat) : ∀ c ∈ padded base width 0, c = digit 0 := by
  induction width with
  | zero => simp [padded]
  | succ width ih =>
      intro c among
      rw [padded,Nat.zero_div,Nat.zero_mod,List.mem_append,List.mem_singleton] at among
      rcases among with earlier | last
      · exact ih c earlier
      · exact last

-- Without the leading zeros it is the numeral.
theorem padded_dropWhile {base width n : Nat} (large : 2 ≤ base) (letters : base ≤ 36) (positive : 0 < n) (fits : n < base^width) :
    (padded base width n).dropWhile (· = digit 0) = numeral base n := by
  induction width generalizing n with
  | zero =>
      rw [Nat.pow_zero] at fits
      omega
  | succ width ih =>
      rw [padded,numeral_rec large]
      by_cases short : n < base
      · have none : (padded base width (n/base)).dropWhile (· = digit 0) = [] := by
          rw [Nat.div_eq_of_lt short,List.dropWhile_eq_nil_iff]
          intro c among
          simpa using padded_zero width c among
        have other : digit (n%base) ≠ digit 0 := by
          rw [Nat.mod_eq_of_lt short]
          intro same
          have zero := digit_inj (by omega) (by omega) same
          omega
        rw [if_pos short,List.dropWhile_append,none]
        simp [other]
      · have rest : 0 < n/base := Nat.div_pos (by omega) (by omega)
        have smaller : n/base < base^width := by
          rw [Nat.pow_succ] at fits
          exact Nat.div_lt_of_lt_mul (by rwa [Nat.mul_comm])
        have dropped := ih rest smaller
        rw [if_neg short,List.dropWhile_append,dropped]
        simp [numeral_ne_nil large]

end Numerals
