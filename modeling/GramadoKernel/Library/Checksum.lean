import Mathlib.Data.List.Basic

namespace Checksum

-- The sixteen-bit words of a string, high byte first; a last odd byte is a high one.
def words : List UInt8 → List Nat
  | high :: low :: rest => (256*high.toNat+low.toNat) :: words rest
  | [last] => [256*last.toNat]
  | [] => []

-- Addition in one's complement: the carry goes around the end.
def add (a b : Nat) : Nat := (a+b) % 65536+(a+b)/65536

-- The words added without the carry.
def total : List Nat → Nat
  | [] => 0
  | w :: rest => w+total rest

def sum (values : List Nat) : Nat := values.foldr add 0

-- The Internet checksum of a string.
def internet (bytes : List UInt8) : Nat := 65535-sum (words bytes)

-- The sum of the words with the low byte first.
def swapped : List UInt8 → Nat
  | low :: high :: rest => low.toNat+256*high.toNat+swapped rest
  | [last] => last.toNat
  | [] => 0

theorem words_le (bytes : List UInt8) : ∀ w ∈ words bytes, w ≤ 65535 := by
  induction bytes using words.induct with
  | case1 high low rest ih =>
      intro w member
      have first := high.toNat_lt
      have second := low.toNat_lt
      rcases List.mem_cons.mp member with rfl | old
      · omega
      · exact ih w old
  | case2 last =>
      intro w member
      have bound := last.toNat_lt
      rw [List.mem_singleton.mp member]
      omega
  | case3 =>
      intro w member
      cases member

theorem swapped_le (bytes : List UInt8) : swapped bytes ≤ 65535*((bytes.length+1)/2) := by
  induction bytes using swapped.induct with
  | case1 low high rest ih =>
      have first := low.toNat_lt
      have second := high.toNat_lt
      simp only [swapped,List.length_cons]
      omega
  | case2 last =>
      have bound := last.toNat_lt
      simp only [swapped,List.length_singleton]
      omega
  | case3 => exact Nat.zero_le _

theorem sum_bound {values : List Nat} (small : ∀ w ∈ values, w ≤ 65535) : sum values ≤ 65535 := by
  induction values with
  | nil => exact Nat.zero_le _
  | cons w rest ih =>
      have first := small w List.mem_cons_self
      have later := ih fun v member => small v (List.mem_cons_of_mem w member)
      change add w (sum rest) ≤ 65535
      unfold add
      omega

-- One's complement counts modulo 65535.
theorem sum_mod (values : List Nat) : sum values % 65535 = total values % 65535 := by
  induction values with
  | nil => rfl
  | cons w rest ih =>
      change add w (sum rest) % 65535 = (w+total rest) % 65535
      unfold add
      omega

theorem sum_positive {values : List Nat} (some : 0 < total values) : 0 < sum values := by
  induction values with
  | nil => exact some
  | cons w rest ih =>
      have first : 0 < w+total rest := some
      change 0 < add w (sum rest)
      unfold add
      rcases Nat.eq_zero_or_pos w with rfl | large
      · have later := ih (by omega)
        omega
      · omega

theorem words_sum_mod (bytes : List UInt8) : total (words bytes) % 65535 = 256*swapped bytes % 65535 := by
  induction bytes using words.induct with
  | case1 high low rest ih =>
      simp only [words,swapped,total]
      omega
  | case2 last => simp [words,swapped,total]
  | case3 => rfl

theorem words_sum_positive {bytes : List UInt8} (some : 0 < swapped bytes) : 0 < total (words bytes) := by
  induction bytes using words.induct with
  | case1 high low rest ih =>
      simp only [words,swapped,total] at some ⊢
      rcases Nat.eq_zero_or_pos (swapped rest) with none | later
      · omega
      · have known := ih later
        omega
  | case2 last =>
      simp only [words,swapped,total] at some ⊢
      omega
  | case3 => exact some

-- A string whose words are together a positive multiple of 65535, in either order of
-- the bytes, sums to all ones.
theorem sum_whole {bytes : List UInt8} (whole : swapped bytes % 65535 = 0) (some : 0 < swapped bytes) : sum (words bytes) = 65535 := by
  have bound := sum_bound (words_le bytes)
  have positive := sum_positive (words_sum_positive some)
  have residue := sum_mod (words bytes)
  rw [words_sum_mod] at residue
  omega

theorem internet_zero {bytes : List UInt8} (whole : swapped bytes % 65535 = 0) (some : 0 < swapped bytes) : internet bytes = 0 := by
  rw [internet,sum_whole whole some]

theorem swapped_append {front : List UInt8} (even : front.length % 2 = 0) (back : List UInt8) :
    swapped (front ++ back) = swapped front+swapped back := by
  induction front using swapped.induct with
  | case1 low high rest ih =>
      simp only [List.length_cons] at even
      simp only [List.cons_append,swapped,ih (by omega),Nat.add_assoc]
  | case2 last => cases even
  | case3 => simp [swapped]

end Checksum
