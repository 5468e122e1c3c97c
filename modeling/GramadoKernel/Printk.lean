import GramadoKernel.Library.Numerals
import Mathlib.Data.List.Basic

namespace GramadoKernel
open Numerals

-- klimits.h
def hexLen : Nat := 8
def sintMax : Int := 0x7FFFFFFF

-- The digits of kinguio_i2hex, which are stored from the last to the first.
def hexDigits : Nat → Nat → List UInt8
  | 0,_ => []
  | len+1,n =>
      let x := n%16
      hexDigits len (n/16) ++ [UInt8.ofNat (x+if hexLen+1 < x then 65-10 else 48)]

-- The string that kinguio_i2hex leaves in its buffer.
def kinguioI2hex (val len : Nat) : List UInt8 :=
  if val = 0 then [48]
  else
    let digits := hexDigits len val
    let rest := digits.dropWhile (· = 48)
    if rest = [] then digits else rest

-- The digits of kinguio_itoa as the loop stores them, the last one first.
def itoaDigits (value : Nat) : List UInt8 :=
  (UInt8.ofNat (value%10)+48) :: if value/10 = 0 then [] else itoaDigits (value/10)

-- ++*valuestring
def bumped : List UInt8 → List UInt8
  | [] => []
  | digit :: digits => (digit+1) :: digits

-- INT_MIN has no opposite, and its last digit is corrected afterwards.
def kinguioItoa (val : Int) : List UInt8 :=
  if val < 0 then
    let minimum := val < -sintMax
    let value := if minimum then sintMax else -val
    let digits := itoaDigits value.toNat
    45 :: (if minimum then bumped digits else digits).reverse
  else (itoaDigits val.toNat).reverse

-- A string in memory, without its terminator.
structure Text where
  bytes : List UInt8
  terminated : 0 ∉ bytes

-- What va_arg finds: a number, and as a pointer the string it points to.
structure Slot where
  word : UInt32
  text : Option Text

-- As int, and as unsigned int.
def Slot.signed (slot : Slot) : Int := slot.word.toInt32.toInt
def Slot.unsigned (slot : Slot) : Nat := slot.word.toNat

-- _vsputs_r for one character.
def vsputsChar (c : UInt8) : List UInt8 := if c = 0 then [] else [c]

def nullText : List UInt8 := [60,78,85,76,76,62]

-- What the character after % prints, and whether it takes an argument.
def directive (c : UInt8) (slot : Slot) : List UInt8 × Bool :=
  if c = 99 then (vsputsChar slot.word.toUInt8,true)
  else if c = 115 then
    match slot.text with
    | none => (nullText,true)
    | some text => (text.bytes,true)
  else if c = 100 ∨ c = 105 then (kinguioItoa slot.signed,true)
  else if c = 117 then (kinguioItoa (slot.unsigned%256 : Nat),true)
  else if c = 88 ∨ c = 120 then (kinguioI2hex slot.unsigned 8,true)
  else ([37,37],false)

-- The characters written to str, and how many characters of fmt were read.
structure Formatted where
  written : List UInt8
  read : Nat

def Formatted.value (f : Formatted) : Nat := f.written.length

def Formatted.after (f : Formatted) (text : List UInt8) (read : Nat) : Formatted := ⟨text ++ f.written,read+f.read⟩

def nextArg (i : Nat) (taken : Bool) : Nat := if taken = true then i+1 else i

-- kinguio_vsprintf over the memory from fmt on, with the number of the next argument.
-- Where the memory ends the next character is read behind it.
def kinguioVsprintf (args : Nat → Slot) : Nat → List UInt8 → Formatted
  | _,[] => ⟨[],1⟩
  | _,[c] =>
      if c = 0 then ⟨[],1⟩
      else if c = 37 then ⟨[],2⟩
      else ⟨[c],2⟩
  | i,c :: d :: rest =>
      if c = 0 then ⟨[],1⟩
      else if c = 37 then (kinguioVsprintf args (nextArg i (directive d (args i)).2) rest).after (directive d (args i)).1 2
      else (kinguioVsprintf args i (d :: rest)).after [c] 1

-- The parts of a format.
inductive Piece where
  | plain (c : UInt8) (ordinary : c ≠ 0 ∧ c ≠ 37)
  | char
  | string
  | decimal (i : Bool)
  | unsigned
  | hex (capital : Bool)
  | percent

def Piece.source : Piece → List UInt8
  | .plain c _ => [c]
  | .char => [37,99]
  | .string => [37,115]
  | .decimal i => [37,if i = true then 105 else 100]
  | .unsigned => [37,117]
  | .hex capital => [37,if capital = true then 88 else 120]
  | .percent => [37,37]

def Piece.takes : Piece → Bool
  | .plain _ _ => false
  | .percent => false
  | _ => true

-- The arguments that the claim of a format is about: no NUL characters, and strings.
def Piece.Matches (slot : Slot) : Piece → Prop
  | .char => slot.word.toUInt8 ≠ 0
  | .string => slot.text ≠ none
  | _ => True

def signedNumeral (n : Int) : List UInt8 := if n < 0 then 45 :: numeral 10 n.natAbs else numeral 10 n.natAbs

-- The usual rendering.
def Piece.standard (slot : Slot) : Piece → List UInt8
  | .plain c _ => [c]
  | .char => [slot.word.toUInt8]
  | .string => (slot.text.map Text.bytes).getD []
  | .decimal _ => signedNumeral slot.signed
  | .unsigned => numeral 10 slot.unsigned
  | .hex _ => numeral 16 slot.unsigned
  | .percent => [37]

-- The rendering of kinguio_vsprintf.
def Piece.printed (slot : Slot) : Piece → List UInt8
  | .plain c _ => [c]
  | .char => vsputsChar slot.word.toUInt8
  | .string => (slot.text.map Text.bytes).getD nullText
  | .decimal _ => kinguioItoa slot.signed
  | .unsigned => kinguioItoa (slot.unsigned%256 : Nat)
  | .hex _ => kinguioI2hex slot.unsigned 8
  | .percent => [37,37]

-- A property of every part with its argument, and the texts of all parts.
def Every (holds : Piece → Slot → Prop) (args : Nat → Slot) : Nat → List Piece → Prop
  | _,[] => True
  | i,p :: pieces => holds p (args i) ∧ Every holds args (nextArg i p.takes) pieces

def texts (text : Piece → Slot → List UInt8) (args : Nat → Slot) : Nat → List Piece → List UInt8
  | _,[] => []
  | i,p :: pieces => text p (args i) ++ texts text args (nextArg i p.takes) pieces

def formatOf (pieces : List Piece) : List UInt8 := pieces.flatMap Piece.source

theorem directive_piece (p : Piece) (slot : Slot) (c : UInt8) (source : p.source = [37,c]) : directive c slot = (p.printed slot,p.takes) := by
  cases p with
  | plain c' ordinary => cases source
  | char =>
      cases source
      rfl
  | string =>
      cases source
      unfold directive Piece.printed
      cases slot.text <;> rfl
  | decimal i => cases i <;> cases source <;> rfl
  | unsigned =>
      cases source
      rfl
  | hex capital => cases capital <;> cases source <;> rfl
  | percent =>
      cases source
      rfl

theorem vsprintf_directive (args : Nat → Slot) (i : Nat) (d : UInt8) (rest : List UInt8) :
    kinguioVsprintf args i (37 :: d :: rest) =
      (kinguioVsprintf args (nextArg i (directive d (args i)).2) rest).after (directive d (args i)).1 2 := rfl

theorem vsprintf_plain (args : Nat → Slot) (i : Nat) {c : UInt8} (ordinary : c ≠ 0 ∧ c ≠ 37) {memory : List UInt8} (more : memory ≠ []) :
    kinguioVsprintf args i (c :: memory) = (kinguioVsprintf args i memory).after [c] 1 := by
  cases memory with
  | nil => exact absurd rfl more
  | cons d rest => rw [kinguioVsprintf,if_neg ordinary.1,if_neg ordinary.2]

theorem vsprintf_zero (args : Nat → Slot) (i : Nat) (memory : List UInt8) : kinguioVsprintf args i (0 :: memory) = ⟨[],1⟩ := by
  cases memory <;> rfl

theorem formatOf_cons (p : Piece) (pieces : List Piece) : formatOf (p :: pieces) = p.source ++ formatOf pieces := List.flatMap_cons

theorem source_cases (p : Piece) : (∃ c ordinary, p = .plain c ordinary) ∨ ∃ d, p.source = [37,d] := by
  cases p with
  | plain c ordinary => exact .inl ⟨c,ordinary,rfl⟩
  | _ => exact .inr ⟨_,rfl⟩

-- A format made of parts prints them one after the other, up to its terminator.
theorem vsprintf_pieces (args : Nat → Slot) (after : List UInt8) (pieces : List Piece) (i : Nat) :
    kinguioVsprintf args i (formatOf pieces ++ 0 :: after) =
      ⟨texts (fun p slot => p.printed slot) args i pieces,(formatOf pieces).length+1⟩ := by
  induction pieces generalizing i with
  | nil => exact vsprintf_zero args i after
  | cons p pieces ih =>
      rw [formatOf_cons,texts]
      rcases source_cases p with ⟨c,ordinary,rfl⟩ | ⟨d,source⟩
      · have more : formatOf pieces ++ 0 :: after ≠ [] := by simp
        simp only [Piece.source,List.cons_append,List.nil_append]
        rw [vsprintf_plain args i ordinary more,ih i]
        simp only [Formatted.after,List.length_cons,Formatted.mk.injEq]
        refine ⟨rfl,?_⟩
        omega
      · rw [source]
        simp only [List.cons_append,List.nil_append]
        rw [vsprintf_directive,directive_piece p (args i) d source,ih]
        simp only [Formatted.after,List.length_cons,Formatted.mk.injEq,true_and]
        omega

section Numbers

theorem itoaDigits_numeral (value : Nat) : (itoaDigits value).reverse = numeral 10 value := by
  induction value using Nat.strongRecOn with
  | ind value ih =>
      have last : UInt8.ofNat (value%10)+48 = digit (value%10) := by
        have small : value%10 < 10 := Nat.mod_lt value (by decide)
        unfold digit
        rw [if_pos small,Nat.add_comm,UInt8.ofNat_add]
        rfl
      rw [itoaDigits,numeral_rec (by decide),last,List.reverse_cons]
      by_cases short : value < 10
      · rw [if_pos short,if_pos (Nat.div_eq_of_lt short)]
        rfl
      · rw [if_neg short,if_neg (by omega),ih (value/10) (by omega)]

-- Every int is printed, INT_MIN too.
theorem kinguioItoa_signedNumeral {val : Int} (low : -2147483648 ≤ val) : kinguioItoa val = signedNumeral val := by
  unfold kinguioItoa signedNumeral
  by_cases negative : val < 0
  · rw [if_pos negative,if_pos negative]
    by_cases minimum : val < -sintMax
    · have exactly : val = -2147483648 := by
        unfold sintMax at minimum
        omega
      -- the digits of INT_MAX with 8 for the last 7
      have corrected : (bumped (itoaDigits 2147483647)).reverse = numeral 10 2147483648 := by
        have quotient : 2147483647/10 = 2147483648/10 := by decide
        have last : UInt8.ofNat (2147483647%10)+48+1 = digit (2147483648%10) := by decide
        rw [itoaDigits,numeral_rec (by decide),bumped,List.reverse_cons,last,if_neg (by decide),if_neg (by decide),quotient,itoaDigits_numeral]
      have size : val.natAbs = 2147483648 := by omega
      have largest : sintMax.toNat = 2147483647 := rfl
      simp only [minimum,if_true,largest,corrected,size]
    · have number : (-val).toNat = val.natAbs := by omega
      simp only [minimum,if_false,number,itoaDigits_numeral]
  · have number : val.toNat = val.natAbs := by omega
    rw [if_neg negative,if_neg negative,itoaDigits_numeral,number]

theorem hexDigits_padded (len n : Nat) : hexDigits len n = padded 16 len n := by
  induction len generalizing n with
  | zero => rfl
  | succ len ih =>
      rw [hexDigits,padded,ih]
      have small : n%16 < 16 := Nat.mod_lt n (by decide)
      congr 2
      unfold digit hexLen
      by_cases letter : n%16 < 10
      · rw [if_pos letter,if_neg (by omega),Nat.add_comm]
      · rw [if_neg letter,if_pos (by omega),Nat.add_comm]

theorem kinguioI2hex_numeral {val : Nat} (fits : val < 16^8) : kinguioI2hex val 8 = numeral 16 val := by
  unfold kinguioI2hex
  by_cases zero : val = 0
  · rw [if_pos zero,zero]
    rfl
  · have dropped := padded_dropWhile (by decide : 2 ≤ 16) (by decide) (Nat.pos_of_ne_zero zero) fits
    have zeroDigit : digit 0 = 48 := rfl
    rw [zeroDigit] at dropped
    simp only [if_neg zero,hexDigits_padded,dropped,if_neg (numeral_ne_nil (by decide : 2 ≤ 16) val)]

end Numbers

-- Where a part is printed as it should be.
def Piece.Agrees (slot : Slot) : Piece → Prop
  | .unsigned => slot.unsigned < 256
  | .percent => False
  | _ => True

def Piece.percents : Piece → Nat
  | .percent => 1
  | _ => 0

theorem unsigned_printed (slot : Slot) : Piece.unsigned.printed slot = numeral 10 (slot.unsigned%256) := by
  have number : kinguioItoa (slot.unsigned%256 : Nat) = signedNumeral (slot.unsigned%256 : Nat) := kinguioItoa_signedNumeral (by omega)
  have positive : ¬ ((slot.unsigned%256 : Nat) : Int) < 0 := by omega
  exact number.trans (if_neg positive)

theorem printed_standard {p : Piece} {slot : Slot} (matching : p.Matches slot) (other : p ≠ .unsigned ∧ p ≠ .percent) :
    p.printed slot = p.standard slot := by
  cases p with
  | plain c ordinary => rfl
  | char => exact if_neg matching
  | string =>
      obtain ⟨text,found⟩ := Option.ne_none_iff_exists'.mp matching
      simp [Piece.printed,Piece.standard,found]
  | decimal i => exact kinguioItoa_signedNumeral (Int32.le_toInt _)
  | unsigned => exact absurd rfl other.1
  | hex capital => exact kinguioI2hex_numeral slot.word.toNat_lt
  | percent => exact absurd rfl other.2

theorem printed_iff {p : Piece} {slot : Slot} (matching : p.Matches slot) : p.printed slot = p.standard slot ↔ p.Agrees slot := by
  by_cases number : p = .unsigned
  · subst number
    rw [unsigned_printed]
    unfold Piece.standard Piece.Agrees
    constructor
    · intro same
      have equal := numeral_inj (by decide) (by decide) same
      omega
    · intro small
      rw [Nat.mod_eq_of_lt small]
  · by_cases percent : p = .percent
    · subst percent
      constructor
      · intro same
        cases same
      · intro never
        cases never
    · rw [printed_standard matching ⟨number,percent⟩]
      cases p with
      | unsigned => exact absurd rfl number
      | percent => exact absurd rfl percent
      | _ => exact ⟨fun _ => trivial,fun _ => rfl⟩

theorem numeral_no_percent (n : Nat) : (numeral 10 n).count 37 = 0 := by
  apply List.count_eq_zero.mpr
  intro among
  obtain ⟨d,small,same⟩ := numeral_mem (by decide) among
  have equal := congrArg UInt8.toNat same
  rw [digit_toNat (by omega),if_pos small] at equal
  have percent : (37 : UInt8).toNat = 37 := rfl
  omega

-- A printed % too many for each %%, and no character too many otherwise.
theorem printed_percents {p : Piece} {slot : Slot} (matching : p.Matches slot) :
    (p.printed slot).count 37 = (p.standard slot).count 37+p.percents := by
  by_cases number : p = .unsigned
  · subst number
    rw [unsigned_printed,numeral_no_percent]
    exact (numeral_no_percent slot.unsigned).symm
  · by_cases percent : p = .percent
    · subst percent
      rfl
    · rw [printed_standard matching ⟨number,percent⟩]
      cases p with
      | percent => exact absurd rfl percent
      | _ => rfl

theorem printed_length {p : Piece} {slot : Slot} (matching : p.Matches slot) (none : p.percents = 0) :
    (p.printed slot).length ≤ (p.standard slot).length := by
  by_cases number : p = .unsigned
  · subst number
    rw [unsigned_printed]
    exact numeral_length_mono (by decide) (Nat.mod_le _ _)
  · by_cases percent : p = .percent
    · subst percent
      cases none
    · rw [printed_standard matching ⟨number,percent⟩]

abbrev printedTexts := texts fun p slot => p.printed slot
abbrev standardTexts := texts fun p slot => p.standard slot

variable {args : Nat → Slot}

theorem texts_percents {pieces : List Piece} {i : Nat} (matching : Every (fun p slot => p.Matches slot) args i pieces) :
    (printedTexts args i pieces).count 37 = (standardTexts args i pieces).count 37+(pieces.map Piece.percents).sum := by
  induction pieces generalizing i with
  | nil => rfl
  | cons p pieces ih =>
      have first := printed_percents matching.1
      have rest := ih matching.2
      simp only [printedTexts,standardTexts,texts,List.count_append,List.map_cons,List.sum_cons] at *
      omega

theorem texts_length {pieces : List Piece} {i : Nat} (matching : Every (fun p slot => p.Matches slot) args i pieces)
    (none : (pieces.map Piece.percents).sum = 0) : (printedTexts args i pieces).length ≤ (standardTexts args i pieces).length := by
  induction pieces generalizing i with
  | nil => exact Nat.le_refl 0
  | cons p pieces ih =>
      simp only [List.map_cons,List.sum_cons] at none
      have first := printed_length matching.1 (by omega)
      have rest := ih matching.2 (by omega)
      simp only [printedTexts,standardTexts,texts,List.length_append] at *
      omega

-- Without %% the texts can only agree part by part, since no part gets longer.
theorem texts_agree {pieces : List Piece} {i : Nat} (matching : Every (fun p slot => p.Matches slot) args i pieces)
    (none : (pieces.map Piece.percents).sum = 0) (same : printedTexts args i pieces = standardTexts args i pieces) :
    Every (fun p slot => p.Agrees slot) args i pieces := by
  induction pieces generalizing i with
  | nil => trivial
  | cons p pieces ih =>
      simp only [List.map_cons,List.sum_cons] at none
      have first := printed_length matching.1 (by omega)
      have rest := texts_length matching.2 (by omega)
      have lengths := congrArg List.length same
      simp only [printedTexts,standardTexts,texts,List.length_append] at same lengths rest
      obtain ⟨now,later⟩ := List.append_inj same (by omega)
      exact ⟨(printed_iff matching.1).mp now,ih matching.2 (by omega) later⟩

theorem texts_iff {pieces : List Piece} {i : Nat} (matching : Every (fun p slot => p.Matches slot) args i pieces) :
    printedTexts args i pieces = standardTexts args i pieces ↔ Every (fun p slot => p.Agrees slot) args i pieces := by
  constructor
  · intro same
    have counts := texts_percents matching
    rw [same] at counts
    exact texts_agree matching (by omega) same
  · intro agrees
    induction pieces generalizing i with
    | nil => rfl
    | cons p pieces ih =>
        have first := (printed_iff matching.1).mpr agrees.1
        have rest := ih matching.2 agrees.2
        simp only [printedTexts,standardTexts,texts] at rest ⊢
        rw [first,rest]

-- A format whose last % has no character after it.
def LoneEnd : List UInt8 → Prop
  | [] => False
  | [c] => c = 37
  | c :: d :: rest => if c = 37 then LoneEnd rest else LoneEnd (d :: rest)

theorem vsprintf_reads_one (i : Nat) (memory : List UInt8) : 1 ≤ (kinguioVsprintf args i memory).read := by
  cases memory with
  | nil => exact Nat.le_refl 1
  | cons c rest =>
      cases rest with
      | nil =>
          unfold kinguioVsprintf
          split
          · exact Nat.le_refl 1
          split
          · exact Nat.le_succ 1
          · exact Nat.le_succ 1
      | cons d rest =>
          unfold kinguioVsprintf
          split
          · exact Nat.le_refl 1
          split
          · exact Nat.le_add_right_of_le (Nat.le_succ 1)
          · exact Nat.le_add_right 1 _

theorem vsprintf_read {text : List UInt8} (ended : 0 ∉ text) (after : List UInt8) (i : Nat) :
    (kinguioVsprintf args i (text ++ 0 :: after)).read ≤ text.length+1 ↔ ¬ LoneEnd text := by
  induction text using LoneEnd.induct generalizing i with
  | case1 =>
      rw [List.nil_append,vsprintf_zero]
      exact ⟨fun _ never => never,fun _ => Nat.le_refl 1⟩
  | case2 c =>
      have some : c ≠ 0 := fun zero => ended (List.mem_singleton.mpr zero.symm)
      rw [LoneEnd,List.singleton_append]
      by_cases percent : c = 37
      · subst percent
        rw [vsprintf_directive]
        have more : 1 ≤ (kinguioVsprintf args (nextArg i (directive 0 (args i)).2) after).read := vsprintf_reads_one _ _
        simp only [Formatted.after,List.length_singleton]
        constructor
        · intro few
          omega
        · intro never
          exact absurd trivial never
      · rw [vsprintf_plain args i ⟨some,percent⟩ (by simp),vsprintf_zero]
        simp [Formatted.after,percent]
  | case3 d rest ih =>
      have shorter : 0 ∉ rest := fun among => ended (List.mem_cons_of_mem _ (List.mem_cons_of_mem _ among))
      have later := ih shorter (nextArg i (directive d (args i)).2)
      rw [LoneEnd,if_pos rfl,← later,List.cons_append,List.cons_append,vsprintf_directive]
      simp only [Formatted.after,List.length_cons]
      omega
  | case4 c d rest other ih =>
      have shorter : 0 ∉ d :: rest := fun among => ended (List.mem_cons_of_mem _ among)
      have some : c ≠ 0 := fun zero => ended (zero ▸ List.mem_cons_self)
      have later := ih shorter i
      rw [LoneEnd,if_neg other,← later,List.cons_append,vsprintf_plain args i ⟨some,other⟩ (by simp)]
      simp only [Formatted.after,List.length_cons]
      omega

-- printk prints a format with its arguments as usual unless there is a %% or a %u of 256
-- or more, and reads behind a format only if it ends in a single %.
theorem vsprintf_iff (args : Nat → Slot) (after : List UInt8) :
    (∀ pieces, Every (fun p slot => p.Matches slot) args 0 pieces →
      ((kinguioVsprintf args 0 (formatOf pieces ++ 0 :: after)).written = standardTexts args 0 pieces ∧
        (kinguioVsprintf args 0 (formatOf pieces ++ 0 :: after)).value = (standardTexts args 0 pieces).length ↔
          Every (fun p slot => p.Agrees slot) args 0 pieces)) ∧
    ∀ text, 0 ∉ text → ((kinguioVsprintf args 0 (text ++ 0 :: after)).read ≤ text.length+1 ↔ ¬ LoneEnd text) := by
  refine ⟨?_,fun text ended => vsprintf_read ended after 0⟩
  intro pieces matching
  rw [← texts_iff matching,vsprintf_pieces]
  constructor
  · intro both
    exact both.1
  · intro same
    exact ⟨same,congrArg List.length same⟩

def sameWord (word : UInt32) : Nat → Slot := fun _ => ⟨word,none⟩

-- x=%d
def equationFormat : List Piece := [.plain 120 (by decide),.plain 61 (by decide),.decimal false]

theorem equation_printed : (kinguioVsprintf (sameWord 7) 0 (formatOf equationFormat ++ 0 :: [])).written =
    standardTexts (sameWord 7) 0 equationFormat :=
  (((vsprintf_iff (sameWord 7) []).1 equationFormat ⟨trivial,trivial,trivial,trivial⟩).mpr ⟨trivial,trivial,trivial,trivial⟩).1

-- %u of 300 is printed as 44, %% as %%, and after a single % the character behind the
-- terminator is read.
theorem printk_deviates : (kinguioVsprintf (sameWord 300) 0 (formatOf [.unsigned] ++ 0 :: [])).written ≠ standardTexts (sameWord 300) 0 [.unsigned] ∧
    (kinguioVsprintf (sameWord 0) 0 (formatOf [.percent] ++ 0 :: [])).written ≠ standardTexts (sameWord 0) 0 [.percent] ∧
    ¬ (kinguioVsprintf (sameWord 0) 0 ([37] ++ 0 :: [])).read ≤ 2 := by
  have number : Every (fun p slot => p.Matches slot) (sameWord 300) 0 [.unsigned] := ⟨trivial,trivial⟩
  have percent : Every (fun p slot => p.Matches slot) (sameWord 0) 0 [.percent] := ⟨trivial,trivial⟩
  refine ⟨?_,?_,by decide⟩
  · rw [vsprintf_pieces]
    intro same
    have small : 300 < 256 := ((texts_iff number).mp same).1
    exact absurd small (by decide)
  · rw [vsprintf_pieces]
    intro same
    exact ((texts_iff percent).mp same).1

end GramadoKernel
