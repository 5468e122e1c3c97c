import GramadoKernel.Library.Checksum
import GramadoKernel.Network

namespace GramadoKernel

theorem toNetByteOrder16_toNat (v : UInt16) : (toNetByteOrder16 v).toNat = 256*(v.toNat % 256)+v.toNat/256 := by
  have high : v.toNat*256 % 65536 = 2^8*(v.toNat % 256) := by omega
  have low : v.toNat/256 < 2^8 := by
    have bound := v.toNat_lt
    omega
  unfold toNetByteOrder16
  simp only [UInt16.toNat_or,UInt16.toNat_shiftRight,UInt16.toNat_shiftLeft,UInt16.reduceToNat,Nat.reduceMod,Nat.shiftRight_eq_div_pow,
    Nat.shiftLeft_eq,Nat.reducePow]
  rw [high,Nat.or_comm,← Nat.two_pow_add_eq_or_of_lt low]

theorem toNetByteOrder16_twice (v : UInt16) : toNetByteOrder16 (toNetByteOrder16 v) = v := by
  apply UInt16.toNat_inj.mp
  have bound := v.toNat_lt
  rw [toNetByteOrder16_toNat,toNetByteOrder16_toNat]
  omega

theorem addWord_toNat (acc : UInt32) (low high : UInt8) (fits : acc.toNat+(low.toNat+256*high.toNat) < 4294967296) :
    (acc+(littleEndian16 low high).toUInt32).toNat = acc.toNat+(low.toNat+256*high.toNat) := by
  rw [UInt32.toNat_add,UInt16.toNat_toUInt32,littleEndian16_toNat]
  exact Nat.mod_eq_of_lt fits

theorem addWords_toNat {acc : UInt32} {phdr : List UInt8} (even : phdr.length % 2 = 0) (fits : acc.toNat+Checksum.swapped phdr < 4294967296) :
    (addWords acc phdr).toNat = acc.toNat+Checksum.swapped phdr := by
  induction acc,phdr using addWords.induct with
  | case1 acc low high rest ih =>
      unfold Checksum.swapped at fits
      have word := addWord_toNat acc low high (by omega)
      simp only [List.length_cons] at even
      unfold addWords Checksum.swapped
      rw [ih (by omega) (by omega),word]
      omega
  | case2 phdr acc short =>
      cases phdr with
      | nil => rfl
      | cons low rest =>
          cases rest with
          | nil => cases even
          | cons high rest => exact absurd rfl (short low high rest)

theorem addData_toNat {acc : UInt32} {data : List UInt8} (fits : acc.toNat+Checksum.swapped data < 4294967296) :
    (addData acc data).toNat = acc.toNat+Checksum.swapped data := by
  induction acc,data using addData.induct with
  | case1 acc low high rest ih =>
      unfold Checksum.swapped at fits
      have word := addWord_toNat acc low high (by omega)
      unfold addData Checksum.swapped
      rw [ih (by omega),word]
      omega
  | case2 acc last =>
      unfold addData
      rw [UInt32.toNat_add,UInt8.toNat_toUInt32]
      exact Nat.mod_eq_of_lt fits
  | case3 acc => rfl

-- What net_checksum has accumulated before its two additions, and after them.
def accumulated (phdr : Option (List UInt8)) (data : List UInt8) : UInt32 := addData (phdr.elim 0 (addWords 0)) data

def foldOnce (checksum : UInt32) : UInt32 := (checksum &&& (0xFFFF : UInt32))+(checksum >>> (16 : UInt32))
def foldTwice (checksum : UInt32) : UInt32 := foldOnce checksum+(foldOnce checksum >>> (16 : UInt32))

theorem netChecksum_folded (phdr : Option (List UInt8)) (data : List UInt8) :
    netChecksum phdr data = toNetByteOrder16 (~~~ foldTwice (accumulated phdr data)).toUInt16 := by
  cases phdr with
  | none => rfl
  | some phdr => rfl

-- The same two additions on numbers.
def folded (sum : Nat) : Nat := sum % 65536+sum/65536+(sum % 65536+sum/65536)/65536

theorem folded_mod (sum : Nat) (small : sum < 4294967296) (positive : 0 < sum) :
    folded sum % 65536 % 65535 = sum % 65535 ∧ 0 < folded sum % 65536 := by
  obtain ⟨high,low,below,split⟩ : ∃ high low, low < 65536 ∧ sum = 65536*high+low := ⟨sum/65536,sum % 65536,by omega,by omega⟩
  have once : sum % 65536+sum/65536 = low+high := by omega
  have residue : sum % 65535 = (low+high) % 65535 := by
    rw [split,show 65536*high+low = 65535*high+(low+high) by omega,Nat.mul_add_mod]
  unfold folded
  rw [once,residue]
  by_cases carry : low+high < 65536
  · rw [Nat.div_eq_of_lt carry,Nat.add_zero,Nat.mod_eq_of_lt carry]
    exact ⟨rfl,by omega⟩
  · have one : (low+high)/65536 = 1 := by omega
    have rest : (low+high+1) % 65536 = low+high-65535 := by omega
    rw [one,rest]
    exact ⟨by omega,by omega⟩

theorem foldOnce_toNat (checksum : UInt32) : (foldOnce checksum).toNat = checksum.toNat % 65536+checksum.toNat/65536 := by
  have bound := checksum.toNat_lt
  have low : checksum.toNat &&& 65535 = checksum.toNat % 65536 := Nat.and_two_pow_sub_one_eq_mod _ 16
  simp only [foldOnce,UInt32.toNat_add,UInt32.toNat_and,UInt32.toNat_shiftRight,UInt32.reduceToNat,Nat.reduceMod,
    Nat.shiftRight_eq_div_pow,Nat.reducePow,low]
  omega

theorem foldTwice_toNat (checksum : UInt32) : (foldTwice checksum).toNat = folded checksum.toNat := by
  have bound := checksum.toNat_lt
  simp only [foldTwice,UInt32.toNat_add,UInt32.toNat_shiftRight,UInt32.reduceToNat,Nat.reduceMod,Nat.shiftRight_eq_div_pow,Nat.reducePow,
    foldOnce_toNat]
  unfold folded
  omega

-- The second addition takes up the carry of the first into sixteen bits that have room
-- for it, so the two together are one addition in one's complement.
theorem foldTwice_low (checksum : UInt32) :
    (foldOnce checksum).toNat % 65536+(foldOnce checksum).toNat/65536 < 65536 ∧
      (foldTwice checksum).toUInt16.toNat = Checksum.add (checksum.toNat % 65536) (checksum.toNat/65536) := by
  have bound := checksum.toNat_lt
  rw [UInt32.toNat_toUInt16,foldTwice_toNat,foldOnce_toNat]
  unfold folded Checksum.add
  omega

theorem netChecksum_toNat (phdr : Option (List UInt8)) (data : List UInt8) (even : (phdr.getD []).length % 2 = 0)
    (fits : Checksum.swapped (phdr.getD [])+Checksum.swapped data < 4294967296) :
    (toNetByteOrder16 (netChecksum phdr data)).toNat = 65535-folded (Checksum.swapped (phdr.getD [])+Checksum.swapped data) % 65536 := by
  have header : (phdr.elim 0 (addWords 0)).toNat = Checksum.swapped (phdr.getD []) := by
    cases phdr with
    | none => rfl
    | some bytes =>
        have room : (0 : UInt32).toNat+Checksum.swapped bytes < 4294967296 := by
          rw [UInt32.toNat_zero,Nat.zero_add]
          exact Nat.lt_of_le_of_lt (Nat.le_add_right _ _) fits
        exact (addWords_toNat even room).trans (Nat.zero_add _)
  have sum : (accumulated phdr data).toNat = Checksum.swapped (phdr.getD [])+Checksum.swapped data := by
    rw [accumulated,addData_toNat (by rw [header]; exact fits),header]
  have bound := (foldTwice (accumulated phdr data)).toNat_lt
  rw [netChecksum_folded,toNetByteOrder16_twice,← sum,← foldTwice_toNat]
  simp only [UInt32.toNat_toUInt16,UInt32.toNat_not,UInt32.size]
  omega

-- Where nothing is missing the checksum is zero.
theorem netChecksum_whole {data : List UInt8} (short : data.length ≤ 65535) (whole : Checksum.swapped data % 65535 = 0)
    (some : 0 < Checksum.swapped data) : netChecksum none data = 0 := by
  have bound := Checksum.swapped_le data
  have value := netChecksum_toNat none data rfl (by simp only [Option.getD_none,Checksum.swapped]; omega)
  simp only [Option.getD_none,Checksum.swapped,Nat.zero_add] at value
  obtain ⟨residue,positive⟩ := folded_mod (Checksum.swapped data) (by omega) some
  have zero : toNetByteOrder16 (netChecksum none data) = 0 := by
    apply UInt16.toNat_inj.mp
    rw [value,UInt16.toNat_zero]
    omega
  rw [← toNetByteOrder16_twice (netChecksum none data),zero]
  rfl

theorem storedWord_swapped (v : UInt16) : Checksum.swapped (storedWord v) = v.toNat := by
  change v.toUInt8.toNat+256*(v >>> 8).toUInt8.toNat+0 = v.toNat
  rw [Nat.add_zero,← littleEndian16_toNat,littleEndian16_split]

-- A word of the data adds what it is to the sum, wherever it stands.
theorem field_swapped {front : List UInt8} (aligned : front.length % 2 = 0) (v : UInt16) (back : List UInt8) :
    Checksum.swapped (front ++ storedWord v ++ back) = Checksum.swapped (front ++ storedWord 0 ++ back)+v.toNat := by
  have even : ∀ v, (front ++ storedWord v).length % 2 = 0 := fun v => by simpa [storedWord] using aligned
  rw [Checksum.swapped_append (even v),Checksum.swapped_append (even 0),Checksum.swapped_append aligned,Checksum.swapped_append aligned,
    storedWord_swapped,storedWord_swapped,UInt16.toNat_zero]
  omega

-- With the checksum in its field the words of header and data are together a positive
-- multiple of 65535: the checksum is what is missing to one.
theorem checksummed_whole {phdr : Option (List UInt8)} {front back : List UInt8} (header : (phdr.getD []).length % 2 = 0)
    (aligned : front.length % 2 = 0) (short : (phdr.getD []).length+(front ++ storedWord 0 ++ back).length ≤ 65535) {sum : UInt16}
    (stored : sum = toNetByteOrder16 (netChecksum phdr (front ++ storedWord 0 ++ back))) :
    Checksum.swapped (phdr.getD [] ++ (front ++ storedWord sum ++ back)) % 65535 = 0 ∧
      0 < Checksum.swapped (phdr.getD [] ++ (front ++ storedWord sum ++ back)) := by
  have first := Checksum.swapped_le (phdr.getD [])
  have second := Checksum.swapped_le (front ++ storedWord 0 ++ back)
  have value := netChecksum_toNat phdr (front ++ storedWord 0 ++ back) header (by omega)
  have low := Nat.mod_lt (folded (Checksum.swapped (phdr.getD [])+Checksum.swapped (front ++ storedWord 0 ++ back))) (show 0 < 65536 by decide)
  rw [Checksum.swapped_append header,field_swapped aligned,stored,value]
  rcases Nat.eq_zero_or_pos (Checksum.swapped (phdr.getD [])+Checksum.swapped (front ++ storedWord 0 ++ back)) with none | positive
  · rw [none]
    simp only [folded]
    omega
  · obtain ⟨residue,_⟩ := folded_mod _ (by omega) positive
    omega

-- Stored in its field the checksum makes a pseudo header and the data sum to all ones,
-- and the two additions leave no carry over, whatever was accumulated.
theorem net_checksum_completes {phdr : Option (List UInt8)} {front back : List UInt8} (header : (phdr.getD []).length % 2 = 0)
    (aligned : front.length % 2 = 0) (short : (phdr.getD []).length+(front ++ storedWord 0 ++ back).length ≤ 65535) :
    Checksum.sum (Checksum.words (phdr.getD [] ++
      (front ++ storedWord (toNetByteOrder16 (netChecksum phdr (front ++ storedWord 0 ++ back))) ++ back))) = 65535 ∧
    ∀ checksum : UInt32, (foldOnce checksum).toNat % 65536+(foldOnce checksum).toNat/65536 < 65536 ∧
      (foldTwice checksum).toUInt16.toNat = Checksum.add (checksum.toNat % 65536) (checksum.toNat/65536) := by
  obtain ⟨whole,positive⟩ := checksummed_whole header aligned short rfl
  exact ⟨Checksum.sum_whole whole positive,foldTwice_low⟩

-- The checksum of a datagram with an odd number of bytes, under a pseudo header.
theorem net_checksum_completes_odd :
    Checksum.sum (Checksum.words ([192,168,1,6,0,17] ++
      ([0,68,0,67] ++ storedWord (toNetByteOrder16 (netChecksum (some [192,168,1,6,0,17]) ([0,68,0,67] ++ storedWord 0 ++ [7,8,9]))) ++ [7,8,9]))) = 65535 ∧
    ∀ checksum : UInt32, (foldOnce checksum).toNat % 65536+(foldOnce checksum).toNat/65536 < 65536 ∧
      (foldTwice checksum).toUInt16.toNat = Checksum.add (checksum.toNat % 65536) (checksum.toNat/65536) :=
  @net_checksum_completes (some [192,168,1,6,0,17]) [0,68,0,67] [7,8,9] (by decide) (by decide) (by decide)

end GramadoKernel
