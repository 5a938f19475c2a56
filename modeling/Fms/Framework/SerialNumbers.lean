import Fms.Framework.Numbers

/-! The conversions between serial numbers, MAC addresses and integers. -/

namespace Fms

namespace Utils

/-- `std::isxdigit`. -/
def isXDigit (c : Char) : Bool :=
  c.isDigit || ('a' ≤ c && c ≤ 'f') || ('A' ≤ c && c ≤ 'F')

/-- `ValidSerialNumber`: fewer than thirty hexadecimal digits. -/
def validSerialNumber (serial : String) : Bool :=
  serial.length < 30 && serial.toList.all isXDigit

/-- `padTo`: a text is filled up to the next multiple of a size above its own. -/
def padTo (str : List Char) (num : Nat) (paddingChar : Char) : List Char :=
  str ++ List.replicate (num - str.length % num) paddingChar

/-- `SerialToMAC`; the buffer is returned as a C string, which ends at its first zero. -/
def serialToMAC (serial : String) : String :=
  let serial := serial.toList
  let R :=
    if serial.length < 12 then padTo serial 12 '0'
    else if serial.length > 12 then serial.take 12
    else serial
  let at_ (i : Nat) : Char := R.getD i '\x00'
  let buf := [at_ 0, at_ 1, ':', at_ 2, at_ 3, ':', at_ 4, at_ 5, ':', at_ 6, at_ 7, ':',
    at_ 8, at_ 9, ':', at_ 10, at_ 11]
  String.ofList (buf.takeWhile (· ≠ '\x00'))

/-- One round of `MACToInt`; a character that is no digit still shifts the result. -/
def macDigit (result : UInt64) (c : Char) : UInt64 :=
  if c = ':' then result
  else
    let result := result <<< 4
    if 48 ≤ c.toNat ∧ c.toNat ≤ 57 then result + UInt64.ofNat (c.toNat - 48)
    else if 97 ≤ c.toNat ∧ c.toNat ≤ 102 then result + UInt64.ofNat (c.toNat - 87)
    else if 65 ≤ c.toNat ∧ c.toNat ≤ 70 then result + UInt64.ofNat (c.toNat - 55)
    else result

/-- `MACToInt`. -/
def macToInt (mac : String) : UInt64 := mac.toList.foldl macDigit 0

/-- `SerialNumberToInt`. -/
def serialNumberToInt (s : String) : Except StdException UInt64 := stoull 16 s

/-- The character of a digit. -/
def hexLetter (b : Nat) : Char :=
  if b < 10 then Char.ofNat (b + 48) else Char.ofNat (b - 10 + 97)

/-- The loop of `IntToSerialNumber`, which fills the buffer from its end. -/
def fillDigits : Nat → UInt64 → List Char → List Char
  | 0, _, b => b
  | i + 1, s, b => fillDigits i (s >>> 4) (hexLetter (s &&& 0x0f).toNat :: b)

/-- `IntToSerialNumber`: the lowest twelve digits. -/
def intToSerialNumber (s : UInt64) : String := String.ofList (fillDigits 12 s [])

/-- A digit of a serial number in lower case. -/
def isSerialDigit (c : Char) : Bool :=
  (48 ≤ c.toNat && c.toNat ≤ 57) || (97 ≤ c.toNat && c.toNat ≤ 102)

open Numerals

/-- The loop puts the digits of the number in front of what it has filled. -/
theorem fillDigits_eq (width : Nat) (s : UInt64) (b : List Char) :
    fillDigits width s b = (places 16 width s.toNat).map hexLetter ++ b := by
  -- A shift by four bits is a division by the base, and the mask is the remainder.
  induction width generalizing s b with
  | zero => rfl
  | succ width ih =>
    have digit : (s &&& 0x0f).toNat = s.toNat % 16 := by
      simpa using Nat.and_two_pow_sub_one_eq_mod s.toNat 4
    have shifted : (s >>> 4).toNat = s.toNat / 16 := by
      simp [Nat.shiftRight_eq_div_pow]
    rw [fillDigits, ih, digit, shifted, places, List.map_append, List.append_assoc]
    rfl

/-- The serial number of an integer is made of the characters of its digits. -/
theorem intToSerialNumber_eq (s : UInt64) :
    intToSerialNumber s = String.ofList ((places 16 12 s.toNat).map hexLetter) := by
  rw [intToSerialNumber, fillDigits_eq, List.append_nil]

/-- The character of a digit stands in one of two ranges. -/
theorem toNat_hexLetter {digit : Nat} (small : digit < 16) :
    (hexLetter digit).toNat = if digit < 10 then digit + 48 else digit + 87 := by
  -- There are sixteen digits to look at.
  have each : ∀ digit : Fin 16,
      (hexLetter digit.val).toNat = if digit.val < 10 then digit.val + 48 else digit.val + 87 := by decide
  exact each ⟨digit, small⟩

/-- The character of a digit has its value. -/
theorem digitOf_hexLetter {digit : Nat} (small : digit < 16) :
    digitOf 16 (hexLetter digit) = some digit := by
  have each : ∀ digit : Fin 16, digitOf 16 (hexLetter digit.val) = some digit.val := by decide
  exact each ⟨digit, small⟩

/-- The character of a digit is no mark between digits, and no end of a text. -/
theorem hexLetter_ne {digit : Nat} (small : digit < 16) :
    hexLetter digit ≠ ':' ∧ hexLetter digit ≠ '\x00' := by
  have each : ∀ digit : Fin 16, hexLetter digit.val ≠ ':' ∧ hexLetter digit.val ≠ '\x00' := by decide
  exact each ⟨digit, small⟩

/-- A character of a serial number is the character of its value. -/
theorem hexLetter_digitOf {c : Char} (digit : isSerialDigit c = true) :
    ∃ value, digitOf 16 c = some value ∧ hexLetter value = c := by
  -- A digit has a decimal letter below ten, and one of six others from there on.
  simp only [isSerialDigit, Bool.or_eq_true, Bool.and_eq_true, decide_eq_true_eq] at digit
  rcases digit with decimal | letter
  · -- The ten digits come first.
    refine ⟨c.toNat - 48, ?_, ?_⟩
    · rw [digitOf, if_pos decimal, Option.filter_some, if_pos (by simp; omega)]
    · rw [hexLetter, if_pos (by omega), Nat.sub_add_cancel decimal.1, Char.ofNat_toNat]
  · refine ⟨c.toNat - 87, ?_, ?_⟩
    · rw [digitOf, if_neg (by omega), if_pos (by omega), Option.filter_some, if_pos (by simp; omega)]
    · have same : c.toNat - 87 - 10 + 97 = c.toNat := by omega
      rw [hexLetter, if_neg (by omega), same, Char.ofNat_toNat]

/-- The characters of digits are read as the digits. -/
theorem digitsOf_hexLetters {digits : List Nat} (all : Digits 16 digits) :
    (digits.map hexLetter).mapM (digitOf 16) = some digits := by
  -- Every digit is read back from its letter.
  induction digits with
  | nil => rfl
  | cons digit rest ih =>
    have first := digitOf_hexLetter (all digit List.mem_cons_self)
    have others := ih fun other member => all other (List.mem_cons_of_mem digit member)
    simp [first, others]

/-- The characters of a serial number are those of its digits. -/
theorem hexLetters_digitsOf {text : List Char} (all : ∀ c ∈ text, isSerialDigit c = true) :
    ∃ digits, text.mapM (digitOf 16) = some digits ∧ digits.map hexLetter = text := by
  -- Every character is one digit.
  induction text with
  | nil => exact ⟨[], rfl, rfl⟩
  | cons c rest ih =>
    obtain ⟨value, first, letter⟩ := hexLetter_digitOf (all c List.mem_cons_self)
    obtain ⟨digits, others, letters⟩ := ih fun other member => all other (List.mem_cons_of_mem c member)
    exact ⟨value :: digits, by simp [first, others], by simp [letter, letters]⟩

/-- A round over the character of a digit pushes the digit behind the result. -/
theorem toNat_macDigit (result : UInt64) {digit : Nat} (small : digit < 16) :
    (macDigit result (hexLetter digit)).toNat =
      (result.toNat * 16 + digit) % 18446744073709551616 := by
  -- The branches recognise the two ranges of the digits' characters.
  have value := toNat_hexLetter small
  have pushed : macDigit result (hexLetter digit) = (result <<< 4) + UInt64.ofNat digit := by
    unfold macDigit
    rw [if_neg (hexLetter_ne small).1]
    by_cases decimal : digit < 10
    · rw [if_pos decimal] at value
      rw [if_pos (by omega), value, Nat.add_sub_cancel]
    · rw [if_neg decimal] at value
      rw [if_neg (by omega), if_pos (by omega), value, Nat.add_sub_cancel]
  have same : (UInt64.ofNat digit).toNat = digit := UInt64.toNat_ofNat_of_lt' (by
    simp only [UInt64.size]
    omega)
  rw [pushed, UInt64.toNat_add, same, UInt64.toNat_shiftLeft]
  simp [Nat.shiftLeft_eq, Nat.add_mod]

/-- The characters of digits are accumulated to the number they write, if it fits. -/
theorem foldl_macDigit {digits : List Nat} (all : Digits 16 digits) (result : UInt64) :
    ((digits.map hexLetter).foldl macDigit result).toNat =
      readFrom 16 result.toNat digits % 18446744073709551616 := by
  -- Every round wraps around at 2^64, as the whole sum would.
  have rounds : ((digits.map hexLetter).foldl macDigit result).toNat =
      digits.foldl (fun number digit => (number * 16 + digit) % 18446744073709551616)
        result.toNat := by
    induction digits generalizing result with
    | nil => rfl
    | cons digit rest ih =>
      have small : digit < 16 := all digit List.mem_cons_self
      rw [List.map_cons, List.foldl_cons, List.foldl_cons, ← toNat_macDigit result small]
      exact ih (fun other member => all other (List.mem_cons_of_mem digit member)) _
  have wrapped := @readFrom_mod 16 18446744073709551616 result.toNat digits
  rw [Nat.mod_eq_of_lt result.toNat_lt] at wrapped
  rw [rounds, wrapped]

/-- The colons of an address do not change what is accumulated. -/
theorem macToInt_serialToMAC {text : List Char} (twelve : text.length = 12)
    (ended : ∀ c ∈ text, c ≠ '\x00') :
    macToInt (serialToMAC (String.ofList text)) = text.foldl macDigit 0 := by
  match text, twelve with
  | [a, b, c, d, e, f, g, h, i, j, k, l], _ =>
    -- No character ends the buffer early, and a round over a colon is skipped.
    simp only [List.mem_cons, List.not_mem_nil, or_false, forall_eq_or_imp, forall_eq] at ended
    have colon : ∀ result : UInt64, macDigit result ':' = result := fun result => if_pos rfl
    obtain ⟨ha, hb, hc, hd, he, hf, hg, hh, hi, hj, hk, hl⟩ := ended
    simp [macToInt, serialToMAC, List.takeWhile, ha, hb, hc, hd, he, hf, hg, hh, hi, hj, hk, hl, colon]

/--
The conversions are inverse: an integer below 2^48 is read back from its serial number and from the address
made of it, and a serial number of twelve digits in lower case is written back from its integer.
-/
theorem serialNumbers_inverse :
    (∀ n : UInt64, n < 281474976710656 →
      serialNumberToInt (intToSerialNumber n) = .ok n ∧
        macToInt (serialToMAC (intToSerialNumber n)) = n) ∧
    ∀ s : String, s.toList.length = 12 → (∀ c ∈ s.toList, isSerialDigit c = true) →
      ∃ n, serialNumberToInt s = .ok n ∧ intToSerialNumber n = s := by
  -- Both directions go over the twelve digits of the number.
  refine ⟨fun n small => ?_, fun s twelve digits => ?_⟩
  · -- The twelve digits of a number below 2^48 write the number.
    have all : Digits 16 (places 16 12 n.toNat) := digits_places (by decide) 12 n.toNat
    have back : read 16 (places 16 12 n.toNat) = n.toNat :=
      read_places (by simpa [UInt64.lt_iff_toNat_lt] using small)
    have whole := digitsOf_hexLetters all
    have bound := n.toNat_lt
    rw [intToSerialNumber_eq]
    refine ⟨?_, ?_⟩
    · have written : digitsOf 16 (String.ofList ((places 16 12 n.toNat).map hexLetter)) =
          some (places 16 12 n.toNat) := by
        rw [digitsOf, String.toList_ofList, whole]
      have nonempty : places 16 12 n.toNat ≠ [] := List.ne_nil_of_length_eq_add_one (length_places 12 _)
      rw [serialNumberToInt, stoull_digits written nonempty, back, if_neg (by omega), UInt64.ofNat_toNat]
    · rw [macToInt_serialToMAC (by simp)]
      · apply UInt64.toNat_inj.mp
        rw [foldl_macDigit all]
        have zero : readFrom 16 (0 : UInt64).toNat (places 16 12 n.toNat) = n.toNat := back
        rw [zero, Nat.mod_eq_of_lt bound]
      · intro c member
        obtain ⟨digit, place, rfl⟩ := List.mem_map.mp member
        exact (hexLetter_ne (all digit place)).2
  · -- The number of twelve digits is below 2^48, and has them as its lowest places.
    obtain ⟨values, whole, letters⟩ := hexLetters_digitsOf digits
    have all : Digits 16 values := digits_digitsOf whole
    have length : values.length = 12 := by rw [length_digitsOf whole, twelve]
    have small : read 16 values < 281474976710656 := by
      have bound := read_lt all
      rw [length] at bound
      exact bound
    have nonempty : values ≠ [] := List.ne_nil_of_length_eq_add_one length
    refine ⟨UInt64.ofNat (read 16 values), ?_, ?_⟩
    · rw [serialNumberToInt, stoull_digits whole nonempty, if_neg (by omega)]
    · have value : (UInt64.ofNat (read 16 values)).toNat = read 16 values :=
        UInt64.toNat_ofNat_of_lt' (by simp only [UInt64.size]; omega)
      have places : places 16 12 (read 16 values) = values := by rw [← length, places_read all]
      rw [intToSerialNumber_eq, value, places, letters, String.ofList_toList]

/-- A serial number that ends in a letter, and the integer it is. -/
theorem serialNumbers_inverse_device :
    (serialNumberToInt (intToSerialNumber 0x24f5a207a13d) = .ok 0x24f5a207a13d ∧
      macToInt (serialToMAC (intToSerialNumber 0x24f5a207a13d)) = 0x24f5a207a13d) ∧
    ∃ n, serialNumberToInt "24f5a207a13d" = .ok n ∧ intToSerialNumber n = "24f5a207a13d" :=
  ⟨serialNumbers_inverse.1 0x24f5a207a13d (by decide),
    serialNumbers_inverse.2 "24f5a207a13d" rfl (List.all_eq_true.mp rfl)⟩

end Utils

end Fms
