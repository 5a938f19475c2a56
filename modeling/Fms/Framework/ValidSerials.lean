import Fms.Framework.SerialNumbers

/-! Validated serial numbers, and what the conversions make of them. -/

namespace Fms

namespace Utils

/-- `ValidSerialNumbers`. -/
def validSerialNumbers (numbers : List String) : Bool := numbers.all validSerialNumber

/-- `SerialNumberMatch`; no result is a shift that leaves the integers undefined. -/
def serialNumberMatch (S1 S2 : String) (bits : Int) : Except StdException (Option Bool) := do
  let S1_i ← serialNumberToInt S1
  let S2_i ← serialNumberToInt S2
  if 0 ≤ bits ∧ bits < 64 then
    return some (S1_i >>> UInt64.ofInt bits == S2_i >>> UInt64.ofInt bits)
  else return none

/-- The number that the digits of a serial number write. -/
def hexValue (serial : String) : Nat := Numerals.read 16 ((digitsOf 16 serial).getD [])

/-- A serial number is converted to its value. -/
def Converts (serial : String) : Prop :=
  ∃ value, serialNumberToInt serial = .ok value ∧ value.toNat = hexValue serial

/-- A serial number has digits, and a value of at most 64 bits. -/
def Convertible (serial : String) : Prop := serial ≠ "" ∧ hexValue serial < 18446744073709551616

/-- Two validated serial numbers are converted to their values, so that comparing them does not throw. -/
def SerialsConvert (S1 S2 : String) (bits : Int) : Prop :=
  validSerialNumber S1 = true → validSerialNumber S2 = true →
    Converts S1 ∧ Converts S2 ∧ ∃ result, serialNumberMatch S1 S2 bits = .ok result

/-- A hexadecimal digit has a value. -/
theorem digitOf_isXDigit {c : Char} (digit : isXDigit c = true) : ∃ value, digitOf 16 c = some value := by
  -- The three ranges are those of the values below sixteen.
  have ranges :
      (48 ≤ c.toNat ∧ c.toNat ≤ 57) ∨ (97 ≤ c.toNat ∧ c.toNat ≤ 102) ∨ (65 ≤ c.toNat ∧ c.toNat ≤ 70) := by
    simpa [isXDigit, Char.isDigit, Char.le_def, UInt32.le_iff_toNat_le, or_assoc] using digit
  unfold digitOf
  rcases ranges with decimal | lower | upper
  · exact ⟨c.toNat - 48, by rw [if_pos decimal, Option.filter_some, if_pos (by simp; omega)]⟩
  · refine ⟨c.toNat - 87, ?_⟩
    rw [if_neg (by omega), if_pos (by omega), Option.filter_some, if_pos (by simp; omega)]
  · refine ⟨c.toNat - 55, ?_⟩
    rw [if_neg (by omega), if_neg (by omega), if_pos (by omega), Option.filter_some, if_pos (by simp; omega)]

/-- A text of hexadecimal digits has them. -/
theorem mapM_digitOf {text : List Char} (all : text.all isXDigit = true) :
    ∃ digits, text.mapM (digitOf 16) = some digits := by
  -- By the digits, each of which has a value.
  induction text with
  | nil => exact ⟨[], rfl⟩
  | cons c rest ih =>
    rw [List.all_cons, Bool.and_eq_true] at all
    obtain ⟨digit, value⟩ := digitOf_isXDigit all.1
    obtain ⟨digits, others⟩ := ih all.2
    exact ⟨digit :: digits, by simp [value, others]⟩

/-- The digits of a validated serial number. -/
theorem digitsOf_valid {serial : String} (valid : validSerialNumber serial = true) :
    ∃ digits, digitsOf 16 serial = some digits := by
  rw [validSerialNumber, Bool.and_eq_true] at valid
  exact mapM_digitOf valid.2

/-- A validated serial number that is not empty is converted to its value, unless that has more than 64 bits. -/
theorem serialNumberToInt_valid {serial : String} (valid : validSerialNumber serial = true)
    (nonempty : serial ≠ "") :
    serialNumberToInt serial =
      if 18446744073709551616 ≤ hexValue serial then .error .outOfRange
      else .ok (UInt64.ofNat (hexValue serial)) := by
  -- All of the text are digits.
  obtain ⟨digits, whole⟩ := digitsOf_valid valid
  have some_ : digits ≠ [] := by
    rintro rfl
    have length := length_digitsOf whole
    exact nonempty (String.toList_eq_nil_iff.mp (List.length_eq_zero_iff.mp length.symm))
  have value : hexValue serial = Numerals.read 16 digits := by rw [hexValue, whole, Option.getD_some]
  rw [serialNumberToInt, stoull_digits whole some_, value]

/-- A validated serial number is converted to its value exactly if it has digits and a value of 64 bits. -/
theorem converts_iff {serial : String} (valid : validSerialNumber serial = true) :
    Converts serial ↔ Convertible serial := by
  unfold Converts Convertible
  by_cases empty : serial = ""
  · -- There is no number to read.
    subst empty
    have refused : serialNumberToInt "" = .error .invalidArgument := by rfl
    simp [refused]
  · rw [serialNumberToInt_valid valid empty]
    by_cases large : 18446744073709551616 ≤ hexValue serial
    · simp [large, Nat.not_lt.mpr large]
    · rw [if_neg large]
      have exact_ : (UInt64.ofNat (hexValue serial)).toNat = hexValue serial :=
        UInt64.toNat_ofNat_of_lt' (Nat.not_le.mp large)
      simp [empty, exact_, Nat.not_le.mp large]

/-- Two validated serial numbers are converted and compared exactly if both have digits and values of 64 bits. -/
theorem serialsConvert_iff (S1 S2 : String) (bits : Int) :
    SerialsConvert S1 S2 bits ↔
      (validSerialNumber S1 = true → validSerialNumber S2 = true → Convertible S1 ∧ Convertible S2) := by
  refine forall_congr' fun first => forall_congr' fun second => ?_
  rw [converts_iff first, converts_iff second]
  constructor
  · intro all
    exact ⟨all.1, all.2.1⟩
  · intro both
    refine ⟨both.1, both.2, ?_⟩
    -- Neither conversion throws, and nothing else does.
    obtain ⟨left, one, -⟩ := (converts_iff first).mpr both.1
    obtain ⟨right, other, -⟩ := (converts_iff second).mpr both.2
    simp only [serialNumberMatch, one, other, Bind.bind, Except.bind]
    split <;> exact ⟨_, rfl⟩

/-- The empty serial number and one of seventeen digits are validated, and their conversions throw. -/
theorem validated_serials_throw :
    ¬ SerialsConvert "" "" 0 ∧ ¬ SerialsConvert "10000000000000000" "10000000000000000" 0 := by
  constructor
  · intro convert
    -- There is no number in the empty text.
    obtain ⟨⟨value, outcome, _⟩, _⟩ := convert (by decide) (by decide)
    cases outcome
  · intro convert
    obtain ⟨⟨value, outcome, _⟩, _⟩ := convert (by decide) (by decide)
    have thrown : serialNumberToInt "10000000000000000" = .error .outOfRange := by decide
    cases thrown.symm.trans outcome

end Utils

end Fms
