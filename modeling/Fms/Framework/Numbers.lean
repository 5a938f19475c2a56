import Fms.Poco.Text
import Fms.Relation.Numerals

/-! `std::stoull` and `std::strtol`, which read the numbers of requests, serial numbers and address ranges. -/

namespace Fms

/-- What a conversion of the C++ library throws; none of these is a `Poco::Exception`. -/
inductive StdException where
  /-- `std::invalid_argument`: there is no number to read. -/
  | invalidArgument
  /-- `std::out_of_range`: the number does not fit. -/
  | outOfRange
  deriving DecidableEq, Repr

/-- The value of a character as a digit to a base: the ten digits, then the letters of either case. -/
def digitOf (base : Nat) (c : Char) : Option Nat :=
  let value :=
    if 48 ≤ c.toNat ∧ c.toNat ≤ 57 then some (c.toNat - 48)
    else if 97 ≤ c.toNat ∧ c.toNat ≤ 122 then some (c.toNat - 87)
    else if 65 ≤ c.toNat ∧ c.toNat ≤ 90 then some (c.toNat - 55)
    else none
  value.filter (· < base)

namespace Stoull

/-- The values of the digits a text starts with; what stands behind them is not read. -/
def leadingDigits (base : Nat) : List Char → List Nat
  | [] => []
  | c :: rest =>
    match digitOf base c with
    | some digit => digit :: leadingDigits base rest
    | none => []

/-- Whether a text starts with a minus, and what follows its sign. -/
def signed : List Char → Bool × List Char
  | '-' :: rest => (true, rest)
  | '+' :: rest => (false, rest)
  | text => (false, text)

/-- What follows the mark `0x`, which a hexadecimal number may start with. -/
def behindMark (base : Nat) (text : List Char) : List Char :=
  match text with
  | '0' :: mark :: rest =>
    -- A mark without a digit behind it is the number zero and some text that is not read.
    if base = 16 ∧ (mark = 'x' ∨ mark = 'X') ∧ leadingDigits base rest ≠ [] then rest else text
  | _ => text

end Stoull

/-- `std::stoull` to the base 10 or 16; a minus wraps the number around. -/
def stoull (base : Nat) (text : String) : Except StdException UInt64 :=
  let (negative, number) := Stoull.signed (text.toList.dropWhile isTrimmed)
  let digits := Stoull.leadingDigits base (Stoull.behindMark base number)
  if digits = [] then .error .invalidArgument
  else if 18446744073709551616 ≤ Numerals.read base digits then .error .outOfRange
  else
    let value := UInt64.ofNat (Numerals.read base digits)
    .ok (if negative then 0 - value else value)

/-- `std::strtol` to the base 10, which stops at the ends of a `long`; none where there is no number to read. -/
def strtol (text : String) : Option Int :=
  let (negative, number) := Stoull.signed (text.toList.dropWhile isTrimmed)
  let digits := Stoull.leadingDigits 10 number
  if digits = [] then none
  else
    let value : Int := Numerals.read 10 digits
    some (if negative then max (-9223372036854775808) (-value) else min 9223372036854775807 value)

/-- `std::atoi`, which is `strtol` cut to an `int`, and zero without a number. -/
def atoi (text : String) : Int := ((strtol text).getD 0).bmod 4294967296

/-- The digits of a text, where it has no other characters. -/
def digitsOf (base : Nat) (text : String) : Option (List Nat) :=
  text.toList.mapM (digitOf base)

variable {base : Nat}

/-- A digit is one of the base. -/
theorem digitOf_lt {c : Char} {digit : Nat} (value : digitOf base c = some digit) : digit < base := by
  simpa using (Option.filter_eq_some_iff.mp value).2

/-- The digits of a text are that of its first character and those of the others. -/
theorem digitsOf_cons {c : Char} {rest : List Char} {digits : List Nat}
    (whole : (c :: rest).mapM (digitOf base) = some digits) :
    ∃ digit others, digitOf base c = some digit ∧ rest.mapM (digitOf base) = some others ∧
      digits = digit :: others := by
  -- The first character has to be a digit before the others are looked at.
  simp only [List.mapM_cons, Option.bind_eq_bind, Option.bind_eq_some_iff, Option.pure_def,
    Option.some.injEq] at whole
  obtain ⟨digit, value, others, tail, same⟩ := whole
  exact ⟨digit, others, value, tail, same.symm⟩

/-- The digits of a text are digits of the base. -/
theorem digits_digitsOf {text : List Char} {digits : List Nat}
    (whole : text.mapM (digitOf base) = some digits) : Numerals.Digits base digits := by
  -- By the characters of the text, of which each gives one digit.
  induction text generalizing digits with
  | nil =>
    obtain rfl : [] = digits := by simpa using whole
    simp [Numerals.Digits]
  | cons c rest ih =>
    obtain ⟨first, others, value, tail, rfl⟩ := digitsOf_cons whole
    intro digit member
    rcases List.mem_cons.mp member with rfl | later
    · exact digitOf_lt value
    · exact ih tail digit later

/-- There is one digit a character. -/
theorem length_digitsOf {text : List Char} {digits : List Nat}
    (whole : text.mapM (digitOf base) = some digits) : digits.length = text.length := by
  -- By the characters of the text again.
  induction text generalizing digits with
  | nil =>
    obtain rfl : [] = digits := by simpa using whole
    rfl
  | cons c rest ih =>
    obtain ⟨first, others, value, tail, rfl⟩ := digitsOf_cons whole
    simp [ih tail]

namespace Stoull

/-- A text of digits is read to its end. -/
theorem leadingDigits_digits {text : List Char} {digits : List Nat}
    (whole : text.mapM (digitOf base) = some digits) : leadingDigits base text = digits := by
  -- Every character is a digit, so the reader never stops before the end.
  induction text generalizing digits with
  | nil =>
    obtain rfl : [] = digits := by simpa using whole
    rfl
  | cons c rest ih =>
    obtain ⟨first, others, value, tail, rfl⟩ := digitsOf_cons whole
    rw [leadingDigits, value, ih tail]

/-- A digit is no white space. -/
theorem isTrimmed_digit {c : Char} {digit : Nat} (value : digitOf base c = some digit) :
    isTrimmed c = false := by
  -- Neither the space nor the control characters have a value.
  cases trimmed : isTrimmed c with
  | false => rfl
  | true =>
    have low : c.toNat < 48 := by
      simp only [isTrimmed, Bool.or_eq_true, decide_eq_true_eq, Bool.and_eq_true] at trimmed
      rcases trimmed with rfl | range
      · decide
      · omega
    have none : digitOf base c = none := by
      unfold digitOf
      rw [if_neg (by omega), if_neg (by omega), if_neg (by omega)]
      rfl
    simp [none] at value

/-- A text that starts with a digit has no sign. -/
theorem signed_digit {c : Char} {digit : Nat} (value : digitOf base c = some digit) (rest : List Char) :
    signed (c :: rest) = (false, c :: rest) := by
  -- A sign has no value as a digit.
  have minus : c ≠ '-' := by
    rintro rfl
    simp [digitOf] at value
  have plus : c ≠ '+' := by
    rintro rfl
    simp [digitOf] at value
  simp [signed, minus, plus]

/-- A text of digits has nothing in front of them. -/
theorem signed_digits {text : List Char} {digits : List Nat} (whole : text.mapM (digitOf base) = some digits)
    (nonempty : digits ≠ []) : signed (text.dropWhile isTrimmed) = (false, text) := by
  -- The first character is a digit: nothing is skipped, and there is no sign.
  cases text with
  | nil =>
    obtain rfl : [] = digits := by simpa using whole
    exact absurd rfl nonempty
  | cons c rest =>
    obtain ⟨first, _, value, -, -⟩ := digitsOf_cons whole
    rw [List.dropWhile_cons_of_neg (by simp [isTrimmed_digit value])]
    exact signed_digit value rest

/-- A text of digits has no mark. -/
theorem behindMark_digits {text : List Char} {digits : List Nat}
    (whole : text.mapM (digitOf base) = some digits) : behindMark base text = text := by
  -- The letter of the mark is no hexadecimal digit.
  unfold behindMark
  split
  · rename_i mark rest
    rw [if_neg]
    rintro ⟨rfl, letter, -⟩
    obtain ⟨_, others, -, tail, -⟩ := digitsOf_cons whole
    obtain ⟨second, _, value, -, -⟩ := digitsOf_cons tail
    rcases letter with rfl | rfl
    · exact absurd value (by decide +revert)
    · exact absurd value (by decide +revert)
  · rfl

end Stoull

/-- A text of digits is read as the number they write, if that fits. -/
theorem stoull_digits {text : String} {digits : List Nat} (whole : digitsOf base text = some digits)
    (nonempty : digits ≠ []) :
    stoull base text =
      if 18446744073709551616 ≤ Numerals.read base digits then .error .outOfRange
      else .ok (UInt64.ofNat (Numerals.read base digits)) := by
  unfold digitsOf at whole
  unfold stoull
  rw [Stoull.signed_digits whole nonempty]
  simp only [Stoull.behindMark_digits whole, Stoull.leadingDigits_digits whole, nonempty, if_false,
    Bool.false_eq_true]

/-- A text of decimal digits is read as the number they write, up to the end of a `long`. -/
theorem strtol_digits {text : String} {digits : List Nat} (whole : digitsOf 10 text = some digits)
    (nonempty : digits ≠ []) : strtol text = some (min 9223372036854775807 (Numerals.read 10 digits : Int)) := by
  unfold digitsOf at whole
  unfold strtol
  rw [Stoull.signed_digits whole nonempty]
  simp only [Stoull.leadingDigits_digits whole, nonempty, if_false, Bool.false_eq_true]

example : stoull 10 " 12abc" = .ok 12 := by decide
example : stoull 10 "-1" = .ok 18446744073709551615 := by decide
example : stoull 16 "0x1F" = .ok 31 := by decide

end Fms
