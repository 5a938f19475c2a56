import Mathlib.Computability.RegularExpressions

/-! `Utils::ValidNumber`, whose pattern outlives the calls. -/

namespace Fms

namespace Utils

open RegularExpression

/-- `[0-9]`, which is `\d` as well. -/
def digitPattern : RegularExpression Char :=
  ['0', '1', '2', '3', '4', '5', '6', '7', '8', '9'].foldr (fun c others => char c + others) 0

/-- `(pattern)?`. -/
def optional (pattern : RegularExpression Char) : RegularExpression Char := pattern + 1

/-- `^[0-9]\d*(\.\d+)?$`. -/
def unsignedPattern : RegularExpression Char :=
  digitPattern * (digitPattern.star * optional (char '.' * (digitPattern * digitPattern.star)))

/-- `^-?[0-9]\d*(\.\d+)?$`. -/
def signedPattern : RegularExpression Char := optional (char '-') * unsignedPattern

/-- A call of `ValidNumber`. -/
structure NumberCall where
  number : String
  isSigned : Bool
  deriving DecidableEq, Repr

/-- `IntRegex`, which the first call makes, and every unsigned call changes. -/
def intRegex (kept : Option (RegularExpression Char)) (call : NumberCall) : RegularExpression Char :=
  let pattern := kept.getD signedPattern
  if !call.isSigned then unsignedPattern else pattern

/-- `ValidNumber`, and what is kept of its pattern. -/
def validNumber (kept : Option (RegularExpression Char)) (call : NumberCall) :
    Bool × Option (RegularExpression Char) :=
  let pattern := intRegex kept call
  (pattern.rmatch call.number.toList, some pattern)

/-- What is kept after the earlier calls of a process. -/
def keptAfter (earlier : List NumberCall) : Option (RegularExpression Char) :=
  earlier.foldl (fun kept call => (validNumber kept call).2) none

/-- The result of a call after some earlier ones. -/
def resultAfter (earlier : List NumberCall) (call : NumberCall) : Bool := (validNumber (keptAfter earlier) call).1

/-- The pattern a call asks for. -/
def askedPattern (call : NumberCall) : RegularExpression Char :=
  if call.isSigned then signedPattern else unsignedPattern

/-- A number with a minus. -/
def Negative (number : String) : Prop :=
  ∃ digits, number.toList = '-' :: digits ∧ digits ∈ unsignedPattern.matches'

/-- The signed pattern has the texts of the unsigned one, and those with a minus. -/
theorem mem_signedPattern_iff (text : List Char) :
    text ∈ signedPattern.matches' ↔
      text ∈ unsignedPattern.matches' ∨ ∃ digits, text = '-' :: digits ∧ digits ∈ unsignedPattern.matches' := by
  -- The minus is there or not.
  rw [signedPattern, matches'_mul, Language.mem_mul, optional, matches'_add, matches'_char, matches'_epsilon]
  constructor
  · intro parts
    obtain ⟨sign, minus | none, digits, unsigned, rfl⟩ := parts
    · obtain rfl : sign = ['-'] := minus
      exact .inr ⟨digits, rfl, unsigned⟩
    · obtain rfl := (Language.mem_one sign).mp none
      exact .inl unsigned
  · intro parts
    rcases parts with unsigned | ⟨digits, rfl, unsigned⟩
    · exact ⟨[], .inr rfl, text, unsigned, rfl⟩
    · exact ⟨['-'], .inl rfl, digits, unsigned, rfl⟩

/-- The pattern of some characters has each of them as a text. -/
theorem mem_characters_iff (characters text : List Char) :
    text ∈ (characters.foldr (fun c others => char c + others) 0).matches' ↔ ∃ c ∈ characters, text = [c] := by
  -- Its texts are those of the first character and those of the others.
  induction characters with
  | nil => simp
  | cons first rest ih =>
    have either : text ∈ ((first :: rest).foldr (fun c others => char c + others) 0).matches' ↔
        text = [first] ∨ text ∈ (rest.foldr (fun c others => char c + others) 0).matches' := by
      rw [List.foldr_cons, matches'_add, matches'_char]
      rfl
    rw [either, ih]
    simp

/-- The unsigned pattern has no text with a minus. -/
theorem minus_notMem_unsignedPattern (digits : List Char) : '-' :: digits ∉ unsignedPattern.matches' := by
  -- Its texts begin with a digit.
  intro member
  rw [unsignedPattern, matches'_mul, Language.mem_mul] at member
  obtain ⟨front, digit, back, _, split⟩ := member
  obtain ⟨c, decimal, rfl⟩ := (mem_characters_iff _ front).mp digit
  obtain rfl : c = '-' := (List.cons.inj split).1
  exact absurd decimal (by decide)

/-- What a call keeps in place of a pattern. -/
theorem validNumber_snd (kept : Option (RegularExpression Char)) (call : NumberCall) :
    (validNumber kept call).2.getD signedPattern =
      if call.isSigned = false then unsignedPattern else kept.getD signedPattern := by
  cases signed : call.isSigned <;> simp [validNumber, intRegex, signed]

/-- After an unsigned call the unsigned pattern is kept, and before the first one the signed one. -/
theorem keptAfter_eq (earlier : List NumberCall) :
    (keptAfter earlier).getD signedPattern =
      if ∃ call ∈ earlier, call.isSigned = false then unsignedPattern else signedPattern := by
  -- Calls are made one after the other, from whatever has been kept before.
  have from_ : ∀ (calls : List NumberCall) (kept : Option (RegularExpression Char)),
      (calls.foldl (fun kept call => (validNumber kept call).2) kept).getD signedPattern =
        if ∃ call ∈ calls, call.isSigned = false then unsignedPattern else kept.getD signedPattern := by
    intro calls
    induction calls with
    | nil => simp
    | cons call calls ih =>
      intro kept
      rw [List.foldl_cons, ih, validNumber_snd]
      by_cases later : ∃ other ∈ calls, other.isSigned = false
      · simp [later]
      · by_cases now : call.isSigned = false <;> simp [later, now]
  exact from_ earlier none

/-- A call answers by the unsigned pattern if it is unsigned or comes after an unsigned one. -/
theorem resultAfter_iff (earlier : List NumberCall) (call : NumberCall) :
    resultAfter earlier call = true ↔
      call.number.toList ∈
        (if call.isSigned = false ∨ ∃ other ∈ earlier, other.isSigned = false then unsignedPattern
          else signedPattern).matches' := by
  -- The pattern of the call is the one that is kept, which an unsigned call has changed for good.
  have pattern : intRegex (keptAfter earlier) call =
      if call.isSigned = false ∨ ∃ other ∈ earlier, other.isSigned = false then unsignedPattern
      else signedPattern := by
    rw [intRegex, keptAfter_eq]
    cases call.isSigned <;> simp
  rw [resultAfter, validNumber, pattern]
  exact rmatch_iff_matches' _ _

/-- A call is right after some earlier ones: it returns whether the number has the pattern that is asked for. -/
def RightAfter (earlier : List NumberCall) (call : NumberCall) : Prop :=
  resultAfter earlier call = true ↔ call.number.toList ∈ (askedPattern call).matches'

/-- A call is right exactly if it does not ask for the sign of a negative number after an unsigned call. -/
theorem rightAfter_iff (earlier : List NumberCall) (call : NumberCall) :
    RightAfter earlier call ↔
      ¬ (call.isSigned = true ∧ (∃ other ∈ earlier, other.isSigned = false) ∧ Negative call.number) := by
  -- Only a signed call can be answered by another pattern than its own.
  unfold RightAfter askedPattern
  rw [resultAfter_iff]
  cases signed : call.isSigned with
  | false => simp
  | true =>
    by_cases before : ∃ other ∈ earlier, other.isSigned = false
    · -- The unsigned pattern is left, which differs from the signed one on negative numbers.
      simp only [before, or_true, if_true, mem_signedPattern_iff, true_and]
      have negative : (∃ digits, call.number.toList = '-' :: digits ∧ digits ∈ unsignedPattern.matches') ↔
          Negative call.number := Iff.rfl
      rw [negative]
      constructor
      · intro same below
        have unsigned := same.mpr (.inr below)
        obtain ⟨digits, text, _⟩ := below
        rw [text] at unsigned
        exact minus_notMem_unsignedPattern digits unsigned
      · intro above
        exact ⟨.inl, fun either => either.resolve_right above⟩
    · simp [before]

/-- Two histories do not matter to a call: it returns the same after both, and what it is asked for. -/
def NoMemory (first second : List NumberCall) (call : NumberCall) : Prop :=
  resultAfter first call = resultAfter second call ∧
    (resultAfter first call = true ↔ call.number.toList ∈ (askedPattern call).matches')

/-- Two histories matter to a call where one has an unsigned call and a negative number is checked with its sign. -/
theorem noMemory_iff (first second : List NumberCall) (call : NumberCall) :
    NoMemory first second call ↔
      ¬ (call.isSigned = true ∧ (∃ other ∈ first ++ second, other.isSigned = false) ∧ Negative call.number) := by
  -- Both histories leave the call right.
  have both : NoMemory first second call ↔ RightAfter first call ∧ RightAfter second call := by
    unfold NoMemory RightAfter
    constructor
    · intro same
      exact ⟨same.2, same.1 ▸ same.2⟩
    · intro right
      exact ⟨Bool.eq_iff_iff.mpr (right.1.trans right.2.symm), right.1⟩
  have either : (∃ other ∈ first ++ second, other.isSigned = false) ↔
      (∃ other ∈ first, other.isSigned = false) ∨ ∃ other ∈ second, other.isSigned = false := by
    simp only [List.mem_append, or_and_right, exists_or]
  rw [both, rightAfter_iff, rightAfter_iff, either, ← not_or, ← and_or_left, ← or_and_right]

/-- An unsigned call makes a later signed one refuse a negative number. -/
theorem unsigned_call_remembered :
    ¬ NoMemory [] [{ number := "1", isSigned := false }] { number := "-1", isSigned := true } := by
  intro same
  exact absurd same.1 (by decide)

end Utils

end Fms
