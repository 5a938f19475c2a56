import Mathlib.Data.List.Basic

/-! Bytes in groups of three, written with four digits to the base 64. -/

namespace Sextets

/-- Three bytes as one number, the first byte the highest. -/
def group (a b c : UInt8) : Nat :=
  a.toNat * 65536 + b.toNat * 256 + c.toNat

/-- The digit of a number at a place. -/
def digit (number place : Nat) : Fin 64 :=
  Fin.ofNat 64 (number >>> (6 * place))

/-- The digits of some bytes; the last group is filled up with zero bits, and then with padding. -/
def digits : List UInt8 → List (Option (Fin 64))
  | [] => []
  | [a] => [some (digit (group a 0 0) 3), some (digit (group a 0 0) 2), none, none]
  | [a, b] =>
    [some (digit (group a b 0) 3), some (digit (group a b 0) 2), some (digit (group a b 0) 1), none]
  | a :: b :: c :: rest =>
    some (digit (group a b c) 3) :: some (digit (group a b c) 2) :: some (digit (group a b c) 1) ::
      some (digit (group a b c) 0) :: digits rest

/-- Three bytes are less than twenty-four bits. -/
theorem group_lt (a b c : UInt8) : group a b c < 16777216 := by
  -- The three bytes do not overlap, so the number is at most that of three full bytes.
  have first := a.toNat_lt
  have second := b.toNat_lt
  have third := c.toNat_lt
  unfold group
  omega

/-- The value of a digit. -/
@[simp] theorem digit_val (number place : Nat) : (digit number place).val = number >>> (6 * place) % 64 :=
  rfl

/-- There are four digits for every three bytes begun. -/
theorem length_digits (bytes : List UInt8) : (digits bytes).length = 4 * ((bytes.length + 2) / 3) := by
  -- A group that is not full is written with as many characters as a full one.
  fun_induction digits bytes with
  | case1 => rfl
  | case2 a => simp
  | case3 a b => simp
  | case4 a b c rest ih =>
    simp only [List.length_cons, ih]
    omega

/-- Digits in groups of four, of which the last may be filled up with padding. -/
structure Padded where
  values : List (Fin 64)
  pads : Nat
  few : pads ≤ 2
  whole : (values.length + pads) % 4 = 0

/-- The digits, and the padding behind them. -/
def Padded.places (padded : Padded) : List (Option (Fin 64)) :=
  padded.values.map some ++ List.replicate padded.pads none

/-- The number that the bits of the last digit make that belong to no byte. -/
def Padded.unused (padded : Padded) : Nat :=
  padded.values.getLast?.elim 0 fun last => last.val % Nat.pow 4 padded.pads

/-- A digit without the bits that belong to no byte. -/
def cut (pads : Nat) (value : Fin 64) : Fin 64 :=
  ⟨value.val - value.val % Nat.pow 4 pads, by omega⟩

/-- Some digits, with the last of them cut. -/
def cutLast (pads : Nat) : List (Fin 64) → List (Fin 64)
  | [] => []
  | [last] => [cut pads last]
  | first :: next :: rest => first :: cutLast pads (next :: rest)

/-- There are as many digits as before. -/
@[simp] theorem length_cutLast (pads : Nat) (values : List (Fin 64)) :
    (cutLast pads values).length = values.length := by
  -- Only the value of the last digit changes.
  fun_induction cutLast pads values with
  | case1 => rfl
  | case2 last => rfl
  | case3 first next rest ih => simpa using ih

/-- The same digits with all unused bits cleared. -/
def Padded.cleared (padded : Padded) : Padded :=
  { padded with
    values := cutLast padded.pads padded.values
    whole := by rw [length_cutLast]; exact padded.whole }

/-- Without padding every bit belongs to a byte. -/
@[simp] theorem cut_zero (value : Fin 64) : cut 0 value = value := by
  -- The remainder by one is zero.
  apply Fin.ext
  show value.val - value.val % 1 = value.val
  omega

/-- Clearing the unused bits leaves some digits as they are exactly where those bits are zeros. -/
theorem cutLast_eq_iff (pads : Nat) (values : List (Fin 64)) :
    cutLast pads values = values ↔ values.getLast?.elim 0 (fun last => last.val % Nat.pow 4 pads) = 0 := by
  fun_induction cutLast pads values with
  | case1 => simp
  | case2 last =>
    -- A remainder is at most the number, so that subtracting it tells whether it is zero.
    have small := Nat.mod_le last.val (Nat.pow 4 pads)
    simp only [List.cons.injEq, and_true, Fin.ext_iff, cut, List.getLast?_singleton, Option.elim_some]
    omega
  | case3 first next rest ih => simpa using ih

/-- A property of lists, by four entries at a time. -/
theorem fours {α : Type} {motive : List α → Prop} (short : ∀ entries : List α, entries.length < 4 → motive entries)
    (four : ∀ a b c d rest, motive rest → motive (a :: b :: c :: d :: rest)) : ∀ entries, motive entries
  | [] => short [] (by simp)
  | [a] => short [a] (by simp)
  | [a, b] => short [a, b] (by simp)
  | [a, b, c] => short [a, b, c] (by simp)
  | a :: b :: c :: d :: rest => four a b c d rest (fours short four rest)

/-- A property of padded digits by their groups; only the last group is padded. -/
theorem Padded.groups {motive : List (Fin 64) → Nat → Prop} (nil : motive [] 0) (two : ∀ a b, motive [a, b] 2)
    (three : ∀ a b c, motive [a, b, c] 1)
    (four : ∀ a b c d rest pads, (rest = [] → pads = 0) → motive rest pads →
      motive (a :: b :: c :: d :: rest) pads)
    (padded : Padded) : motive padded.values padded.pads := by
  obtain ⟨values, pads, few, whole⟩ := padded
  show motive values pads
  induction values using fours with
  | short values less =>
    -- The length of the last group decides how much padding there is.
    match values with
    | [] =>
      obtain rfl : pads = 0 := by simp at whole; omega
      exact nil
    | [a] => simp at whole; omega
    | [a, b] =>
      obtain rfl : pads = 2 := by simp at whole; omega
      exact two a b
    | [a, b, c] =>
      obtain rfl : pads = 1 := by simp at whole; omega
      exact three a b c
    | a :: b :: c :: d :: rest => simp at less; omega
  | four a b c d rest ih =>
    simp only [List.length_cons] at whole
    refine four a b c d rest pads (fun empty => ?_) (ih (by omega))
    subst empty
    simp at whole
    omega

/-- The digits of a full group are not cut. -/
theorem cutLast_four {pads : Nat} {rest : List (Fin 64)} (last : rest = [] → pads = 0) (a b c d : Fin 64) :
    cutLast pads (a :: b :: c :: d :: rest) = a :: b :: c :: d :: cutLast pads rest := by
  cases rest with
  | nil => simp [cutLast, last rfl]
  | cons e rest => rfl

/-- Any four digits are the digits of a group; its last bytes are zeros where the digits have no bits for them. -/
theorem exists_group (a b c d : Fin 64) :
    ∃ x y z : UInt8, digit (group x y z) 3 = a ∧ digit (group x y z) 2 = b ∧ digit (group x y z) 1 = c ∧
      digit (group x y z) 0 = d ∧ (b.val % 16 = 0 → c.val / 4 = 0 → y = 0) ∧
      (c.val % 4 = 0 → d = 0 → z = 0) := by
  have first := a.isLt
  have second := b.isLt
  have third := c.isLt
  have fourth := d.isLt
  -- Each byte takes the bits that the one before it leaves.
  obtain ⟨x, high⟩ : ∃ x : UInt8, x.toNat = a.val * 4 + b.val / 16 :=
    ⟨UInt8.ofNat (a.val * 4 + b.val / 16), UInt8.toNat_ofNat_of_lt' (by simp only [UInt8.size]; omega)⟩
  obtain ⟨y, middle⟩ : ∃ y : UInt8, y.toNat = b.val % 16 * 16 + c.val / 4 :=
    ⟨UInt8.ofNat (b.val % 16 * 16 + c.val / 4), UInt8.toNat_ofNat_of_lt' (by simp only [UInt8.size]; omega)⟩
  obtain ⟨z, low⟩ : ∃ z : UInt8, z.toNat = c.val % 4 * 64 + d.val :=
    ⟨UInt8.ofNat (c.val % 4 * 64 + d.val), UInt8.toNat_ofNat_of_lt' (by simp only [UInt8.size]; omega)⟩
  refine ⟨x, y, z, ?_, ?_, ?_, ?_, fun clear empty => ?_, fun clear empty => ?_⟩
  · apply Fin.ext
    simp [group, high, middle, low, Nat.shiftRight_eq_div_pow]
    omega
  · apply Fin.ext
    simp [group, high, middle, low, Nat.shiftRight_eq_div_pow]
    omega
  · apply Fin.ext
    simp [group, high, middle, low, Nat.shiftRight_eq_div_pow]
    omega
  · apply Fin.ext
    simp [group, high, middle, low]
    omega
  · apply UInt8.toNat_inj.mp
    rw [middle, clear, empty]
    rfl
  · apply UInt8.toNat_inj.mp
    rw [low, clear, empty]
    rfl

/-- Padded digits whose unused bits are zeros are the digits of some bytes. -/
theorem Padded.exists_bytes (padded : Padded) : ∃ bytes, digits bytes = padded.cleared.places := by
  -- Group by group; the bits cleared in the last one leave zeros for the bytes that are not there.
  refine Padded.groups (motive := fun values pads =>
    ∃ bytes, digits bytes = (cutLast pads values).map some ++ List.replicate pads none) ?_ ?_ ?_ ?_ padded
  · exact ⟨[], rfl⟩
  · intro a b
    obtain ⟨x, y, z, third, second, -, -, middle, low⟩ := exists_group a (cut 2 b) 0 0
    have clear : (cut 2 b).val % 16 = 0 := by
      show (b.val - b.val % 16) % 16 = 0
      omega
    obtain rfl := middle clear rfl
    obtain rfl := low rfl rfl
    exact ⟨[x], by simp [digits, cutLast, third, second]⟩
  · intro a b c
    obtain ⟨x, y, z, third, second, first, -, -, low⟩ := exists_group a b (cut 1 c) 0
    have clear : (cut 1 c).val % 4 = 0 := by
      show (c.val - c.val % 4) % 4 = 0
      omega
    obtain rfl := low clear rfl
    exact ⟨[x, y], by simp [digits, cutLast, third, second, first]⟩
  · intro a b c d rest pads last ⟨bytes, same⟩
    obtain ⟨x, y, z, third, second, first, lowest, -, -⟩ := exists_group a b c d
    exact ⟨x :: y :: z :: bytes, by simp [digits, cutLast_four last, third, second, first, lowest, same]⟩

end Sextets
