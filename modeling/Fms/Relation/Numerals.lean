import Mathlib.Data.List.Induction

/-! Numerals to a base: the number that digits write, and the digits of a number in a fixed width. -/

namespace Numerals

/-- Reads digits, the highest first, behind a number that was read before. -/
def readFrom (base number : Nat) (digits : List Nat) : Nat :=
  digits.foldl (fun number digit => number * base + digit) number

/-- The number that digits write, the highest first. -/
def read (base : Nat) (digits : List Nat) : Nat := readFrom base 0 digits

/-- The digits of a number at its lowest places, the highest of them first. -/
@[grind =]
def places (base : Nat) : Nat → Nat → List Nat
  | 0, _ => []
  | width + 1, number => places base width (number / base) ++ [number % base]

/-- Every digit is one of the base. -/
def Digits (base : Nat) (digits : List Nat) : Prop := ∀ digit ∈ digits, digit < base

variable {base : Nat}

/-- The last digit stands at the lowest place. -/
@[simp] theorem read_concat (digits : List Nat) (digit : Nat) :
    read base (digits ++ [digit]) = read base digits * base + digit := by
  simp [read, readFrom]

/-- A fixed width has as many digits. -/
@[simp] theorem length_places (width number : Nat) : (places base width number).length = width := by
  induction width generalizing number with
  | zero => rfl
  | succ width ih => simp [places, ih]

/-- The digits of a number are digits of the base. -/
theorem digits_places (positive : 0 < base) (width number : Nat) :
    Digits base (places base width number) := by
  -- Each of them is a remainder by the base.
  induction width generalizing number with
  | zero => simp [places, Digits]
  | succ width ih =>
    intro digit member
    rcases List.mem_append.mp member with earlier | last
    · exact ih _ digit earlier
    · rw [List.mem_singleton] at last
      rw [last]
      exact Nat.mod_lt _ positive

/-- A number that fits the width is read back from its digits. -/
theorem read_places {width number : Nat} (fits : number < Nat.pow base width) :
    read base (places base width number) = number := by
  -- The quotient fits one place less, and the remainder is the last digit.
  induction width generalizing number with
  | zero =>
    have zero : number = 0 := Nat.lt_one_iff.mp fits
    rw [zero]
    rfl
  | succ width ih =>
    have quotient : number / base < Nat.pow base width :=
      Nat.div_lt_of_lt_mul (by rw [Nat.mul_comm]; exact fits)
    rw [places, read_concat, ih quotient]
    exact Nat.div_add_mod' number base

/-- The lowest digit and the digits above it are read back from the number they write. -/
theorem places_concat (digits : List Nat) {digit : Nat} (small : digit < base) (width : Nat) :
    places base (width + 1) (read base (digits ++ [digit])) =
      places base width (read base digits) ++ [digit] := by
  -- Dividing by the base takes the last digit off again.
  have positive : 0 < base := by omega
  have quotient : (read base digits * base + digit) / base = read base digits := by
    rw [Nat.mul_comm, Nat.mul_add_div positive, Nat.div_eq_of_lt small, Nat.add_zero]
  have remainder : (read base digits * base + digit) % base = digit := by
    rw [Nat.mul_comm, Nat.mul_add_mod, Nat.mod_eq_of_lt small]
  rw [read_concat, places, quotient, remainder]

/-- Digits are read back from the number they write, in as many places. -/
theorem places_read {digits : List Nat} (all : Digits base digits) :
    places base digits.length (read base digits) = digits := by
  -- By the lowest digit, which the number has last.
  induction digits using List.reverseRecOn with
  | nil => rfl
  | append_singleton digits digit ih =>
    have last : digit < base := all digit (by simp)
    have others : Digits base digits := fun other member => all other (by simp [member])
    rw [List.length_append, List.length_singleton, places_concat digits last, ih others]

/-- Digits write a number that fits their width. -/
theorem read_lt {digits : List Nat} (all : Digits base digits) :
    read base digits < Nat.pow base digits.length := by
  -- By the lowest digit: what is above it is at most the width's last multiple of the base.
  induction digits using List.reverseRecOn with
  | nil => exact Nat.one_pos
  | append_singleton digits digit ih =>
    have last : digit < base := all digit (by simp)
    have above : read base digits + 1 ≤ Nat.pow base digits.length :=
      ih fun other member => all other (by simp [member])
    rw [read_concat, List.length_append, List.length_singleton]
    calc read base digits * base + digit < (read base digits + 1) * base := by
          rw [Nat.add_mul, Nat.one_mul]
          omega
      _ ≤ Nat.pow base digits.length * base := Nat.mul_le_mul_right base above

/-- Reading in arithmetic that wraps gives the remainder of the number. -/
theorem readFrom_mod (modulus number : Nat) (digits : List Nat) :
    digits.foldl (fun number digit => (number * base + digit) % modulus) (number % modulus) =
      readFrom base number digits % modulus := by
  -- Every round keeps the remainder, so that wrapping early changes nothing.
  induction digits generalizing number with
  | nil => rfl
  | cons digit rest ih =>
    have wrapped : (number % modulus * base + digit) % modulus = (number * base + digit) % modulus := by
      simp [Nat.add_mod, Nat.mul_mod]
    rw [List.foldl_cons, wrapped, ih]
    rfl

end Numerals
