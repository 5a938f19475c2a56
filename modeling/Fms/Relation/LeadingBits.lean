import Mathlib.Data.List.GetD

/-! The leading bits of words, and of numbers that are made of several words. -/

namespace LeadingBits

variable {w : Nat}

/-- A mask of leading ones leaves nothing of a difference exactly where the leading bits agree. -/
theorem masked_xor_iff (x y : BitVec w) {len : Nat} (within : len ≤ w) :
    (x ^^^ y) &&& (BitVec.allOnes w <<< (w - len)) = 0#w ↔ ∀ i < len, x.getMsbD i = y.getMsbD i := by
  -- The mask has a one at each of the leading positions and nowhere else.
  have masked : ∀ i, ((x ^^^ y) &&& (BitVec.allOnes w <<< (w - len))).getMsbD i =
      ((x.getMsbD i ^^ y.getMsbD i) && decide (i < len)) := by
    intro i
    have inside : i + (w - len) < w ↔ i < len := by omega
    simp [inside]
  constructor
  · intro none i leading
    have bit := masked i
    rw [none] at bit
    simpa [leading] using bit
  · intro agree
    refine BitVec.eq_of_getMsbD_eq fun i _ => ?_
    rw [masked, BitVec.getMsbD_zero]
    by_cases leading : i < len
    · simp [agree i leading]
    · simp [leading]

/-- A bit of a number whose words are listed from the highest one on. -/
def bitAt (words : List (BitVec w)) (i : Nat) : Bool := (words.getD (i / w) 0#w).getMsbD (i % w)

/-- Two numbers agree in their leading bits. -/
def Agree (len : Nat) (x y : List (BitVec w)) : Prop := ∀ i < len, bitAt x i = bitAt y i

/-- All bits of a word are bits of the number. -/
theorem bitAt_word (words : List (BitVec w)) (place : Nat) {i : Nat} (inside : i < w) :
    bitAt words (place * w + i) = (words.getD place 0#w).getMsbD i := by
  -- The position is divided into the place of the word and the place in it.
  have quotient : (place * w + i) / w = place := by
    rw [Nat.mul_comm, Nat.mul_add_div (by omega), Nat.div_eq_of_lt inside, Nat.add_zero]
  have remainder : (place * w + i) % w = i := by
    rw [Nat.mul_comm, Nat.mul_add_mod, Nat.mod_eq_of_lt inside]
  rw [bitAt, quotient, remainder]

/-- The leading bits within one word are those of the first word. -/
theorem agree_first {x y : List (BitVec w)} {len : Nat} (within : len ≤ w) :
    Agree len x y ↔ ∀ i < len, (x.getD 0 0#w).getMsbD i = (y.getD 0 0#w).getMsbD i := by
  -- Such a position stands in the word at place zero.
  have place : ∀ (words : List (BitVec w)) (i : Nat), i < len → bitAt words i = (words.getD 0 0#w).getMsbD i := by
    intro words i leading
    have word := bitAt_word words 0 (show i < w by omega)
    rwa [Nat.zero_mul, Nat.zero_add] at word
  constructor
  · intro agree i leading
    rw [← place x i leading, ← place y i leading]
    exact agree i leading
  · intro bits i leading
    rw [place x i leading, place y i leading]
    exact bits i leading

/-- The first words of two numbers are the same exactly where they are so one by one. -/
theorem take_eq_iff {x y : List (BitVec w)} {whole : Nat} (room : whole ≤ x.length ∧ whole ≤ y.length) :
    x.take whole = y.take whole ↔ ∀ place < whole, x.getD place 0#w = y.getD place 0#w := by
  -- Both numbers have these words, so the default is never read.
  have read : ∀ (words : List (BitVec w)), whole ≤ words.length → ∀ place < whole,
      words.getD place 0#w = (words.take whole).getD place 0#w := by
    intro words long place early
    simp [early]
  constructor
  · intro same place early
    rw [read x room.1 place early, read y room.2 place early, same]
  · intro each
    refine List.ext_getElem (by simp [room]) fun place early _ => ?_
    have inside : place < whole := by
      rw [List.length_take] at early
      omega
    have word := each place inside
    rw [List.getD_eq_getElem _ _ (by omega), List.getD_eq_getElem _ _ (by omega)] at word
    simpa using word

/-- Leading bits agree when the whole words among them do, and then the leading bits of the word behind these. -/
theorem agree_iff {x y : List (BitVec w)} {whole part : Nat} (short : part < w)
    (room : whole ≤ x.length ∧ whole ≤ y.length) :
    Agree (whole * w + part) x y ↔
      x.take whole = y.take whole ∧ ∀ i < part, (x.getD whole 0#w).getMsbD i = (y.getD whole 0#w).getMsbD i := by
  -- A position is one of a whole word, or of the word behind these.
  rw [take_eq_iff room]
  constructor
  · intro agree
    constructor
    · intro place early
      refine BitVec.eq_of_getMsbD_eq fun i inside => ?_
      have within : place * w + w ≤ whole * w := by
        rw [← Nat.succ_mul]
        exact Nat.mul_le_mul_right w early
      have bit := agree (place * w + i) (by omega)
      rwa [bitAt_word x place inside, bitAt_word y place inside] at bit
    · intro i leading
      have bit := agree (whole * w + i) (by omega)
      rwa [bitAt_word x whole (by omega), bitAt_word y whole (by omega)] at bit
  · rintro ⟨words, bits⟩ i leading
    unfold bitAt
    by_cases early : i / w < whole
    · rw [words _ early]
    · have split := Nat.div_add_mod i w
      have place : i / w = whole := by
        have bound : i / w < whole + 1 := by
          rw [Nat.div_lt_iff_lt_mul (by omega), Nat.succ_mul]
          omega
        omega
      rw [place, Nat.mul_comm] at split
      rw [place]
      exact bits _ (by omega)

end LeadingBits
