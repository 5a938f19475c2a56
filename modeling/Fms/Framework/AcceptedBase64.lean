import Fms.Framework.Base64

/-! What `Utils::base64decode` accepts, and what its bytes are encoded to again. -/

namespace Fms

namespace Utils

open Sextets

/-- The text of padded digits. -/
def textOf (padded : Padded) : String :=
  String.ofList (padded.places.map character)

/-- A padding in the last place but one is followed by another padding. -/
def PaddingEnds (s : List Char) : Prop :=
  s.dropLast.getLast? = some kPadCharacter → s.getLast? = some kPadCharacter

instance (s : List Char) : Decidable (PaddingEnds s) :=
  inferInstanceAs (Decidable (_ = _ → _ = _))

/-- The decoder accepts exactly the canonical texts, and what it accepts is encoded again as it was. -/
def AcceptsCanonical (s : String) : Prop :=
  ((∃ x, base64decode s = .ok x) ↔ ∃ padded : Padded, padded.unused = 0 ∧ s = textOf padded) ∧
    ∀ x, base64decode s = .ok x → base64encode x (UInt32.ofNat x.length) = some s

/-- What the decoder recognises as a digit is the character of one. -/
theorem exists_character {it : Char} {value : UInt32} (known : sextet it = some value) :
    ∃ digit : Fin 64, it = character (some digit) := by
  -- All of them are ASCII characters.
  have small : it.toNat < 128 := by
    unfold sextet at known
    split at known
    · omega
    · split at known
      · omega
      · split at known
        · omega
        · split at known
          · omega
          · split at known
            · omega
            · contradiction
  have table : ∀ code : Fin 128, (sextet (Char.ofNat code.val)).isSome = true →
      ∃ digit : Fin 64, Char.ofNat code.val = character (some digit) := by
    decide +kernel
  have same : Char.ofNat it.toNat = it := Char.ofNat_toNat it
  have found := table ⟨it.toNat, small⟩ (by rw [same, known]; rfl)
  rwa [same] at found

/-- What the decoder reads on is a digit, or a padding in one of the last two places. -/
theorem decodeGroups_cases {it : Char} {rest : List Char} {i : Nat} {temp : UInt32} {decoded x : List UInt8}
    (read : decodeGroups (it :: rest) i temp decoded = .ok x) :
    (∃ digit : Fin 64, it = character (some digit)) ∨ it = kPadCharacter ∧ rest.length ≤ 1 := by
  -- The first character is recognised by its branch, or it ends the text.
  cases known : sextet it with
  | some value => exact .inl (exists_character known)
  | none =>
    simp only [decodeGroups, known] at read
    split at read
    · rename_i padding
      refine .inr ⟨padding, ?_⟩
      split at read
      · omega
      · omega
      · contradiction
    · contradiction

/-- A full group of digits is read before what follows it. -/
theorem decodeGroups_group (a b c d : Fin 64) (temp : UInt32) (decoded : List UInt8) :
    ∃ (number : UInt32) (bytes : List UInt8), ∀ rest,
      decodeGroups (character (some a) :: character (some b) :: character (some c) :: character (some d) :: rest)
          0 temp decoded =
        decodeGroups rest 0 number bytes := by
  -- Three digits are put into the number, and with the fourth its three lowest bytes are taken.
  let number := (((temp <<< 6 ||| UInt32.ofNat a.val) <<< 6 ||| UInt32.ofNat b.val) <<< 6 |||
    UInt32.ofNat c.val) <<< 6 ||| UInt32.ofNat d.val
  refine ⟨number, decoded ++ [byte number 16, byte number 8, byte number 0], fun rest => ?_⟩
  rw [decodeGroups_three]
  simp only [decodeGroups, sextet_character, if_true, number]

/-- The bits of a padded group that belong to no byte are not read. -/
theorem decodeGroups_cleared (padded : Padded) (temp : UInt32) (decoded : List UInt8) :
    decodeGroups (padded.places.map character) 0 temp decoded =
      decodeGroups (padded.cleared.places.map character) 0 temp decoded := by
  refine Padded.groups (motive := fun values pads => ∀ (temp : UInt32) (decoded : List UInt8),
    decodeGroups ((values.map some ++ List.replicate pads none).map character) 0 temp decoded =
      decodeGroups (((cutLast pads values).map some ++ List.replicate pads none).map character) 0 temp decoded)
    ?_ ?_ ?_ ?_ padded temp decoded
  · intro temp decoded
    rfl
  · intro a b temp decoded
    -- The byte is taken above the four lowest bits of the second digit.
    have same : byte (((temp <<< 6 ||| UInt32.ofNat a.val) <<< 6 ||| UInt32.ofNat b.val) <<< 6) 10 =
        byte (((temp <<< 6 ||| UInt32.ofNat a.val) <<< 6 ||| UInt32.ofNat (cut 2 b).val) <<< 6) 10 := by
      have clear : (cut 2 b).val = b.val - b.val % 16 := rfl
      apply UInt8.toNat_inj.mp
      simp only [toNat_byte _ 10 (by decide), toNat_shift, toNat_push]
      simp only [clear, UInt32.reduceToNat, Nat.shiftRight_eq_div_pow, Nat.reducePow]
      omega
    simp only [cutLast, List.map_cons, List.map_nil, List.cons_append, List.nil_append, List.replicate]
    rw [decodeGroups_two, decodeGroups_two]
    simp [decodeGroups, character, sextet_pad, same]
  · intro a b c temp decoded
    -- The bytes are taken above the two lowest bits of the third digit.
    have same : ∀ shift : UInt32, shift = 16 ∨ shift = 8 →
        byte ((((temp <<< 6 ||| UInt32.ofNat a.val) <<< 6 ||| UInt32.ofNat b.val) <<< 6 |||
          UInt32.ofNat c.val) <<< 6) shift =
        byte ((((temp <<< 6 ||| UInt32.ofNat a.val) <<< 6 ||| UInt32.ofNat b.val) <<< 6 |||
          UInt32.ofNat (cut 1 c).val) <<< 6) shift := by
      have clear : (cut 1 c).val = c.val - c.val % 4 := rfl
      rintro shift (rfl | rfl)
      · apply UInt8.toNat_inj.mp
        simp only [toNat_byte _ 16 (by decide), toNat_shift, toNat_push]
        simp only [clear, UInt32.reduceToNat, Nat.shiftRight_eq_div_pow, Nat.reducePow]
        omega
      · apply UInt8.toNat_inj.mp
        simp only [toNat_byte _ 8 (by decide), toNat_shift, toNat_push]
        simp only [clear, UInt32.reduceToNat, Nat.shiftRight_eq_div_pow, Nat.reducePow]
        omega
    simp only [cutLast, List.map_cons, List.map_nil, List.cons_append, List.nil_append, List.replicate]
    rw [decodeGroups_three, decodeGroups_three]
    simp [decodeGroups, character, sextet_pad, same]
  · intro a b c d rest pads last ih temp decoded
    -- A full group is read in the same way in both texts.
    obtain ⟨number, bytes, group⟩ := decodeGroups_group a b c d temp decoded
    rw [cutLast_four last]
    simp only [List.map_cons, List.cons_append]
    rw [group, group]
    exact ih number bytes

/-- Padded digits are decoded to bytes whose digits are those with the unused bits cleared. -/
theorem base64decode_textOf (padded : Padded) :
    ∃ x, base64decode (textOf padded) = .ok x ∧ digits x = padded.cleared.places := by
  -- The bytes are those whose digits are left when the unused bits are cleared.
  obtain ⟨x, same⟩ := padded.exists_bytes
  refine ⟨x, ?_, same⟩
  have whole : (padded.places.map character).length % 4 = 0 := by
    simpa [Padded.places] using padded.whole
  rw [base64decode, textOf, String.toList_ofList, if_neg (by simp only [whole]; decide),
    decodeGroups_cleared, ← same, decodeGroups_digits, List.nil_append]

/-- The condition on the padding is one on the end of a text. -/
theorem PaddingEnds.behind {front rest : List Char} (ends : PaddingEnds (front ++ rest)) : PaddingEnds rest := by
  intro second
  -- Where the rest has a last character but one, it is that of the whole text.
  have nonempty : rest ≠ [] := by
    rintro rfl
    simp at second
  have whole : (front ++ rest).dropLast.getLast? = some kPadCharacter := by
    rw [List.dropLast_append_of_ne_nil nonempty, List.getLast?_append, second, Option.some_or]
  have last := ends whole
  obtain ⟨d, same⟩ := Option.isSome_iff_exists.mp (List.getLast?_isSome.mpr nonempty)
  rw [List.getLast?_append, same, Option.some_or] at last
  rw [same, last]

/-- A text of full groups that is decoded is one of padded digits, unless something else follows a padding. -/
theorem exists_padded {text : List Char} (whole : text.length % 4 = 0) (ends : PaddingEnds text) {temp : UInt32}
    {decoded x : List UInt8} (read : decodeGroups text 0 temp decoded = .ok x) :
    ∃ padded : Padded, text = padded.places.map character := by
  -- By the groups of the text; the bytes decoded so far are arbitrary.
  induction text using fours generalizing temp decoded with
  | short text less =>
    have empty : text.length = 0 := by omega
    exact ⟨⟨[], 0, by decide, rfl⟩, by simpa [Padded.places] using List.length_eq_zero_iff.mp empty⟩
  | four a b c d rest ih =>
    simp only [List.length_cons] at whole
    -- Neither of the first two characters is a padding, since two more stand behind them.
    obtain ⟨a, rfl⟩ := (decodeGroups_cases read).resolve_right (by simp)
    rw [decodeGroups_digit _ _ (by decide)] at read
    obtain ⟨b, rfl⟩ := (decodeGroups_cases read).resolve_right (by simp)
    rw [decodeGroups_digit _ _ (by decide)] at read
    rcases decodeGroups_cases read with ⟨c, rfl⟩ | ⟨rfl, short⟩
    · rw [decodeGroups_digit _ _ (by decide)] at read
      rcases decodeGroups_cases read with ⟨d, rfl⟩ | ⟨rfl, short⟩
      · -- A full group: what follows it is read on its own.
        simp only [decodeGroups, sextet_character, if_true] at read
        obtain ⟨padded, rfl⟩ := ih (by omega) (@PaddingEnds.behind [character (some a), character (some b),
          character (some c), character (some d)] rest ends) read
        refine ⟨⟨a :: b :: c :: d :: padded.values, padded.pads, padded.few, ?_⟩, by simp [Padded.places]⟩
        have groups := padded.whole
        simp only [List.length_cons]
        omega
      · obtain rfl : rest = [] := List.length_eq_zero_iff.mp (by omega)
        exact ⟨⟨[a, b, c], 1, by decide, by simp⟩, by simp [Padded.places, character]⟩
    · obtain rfl : rest = [] := List.length_eq_zero_iff.mp (by simpa using short)
      -- The character behind the padding is never read; it has to be a padding as well.
      obtain rfl : d = kPadCharacter := by simpa using ends (by simp)
      exact ⟨⟨[a, b], 2, by decide, by simp⟩, by simp [Padded.places, character, List.replicate]⟩

/-- The text of padded digits is a text of their characters with the unused bits zero. -/
theorem base64encode_textOf {padded : Padded} {x : List UInt8} (read : base64decode (textOf padded) = .ok x)
    (small : x.length < 4294967296) :
    base64encode x (UInt32.ofNat x.length) = some (textOf padded.cleared) := by
  -- The decoder returns one value, and its digits are known.
  obtain ⟨y, again, same⟩ := base64decode_textOf padded
  obtain rfl : x = y := Except.ok.inj (read.symm.trans again)
  rw [base64encode_eq small, same]
  rfl

/-- Different digits have different characters, and none of them has that of the padding. -/
theorem character_injective : Function.Injective character := by
  intro first second same
  -- The decoder tells the characters apart.
  have values := congrArg sextet same
  cases first with
  | none =>
    cases second with
    | none => rfl
    | some b =>
      rw [show character none = kPadCharacter from rfl, sextet_pad, sextet_character] at values
      contradiction
  | some a =>
    cases second with
    | none =>
      rw [show character none = kPadCharacter from rfl, sextet_pad, sextet_character] at values
      contradiction
    | some b =>
      rw [sextet_character, sextet_character, Option.some.injEq] at values
      have numbers := congrArg UInt32.toNat values
      rw [UInt32.toNat_ofNat_of_lt' (by simp only [UInt32.size]; omega),
        UInt32.toNat_ofNat_of_lt' (by simp only [UInt32.size]; omega)] at numbers
      rw [Fin.ext numbers]

/-- Clearing the unused bits leaves a text as it is exactly where they are zeros. -/
theorem textOf_cleared_iff (padded : Padded) : textOf padded.cleared = textOf padded ↔ padded.unused = 0 := by
  have texts : textOf padded.cleared = textOf padded ↔ padded.cleared.places = padded.places :=
    ⟨fun same => List.map_injective_iff.mpr character_injective (String.ofList_injective same),
      fun same => by rw [textOf, textOf, same]⟩
  have places : padded.cleared.places = padded.places ↔ cutLast padded.pads padded.values = padded.values := by
    -- The padding is the same in both.
    unfold Padded.places
    rw [show padded.cleared.pads = padded.pads from rfl, List.append_left_inj]
    exact (List.map_injective_iff.mpr (fun _ _ => Option.some.inj)).eq_iff
  rw [texts, places, cutLast_eq_iff]
  rfl

/--
Where nothing but padding follows a padding, the decoder accepts exactly the padded digits, whatever their unused
bits are; encoding again clears those bits, so that it gives the same text exactly where they are zeros.
-/
theorem base64decode_accepts (s : String) (ends : PaddingEnds s.toList) :
    ((∃ x, base64decode s = .ok x) ↔ ∃ padded : Padded, s = textOf padded) ∧
      ∀ padded : Padded, s = textOf padded → ∀ x, base64decode s = .ok x → x.length < 4294967296 →
        base64encode x (UInt32.ofNat x.length) = some (textOf padded.cleared) ∧
          (base64encode x (UInt32.ofNat x.length) = some s ↔ padded.unused = 0) := by
  -- The length is checked first, and then the groups are read from the left.
  refine ⟨⟨fun ⟨x, read⟩ => ?_, ?_⟩, ?_⟩
  · have whole : s.toList.length % 4 = 0 := by
      by_contra broken
      rw [base64decode, if_pos broken] at read
      contradiction
    rw [base64decode, if_neg (not_not_intro whole)] at read
    obtain ⟨padded, text⟩ := exists_padded whole ends read
    exact ⟨padded, by rw [textOf, ← text, String.ofList_toList]⟩
  · rintro ⟨padded, rfl⟩
    obtain ⟨x, read, -⟩ := base64decode_textOf padded
    exact ⟨x, read⟩
  · rintro padded rfl x read small
    have again := base64encode_textOf read small
    refine ⟨again, ?_⟩
    rw [again, Option.some.injEq]
    exact textOf_cleared_iff padded

/-- Two bytes, with an unused bit set in the third digit. -/
theorem base64decode_accepts_unused :
    ((∃ x, base64decode "AAB=" = .ok x) ↔ ∃ padded : Padded, "AAB=" = textOf padded) ∧
      ∀ padded : Padded, "AAB=" = textOf padded → ∀ x, base64decode "AAB=" = .ok x → x.length < 4294967296 →
        base64encode x (UInt32.ofNat x.length) = some (textOf padded.cleared) ∧
          (base64encode x (UInt32.ofNat x.length) = some "AAB=" ↔ padded.unused = 0) :=
  base64decode_accepts "AAB=" (by decide)

/-- The size of 2^32 bytes wraps to zero, and nothing of them is encoded again. -/
theorem not_acceptsCanonical_wide {x : List UInt8} (wide : x.length = 4294967296) :
    ¬ AcceptsCanonical (String.ofList ((digits x).map character)) := by
  intro accepts
  have whole : ((digits x).map character).length % 4 = 0 := by
    rw [List.length_map, length_digits]
    omega
  have read : base64decode (String.ofList ((digits x).map character)) = .ok x := by
    rw [base64decode, String.toList_ofList, if_neg (not_not_intro whole), decodeGroups_digits, List.nil_append]
  have again := accepts.2 x read
  -- The loop of the encoder ends at once, and there is nothing behind it.
  have wrapped : UInt32.ofNat x.length = 0 := by rw [wide]; rfl
  have nothing : base64encode x 0 = some "" := rfl
  rw [wrapped, nothing, Option.some.injEq] at again
  have lengths := congrArg (fun text => text.toList.length) again
  simp only [String.toList_ofList, List.length_map, length_digits, wide] at lengths
  simp at lengths

/--
Three kinds of texts that are not encoded again as they were: unused bits that are not zeros, a digit behind a
padding, and more bytes than the size of the encoder can tell.
-/
theorem not_acceptsCanonical_three :
    ¬ AcceptsCanonical "AB==" ∧ ¬ AcceptsCanonical "AA=A" ∧
      ¬ AcceptsCanonical (String.ofList ((digits (List.replicate 4294967296 0)).map character)) := by
  -- The first two are one byte, which is encoded with zeros behind it.
  refine ⟨fun accepts => ?_, fun accepts => ?_, not_acceptsCanonical_wide List.length_replicate⟩
  · exact absurd (accepts.2 [0] rfl) (by decide)
  · exact absurd (accepts.2 [0] rfl) (by decide)

end Utils

end Fms
