import Fms.Relation.Sextets

/-! `Utils::base64encode` and `Utils::base64decode`. -/

namespace Fms

namespace Utils

/-- `kEncodeLookup`. -/
def kEncodeLookup : String := "ABCDEFGHIJKLMNOPQRSTUVWXYZabcdefghijklmnopqrstuvwxyz0123456789+/"

/-- `kPadCharacter`. -/
def kPadCharacter : Char := '='

/-- `kEncodeLookup[index]`; behind the letters stands the end of the text. -/
def letter (index : UInt32) : Char := kEncodeLookup.toList.getD index.toNat '\x00'

/-- The loop of `base64encode` over full groups; nothing where a read is out of bounds or the fuel ends. -/
@[grind =]
def encodeGroups (input : List UInt8) (ee : UInt32) : Nat → UInt32 → String → Option (UInt32 × String)
  | 0, _, _ => none
  | fuel + 1, i, encoded =>
    if i < 3 * ee then do
      let temp := (← input[i.toNat]?).toUInt32 <<< 16
      let i := i + 1
      let temp := temp + (← input[i.toNat]?).toUInt32 <<< 8
      let i := i + 1
      let temp := temp + (← input[i.toNat]?).toUInt32
      let encoded := encoded
        |>.push (letter ((temp &&& 0x00FC0000) >>> 18))
        |>.push (letter ((temp &&& 0x0003F000) >>> 12))
        |>.push (letter ((temp &&& 0x00000FC0) >>> 6))
        |>.push (letter (temp &&& 0x0000003F))
      encodeGroups input ee fuel (i + 1) encoded
    else some (i, encoded)

/-- The bytes behind the last full group. -/
def encodeTail (input : List UInt8) (size i : UInt32) (encoded : String) : Option String :=
  match (size % 3).toNat with
  | 1 => do
    let temp := (← input[i.toNat]?).toUInt32 <<< 16
    return encoded
      |>.push (letter ((temp &&& 0x00FC0000) >>> 18))
      |>.push (letter ((temp &&& 0x0003F000) >>> 12))
      |>.push kPadCharacter
      |>.push kPadCharacter
  | 2 => do
    let temp := (← input[i.toNat]?).toUInt32 <<< 16
    let i := i + 1
    let temp := temp + (← input[i.toNat]?).toUInt32 <<< 8
    return encoded
      |>.push (letter ((temp &&& 0x00FC0000) >>> 18))
      |>.push (letter ((temp &&& 0x0003F000) >>> 12))
      |>.push (letter ((temp &&& 0x00000FC0) >>> 6))
      |>.push kPadCharacter
  | _ => some encoded

/-- `base64encode`; a round of the loop takes three bytes, so the size is fuel enough. -/
def base64encode (input : List UInt8) (size : UInt32) : Option String := do
  let ee := size / 3
  let (i, encoded) ← encodeGroups input ee (size.toNat + 1) 0 ""
  encodeTail input size i encoded

/-- The value of a character of the alphabet, by the branches that recognise it. -/
def sextet (it : Char) : Option UInt32 :=
  if 0x41 ≤ it.toNat ∧ it.toNat ≤ 0x5A then some (UInt32.ofNat (it.toNat - 0x41))
  else if 0x61 ≤ it.toNat ∧ it.toNat ≤ 0x7A then some (UInt32.ofNat (it.toNat - 0x47))
  else if 0x30 ≤ it.toNat ∧ it.toNat ≤ 0x39 then some (UInt32.ofNat (it.toNat + 0x04))
  else if it.toNat = 0x2B then some 0x3E
  else if it.toNat = 0x2F then some 0x3F
  else none

/-- `push_back((temp >> shift) & 0x000000FF)`. -/
def byte (temp shift : UInt32) : UInt8 := ((temp >>> shift) &&& 0x000000FF).toUInt8

/--
The two loops of `base64decode`: `i` counts the characters of a group, `temp` is never reset.

The loops end between two groups, since the length is a multiple of four.
-/
@[grind =]
def decodeGroups : List Char → Nat → UInt32 → List UInt8 → Except String (List UInt8)
  | [], _, _, decoded => .ok decoded
  | it :: rest, i, temp, decoded =>
    let temp := temp <<< 6
    match sextet it with
    | some value =>
      let temp := temp ||| value
      if i = 3 then decodeGroups rest 0 temp (decoded ++ [byte temp 16, byte temp 8, byte temp 0])
      else decodeGroups rest (i + 1) temp decoded
    | none =>
      if it = kPadCharacter then
        -- The distance of the padding from the end.
        match rest.length + 1 with
        | 1 => .ok (decoded ++ [byte temp 16, byte temp 8])
        | 2 => .ok (decoded ++ [byte temp 10])
        | _ => .error "Invalid padding in base64!"
      else .error "Invalid character in base64!"

/-- `base64decode`; the padding it counts first only sizes a reservation. -/
def base64decode (input : String) : Except String (List UInt8) :=
  if input.toList.length % 4 ≠ 0 then .error "Invalid base64 length!"
  else decodeGroups input.toList 0 0 []

open Sextets

/-- The character of a digit, or of the padding. -/
def character : Option (Fin 64) → Char
  | some value => letter (UInt32.ofNat value.val)
  | none => kPadCharacter

/-- A mask of six bits leaves the remainder of the shifted number by 64. -/
theorem masked (number shift : Nat) : (number &&& 63 <<< shift) >>> shift = number >>> shift % 64 := by
  -- A shift commutes with the mask and moves it down to the lowest six bits.
  have low : number >>> shift &&& 63 = number >>> shift % 64 := by
    simpa using Nat.and_two_pow_sub_one_eq_mod (number >>> shift) 6
  rw [Nat.shiftRight_and_distrib, Nat.shiftLeft_shiftRight, low]

/-- An index with the value of a digit selects its character. -/
theorem letter_of_toNat {index : UInt32} {number place : Nat}
    (value : index.toNat = number >>> (6 * place) % 64) :
    letter index = character (some (digit number place)) := by
  -- A digit is below 64, so that the detour through its number loses nothing.
  have bound := (digit number place).isLt
  have same : (UInt32.ofNat (digit number place).val).toNat = (digit number place).val :=
    UInt32.toNat_ofNat_of_lt' (by simp only [UInt32.size]; omega)
  rw [character, letter, letter, same, value, digit_val]

/-- The masks of the encoder cut the digits out of a group. -/
theorem letter_digit (temp : UInt32) :
    letter ((temp &&& 0x00FC0000) >>> 18) = character (some (digit temp.toNat 3)) ∧
      letter ((temp &&& 0x0003F000) >>> 12) = character (some (digit temp.toNat 2)) ∧
      letter ((temp &&& 0x00000FC0) >>> 6) = character (some (digit temp.toNat 1)) ∧
      letter (temp &&& 0x0000003F) = character (some (digit temp.toNat 0)) := by
  -- Each mask selects six bits, and the shift behind it moves them down.
  refine ⟨letter_of_toNat ?_, letter_of_toNat ?_, letter_of_toNat ?_, letter_of_toNat ?_⟩
  · simpa using masked temp.toNat 18
  · simpa using masked temp.toNat 12
  · simpa using masked temp.toNat 6
  · simpa using masked temp.toNat 0

/-- The value of every digit's character is the digit. -/
theorem sextet_character (value : Fin 64) :
    sextet (character (some value)) = some (UInt32.ofNat value.val) := by
  -- There are sixty-four digits to look at.
  revert value
  decide +kernel

/-- The padding is no digit. -/
theorem sextet_pad : sextet kPadCharacter = none := by decide

/-- Three bytes are added up to their group. -/
theorem toNat_group (a b c : UInt8) :
    (a.toUInt32 <<< 16 + b.toUInt32 <<< 8 + c.toUInt32).toNat = group a b c := by
  -- The bytes keep apart and stay below 2^24, so that neither a shift nor a sum wraps.
  have first := a.toNat_lt
  have second := b.toNat_lt
  have third := c.toNat_lt
  simp [group, Nat.shiftLeft_eq]
  omega

/-- A shift makes room for a digit; the highest bits are lost. -/
theorem toNat_shift (temp : UInt32) : (temp <<< 6).toNat = temp.toNat % 67108864 * 64 := by
  -- Six bits fall off at the top, which is a remainder by 2^26.
  simp [Nat.shiftLeft_eq]
  omega

/-- A digit is put in behind what the number holds. -/
theorem toNat_push (temp : UInt32) (value : Fin 64) :
    (temp <<< 6 ||| UInt32.ofNat value.val).toNat = temp.toNat % 67108864 * 64 + value.val := by
  -- The six lowest bits are free after the shift, so putting the digit in is adding it.
  have bound := value.isLt
  have same : (UInt32.ofNat value.val).toNat = value.val :=
    UInt32.toNat_ofNat_of_lt' (by simp only [UInt32.size]; omega)
  have shifted : (temp <<< 6).toNat = (temp.toNat % 67108864) <<< 6 := by
    rw [toNat_shift, Nat.shiftLeft_eq]
  rw [UInt32.toNat_or, shifted, same, ← Nat.shiftLeft_add_eq_or_of_lt (by omega), Nat.shiftLeft_eq]

/-- The byte at a shift. -/
theorem toNat_byte (temp shift : UInt32) (small : shift.toNat < 32) :
    (byte temp shift).toNat = temp.toNat >>> shift.toNat % 256 := by
  -- The mask of eight bits is a remainder by 256, and the cast keeps it.
  have cut : ∀ number : Nat, number &&& 255 = number % 256 := fun number => by
    simpa using Nat.and_two_pow_sub_one_eq_mod number 8
  simp [byte, cut, Nat.shiftRight_eq_div_pow, Nat.mod_eq_of_lt small]

/-- The multiple of a third of a size is computed without overflow. -/
theorem toNat_groups (size : UInt32) : (3 * (size / 3)).toNat = size.toNat / 3 * 3 := by
  have bound := size.toNat_lt
  simp only [UInt32.toNat_mul, UInt32.toNat_div, UInt32.reduceToNat]
  omega

/-- The next index, where it does not wrap. -/
theorem toNat_next {i : UInt32} (room : i.toNat + 1 < 4294967296) : (i + 1).toNat = i.toNat + 1 := by
  simp only [UInt32.toNat_add, UInt32.reduceToNat]
  omega

/-- A round of the loop appends the characters of three bytes. -/
theorem encodeGroups_step {input : List UInt8} {ee i : UInt32} {a b c : UInt8} (more : i < 3 * ee)
    (first : input[i.toNat]? = some a) (second : input[(i + 1).toNat]? = some b)
    (third : input[(i + 1 + 1).toNat]? = some c) (fuel : Nat) (encoded : String) :
    encodeGroups input ee (fuel + 1) i encoded =
      encodeGroups input ee fuel (i + 1 + 1 + 1) (encoded ++ String.ofList ([some (digit (group a b c) 3),
        some (digit (group a b c) 2), some (digit (group a b c) 1), some (digit (group a b c) 0)].map
        character)) := by
  obtain ⟨high, upper, lower, low⟩ := letter_digit (a.toUInt32 <<< 16 + b.toUInt32 <<< 8 + c.toUInt32)
  rw [toNat_group] at high upper lower low
  -- All three reads are in bounds, so that the round goes through to its four characters.
  rw [encodeGroups, if_pos more]
  simp only [first, second, third, Option.bind_eq_bind, Option.bind_some, high, upper, lower, low]
  congr 1
  exact String.toList_inj.mp (by simp)

/-- One byte left over is written with two digits. -/
theorem encodeTail_one {input : List UInt8} {size i : UInt32} {a : UInt8} (tail : (size % 3).toNat = 1)
    (first : input[i.toNat]? = some a) (encoded : String) :
    encodeTail input size i encoded = some (encoded ++ String.ofList ((digits [a]).map character)) := by
  obtain ⟨high, upper, _, _⟩ := letter_digit (a.toUInt32 <<< 16)
  -- The two bytes that are not there count as zeros.
  have value : (a.toUInt32 <<< 16).toNat = group a 0 0 := by simpa using toNat_group a 0 0
  rw [value] at high upper
  simp only [encodeTail, tail, first, Option.bind_eq_bind, Option.bind_some, high, upper]
  exact congrArg some (String.toList_inj.mp (by simp [digits, character]))

/-- Two bytes left over are written with three digits. -/
theorem encodeTail_two {input : List UInt8} {size i : UInt32} {a b : UInt8} (tail : (size % 3).toNat = 2)
    (first : input[i.toNat]? = some a) (second : input[(i + 1).toNat]? = some b) (encoded : String) :
    encodeTail input size i encoded = some (encoded ++ String.ofList ((digits [a, b]).map character)) := by
  obtain ⟨high, upper, lower, _⟩ := letter_digit (a.toUInt32 <<< 16 + b.toUInt32 <<< 8)
  -- The byte that is not there counts as a zero.
  have value : (a.toUInt32 <<< 16 + b.toUInt32 <<< 8).toNat = group a b 0 := by
    simpa using toNat_group a b 0
  rw [value] at high upper lower
  simp only [encodeTail, tail, first, second, Option.bind_eq_bind, Option.bind_some, high, upper, lower]
  exact congrArg some (String.toList_inj.mp (by simp [digits, character]))

/-- From the start of a group on, the encoder appends the characters of the bytes that are left. -/
theorem encodeGroups_tail {input front rest : List UInt8} {size : UInt32} (split : input = front ++ rest)
    (whole : input.length = size.toNat) (aligned : front.length % 3 = 0) {fuel : Nat} {i : UInt32}
    (index : i.toNat = front.length) (enough : rest.length < fuel + 1) (encoded : String) :
    (encodeGroups input (size / 3) (fuel + 1) i encoded).bind
        (fun state => encodeTail input size state.1 state.2) =
      some (encoded ++ String.ofList ((digits rest).map character)) := by
  have bound := size.toNat_lt
  have more : i < 3 * (size / 3) ↔ i.toNat < size.toNat / 3 * 3 := by
    rw [UInt32.lt_iff_toNat_lt, toNat_groups]
  have remainder : (size % 3).toNat = size.toNat % 3 := by simp
  have lengths : front.length + rest.length = size.toNat := by
    rw [← whole, split, List.length_append]
  -- By the groups of the bytes that are left; the characters written so far stay arbitrary.
  induction rest using digits.induct generalizing front fuel i encoded with
  | case1 =>
    -- Nothing is left: the loop ends here, and the size is a multiple of three.
    rw [List.length_nil] at lengths
    have tail : (size % 3).toNat = 0 := by omega
    rw [encodeGroups, if_neg (by rw [more]; omega)]
    simp [encodeTail, tail, digits]
  | case2 a =>
    -- Fewer than three bytes are left, so the loop ends here and the tail writes them.
    rw [List.length_singleton] at lengths
    have first : input[i.toNat]? = some a := by simp [split, index]
    rw [encodeGroups, if_neg (by rw [more]; omega), Option.bind_some]
    exact encodeTail_one (by omega) first encoded
  | case3 a b =>
    simp only [List.length_cons, List.length_nil] at lengths
    have next : (i + 1).toNat = i.toNat + 1 := toNat_next (by omega)
    have first : input[i.toNat]? = some a := by simp [split, index]
    have second : input[(i + 1).toNat]? = some b := by rw [next]; simp [split, index]
    rw [encodeGroups, if_neg (by rw [more]; omega), Option.bind_some]
    exact encodeTail_two (by omega) first second encoded
  | case4 a b c rest ih =>
    simp only [List.length_cons] at lengths enough
    -- None of the three increments wraps, since the size does not.
    have next : (i + 1).toNat = i.toNat + 1 := toNat_next (by omega)
    have last : (i + 1 + 1).toNat = i.toNat + 2 := by rw [toNat_next (by omega), next]
    have behind : (i + 1 + 1 + 1).toNat = (front ++ [a, b, c]).length := by
      rw [toNat_next (by omega), last, index, List.length_append]
      rfl
    have first : input[i.toNat]? = some a := by simp [split, index]
    have second : input[(i + 1).toNat]? = some b := by rw [next]; simp [split, index]
    have third : input[(i + 1 + 1).toNat]? = some c := by rw [last]; simp [split, index]
    cases fuel with
    | zero => omega
    | succ fuel =>
      rw [encodeGroups_step (by rw [more]; omega) first second third,
        ih (by simp [split]) (by simp; omega) behind (by omega) _
          (by rw [UInt32.lt_iff_toNat_lt, toNat_groups]) (by simp; omega)]
      exact congrArg some (String.toList_inj.mp (by simp [digits]))

/-- The encoding is made of the characters of the digits. -/
theorem base64encode_eq {x : List UInt8} (bound : x.length < 4294967296) :
    base64encode x (UInt32.ofNat x.length) = some (String.ofList ((digits x).map character)) := by
  have whole : x.length = (UInt32.ofNat x.length).toNat := (UInt32.toNat_ofNat_of_lt' bound).symm
  -- The whole text is what is left in front of the first group.
  have run := @encodeGroups_tail x [] x _ rfl whole rfl x.length 0 rfl (by omega) ""
  rw [String.empty_append] at run
  rw [← run, base64encode, ← whole]
  rfl

/-- The lowest twenty-four bits are three bytes. -/
theorem bytes_of_group {a b c : UInt8} {temp : UInt32} (value : temp.toNat % 16777216 = group a b c) :
    byte temp 16 = a ∧ byte temp 8 = b ∧ byte temp 0 = c := by
  have first := a.toNat_lt
  have second := b.toNat_lt
  have third := c.toNat_lt
  -- What the number holds above its lowest twenty-four bits is cut off by each byte.
  unfold group at value
  refine ⟨UInt8.toNat_inj.mp ?_, UInt8.toNat_inj.mp ?_, UInt8.toNat_inj.mp ?_⟩
  · rw [toNat_byte temp 16 (by decide)]
    simp only [UInt32.reduceToNat]
    omega
  · rw [toNat_byte temp 8 (by decide)]
    simp only [UInt32.reduceToNat]
    omega
  · rw [toNat_byte temp 0 (by decide)]
    simp only [UInt32.reduceToNat]
    omega

/-- A digit before the fourth is put into the number. -/
theorem decodeGroups_digit (value : Fin 64) (rest : List Char) {i : Nat} (early : i ≠ 3) (temp : UInt32)
    (decoded : List UInt8) :
    decodeGroups (character (some value) :: rest) i temp decoded =
      decodeGroups rest (i + 1) (temp <<< 6 ||| UInt32.ofNat value.val) decoded := by
  simp only [decodeGroups, sextet_character, if_neg early]

/-- The first two digits of a group are put into the number. -/
theorem decodeGroups_two (a b : Fin 64) (rest : List Char) (temp : UInt32) (decoded : List UInt8) :
    decodeGroups (character (some a) :: character (some b) :: rest) 0 temp decoded =
      decodeGroups rest 2 ((temp <<< 6 ||| UInt32.ofNat a.val) <<< 6 ||| UInt32.ofNat b.val) decoded := by
  rw [decodeGroups_digit a _ (by decide), decodeGroups_digit b _ (by decide)]

/-- So is the third one, before the fourth is looked at. -/
theorem decodeGroups_three (a b c : Fin 64) (rest : List Char) (temp : UInt32) (decoded : List UInt8) :
    decodeGroups (character (some a) :: character (some b) :: character (some c) :: rest) 0 temp decoded =
      decodeGroups rest 3 (((temp <<< 6 ||| UInt32.ofNat a.val) <<< 6 ||| UInt32.ofNat b.val) <<< 6 |||
        UInt32.ofNat c.val) decoded := by
  rw [decodeGroups_two, decodeGroups_digit c _ (by decide)]

/-- From the start of a group on, the decoder appends the bytes whose characters are left. -/
theorem decodeGroups_digits (x : List UInt8) (temp : UInt32) (decoded : List UInt8) :
    decodeGroups ((digits x).map character) 0 temp decoded = .ok (decoded ++ x) := by
  -- By the groups, as they were encoded; the number may hold anything from the groups before.
  induction x using digits.induct generalizing temp decoded with
  | case1 => simp [digits, decodeGroups]
  | case2 a =>
    simp only [digits, List.map_cons, List.map_nil]
    rw [decodeGroups_two]
    generalize held : (temp <<< 6 ||| UInt32.ofNat (digit (group a 0 0) 3).val) <<< 6 |||
      UInt32.ofNat (digit (group a 0 0) 2).val = number
    -- The padding comes after a third shift, two characters before the end.
    have first : byte (number <<< 6) 10 = a := by
      have small := a.toNat_lt
      apply UInt8.toNat_inj.mp
      rw [toNat_byte _ _ (by decide), toNat_shift, ← held, toNat_push, toNat_push]
      simp only [digit_val, group, UInt32.reduceToNat, UInt8.reduceToNat]
      omega
    simp [decodeGroups, character, sextet_pad, first]
  | case3 a b =>
    simp only [digits, List.map_cons, List.map_nil]
    rw [decodeGroups_three]
    generalize held : ((temp <<< 6 ||| UInt32.ofNat (digit (group a b 0) 3).val) <<< 6 |||
      UInt32.ofNat (digit (group a b 0) 2).val) <<< 6 |||
      UInt32.ofNat (digit (group a b 0) 1).val = number
    -- The padding comes after the fourth shift, at the end.
    have value : (number <<< 6).toNat % 16777216 = group a b 0 := by
      have bound := group_lt a b 0
      have second := b.toNat_lt
      rw [toNat_shift, ← held, toNat_push, toNat_push, toNat_push]
      simp only [digit_val, group, UInt8.reduceToNat] at bound ⊢
      omega
    obtain ⟨first, second, _⟩ := bytes_of_group value
    simp [decodeGroups, character, sextet_pad, first, second]
  | case4 a b c rest ih =>
    have bound := group_lt a b c
    simp only [digits, List.map_cons]
    rw [decodeGroups_three, decodeGroups]
    generalize held : ((temp <<< 6 ||| UInt32.ofNat (digit (group a b c) 3).val) <<< 6 |||
      UInt32.ofNat (digit (group a b c) 2).val) <<< 6 |||
      UInt32.ofNat (digit (group a b c) 1).val = number
    -- Whatever the earlier groups have left stands above the lowest twenty-four bits.
    have value : (number <<< 6 ||| UInt32.ofNat (digit (group a b c) 0).val).toNat % 16777216 =
        group a b c := by
      rw [toNat_push, ← held, toNat_push, toNat_push, toNat_push]
      simp only [digit_val]
      omega
    obtain ⟨first, second, third⟩ := bytes_of_group value
    simp only [sextet_character, if_true, first, second, third]
    rw [ih]
    simp

/-- Every vector of bytes of a size below 2^32 is read back from its encoding, of four characters a group. -/
theorem base64decode_base64encode (x : List UInt8) (bound : x.length < 4294967296) :
    ∃ encoded, base64encode x (UInt32.ofNat x.length) = some encoded ∧ base64decode encoded = .ok x ∧
      encoded.toList.length = 4 * ((x.length + 2) / 3) := by
  have length : ((digits x).map character).length = 4 * ((x.length + 2) / 3) := by
    rw [List.length_map, length_digits]
  refine ⟨String.ofList ((digits x).map character), base64encode_eq bound, ?_,
    by rw [String.toList_ofList, length]⟩
  -- The decoder asks for a length that is a multiple of four.
  have whole : ((digits x).map character).length % 4 = 0 := by omega
  rw [base64decode, String.toList_ofList, if_neg (by simp only [whole]; decide), decodeGroups_digits,
    List.nil_append]

/-- Four bytes, of which the last begins a second group. -/
theorem base64decode_base64encode_four :
    ∃ encoded, base64encode [77, 97, 110, 255] 4 = some encoded ∧
      base64decode encoded = .ok [77, 97, 110, 255] ∧ encoded.toList.length = 8 :=
  base64decode_base64encode [77, 97, 110, 255] (by decide)

end Utils

end Fms
