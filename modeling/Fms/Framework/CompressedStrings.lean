import Mathlib.Data.List.Basic

/-! `Utils::CompressedString`, which keeps a text as a gzip stream in a buffer of the text's own size. -/

namespace Fms

/-- The bytes of a `std::string`. -/
abbrev Bytes := List UInt8

/-- What the framework takes from the streams of the zlib library. -/
structure Zlib where
  /-- The gzip stream that `deflate` makes of some data. -/
  gzip : Bytes → Bytes
  /-- The data that `inflate` restores from as much of a stream as it is given. -/
  restored : Bytes → Bytes
  /-- A whole stream is restored. -/
  restored_gzip : ∀ data, restored (gzip data) = data
  /-- A front of a stream restores a front of the data. -/
  restored_take : ∀ data n, restored ((gzip data).take n) <+: data

namespace Zlib

variable (zlib : Zlib)

/-- `deflate` with `Z_FINISH` on a fresh stream: what it writes into the space it is given. -/
def deflate (input : Bytes) (avail_out : Nat) : Bytes := (zlib.gzip input).take avail_out

/-- `inflate` with `Z_FINISH` on a fresh stream: what it writes into the space it is given. -/
def inflate (input : Bytes) (avail_out : Nat) : Bytes := (zlib.restored input).take avail_out

end Zlib

namespace Utils

/-- A size as a member of `z_stream` holds it. -/
def uInt (size : Nat) : Nat := size % 4294967296

/-- `std::string::resize`. -/
def resize (text : Bytes) (size : Nat) : Bytes := text.take size ++ List.replicate (size - text.length) 0

/-- A buffer whose front has been written. -/
def overwrite (buffer written : Bytes) : Bytes := written ++ buffer.drop written.length

/-- `CompressedString`. -/
structure CompressedString where
  compressedData : Bytes
  decompressedSize : Nat
  deriving DecidableEq, Repr

namespace CompressedString

variable (zlib : Zlib)

/-- `CompressIt`. -/
def compressIt (self : CompressedString) (data : Bytes) : CompressedString :=
  let buffer := resize self.compressedData data.length
  let written := zlib.deflate (data.take (uInt data.length)) (uInt data.length)
  { self with compressedData := resize (overwrite buffer written) written.length }

/-- `DecompressIt`. -/
def decompressIt (self : CompressedString) : Bytes :=
  if self.decompressedSize ≠ 0 then
    let result := resize [] self.decompressedSize
    let input := self.compressedData.take (uInt self.compressedData.length)
    overwrite result (zlib.inflate input (uInt result.length))
  else []

/-- The constructor from a string. -/
def ofString (data : Bytes) : CompressedString :=
  compressIt zlib { compressedData := [], decompressedSize := data.length } data

/-- The assignment of a string. -/
def assign (self : CompressedString) (data : Bytes) : CompressedString :=
  compressIt zlib { self with decompressedSize := data.length } data

variable {zlib}

/-- The compressed data of a string is what fits of its stream into as many bytes as the string has. -/
theorem compressedData_compressIt (self : CompressedString) (data : Bytes) :
    (compressIt zlib self data).compressedData =
      (zlib.gzip (data.take (uInt data.length))).take (uInt data.length) := by
  -- The buffer is cut down to what has been written.
  simp [compressIt, overwrite, resize, Zlib.deflate]

/-- The data that has been restored from the stream of a string by the space of the string. -/
def restoredFront (zlib : Zlib) (data : Bytes) : Bytes :=
  zlib.restored ((zlib.gzip (data.take (uInt data.length))).take (uInt data.length))

/-- What is restored is a front of the string. -/
theorem restoredFront_startsWith (data : Bytes) : restoredFront zlib data <+: data :=
  (zlib.restored_take _ _).trans (List.take_prefix _ _)

/-- What comes back is what has been restored, and zeros behind it. -/
theorem decompressIt_assign (self : CompressedString) (data : Bytes) :
    decompressIt zlib (assign zlib self data) =
      restoredFront zlib data ++ List.replicate (data.length - (restoredFront zlib data).length) 0 := by
  -- The result has the size of the string, and no more of it is written than there is of the string.
  have front : (restoredFront zlib data).length ≤ uInt data.length :=
    Nat.le_trans (zlib.restored_take _ _).length_le (List.length_take_le _ _)
  have stored : ((zlib.gzip (data.take (uInt data.length))).take (uInt data.length)).length ≤ uInt data.length :=
    List.length_take_le _ _
  have small : uInt data.length < 4294967296 := Nat.mod_lt _ (by decide)
  have size : (assign zlib self data).decompressedSize = data.length := rfl
  unfold decompressIt
  rw [size, assign, compressedData_compressIt]
  by_cases empty : data.length = 0
  · obtain rfl := List.length_eq_zero_iff.mp empty
    have none : restoredFront zlib [] = [] := List.prefix_nil.mp (restoredFront_startsWith [])
    simp [none]
  · have fits : uInt ((zlib.gzip (data.take (uInt data.length))).take (uInt data.length)).length =
        ((zlib.gzip (data.take (uInt data.length))).take (uInt data.length)).length :=
      Nat.mod_eq_of_lt (by omega)
    have written : zlib.inflate ((zlib.gzip (data.take (uInt data.length))).take (uInt data.length))
        (uInt data.length) = restoredFront zlib data := List.take_of_length_le front
    rw [if_pos empty]
    dsimp only
    rw [fits, List.take_length]
    simp [resize, overwrite, written]

/-- A string comes back from the object it is put into, by the constructor and by an assignment. -/
def ComesBack (zlib : Zlib) (data : Bytes) : Prop :=
  decompressIt zlib (ofString zlib data) = data ∧ ∀ self, decompressIt zlib (assign zlib self data) = data

/-- All of a string is restored but zeros at its end. -/
def RestoredToZeros (zlib : Zlib) (data : Bytes) : Prop :=
  ∀ byte ∈ data.drop (restoredFront zlib data).length, byte = 0

/-- A front of a string with zeros behind it is the string exactly where the rest of it is made of zeros. -/
theorem append_zeros_iff {front data : Bytes} (starts : front <+: data) :
    front ++ List.replicate (data.length - front.length) 0 = data ↔
      ∀ byte ∈ data.drop front.length, byte = 0 := by
  -- The rest of the string has the length of the zeros.
  obtain ⟨rest, rfl⟩ := starts
  rw [List.drop_left, List.length_append, Nat.add_sub_cancel_left, List.append_cancel_left_eq]
  constructor
  · intro zeros byte member
    rw [← zeros] at member
    exact List.eq_of_mem_replicate member
  · intro zeros
    exact (List.eq_replicate_of_mem zeros).symm

/-- A string comes back exactly where all of it is restored but zeros at its end. -/
theorem comesBack_iff (zlib : Zlib) (data : Bytes) : ComesBack zlib data ↔ RestoredToZeros zlib data := by
  -- The constructor is the assignment to an empty object.
  have back : ∀ self, decompressIt zlib (assign zlib self data) = data ↔ RestoredToZeros zlib data := by
    intro self
    rw [decompressIt_assign]
    exact append_zeros_iff (restoredFront_startsWith data)
  have built : ofString zlib data = assign zlib { compressedData := [], decompressedSize := 0 } data := rfl
  unfold ComesBack
  rw [built, back]
  exact and_iff_left_of_imp fun restored self => (back self).mpr restored

/-- Everything is restored from a stream that is no longer than its string. -/
theorem restoredToZeros_of_fits {data : Bytes} (small : data.length < 4294967296)
    (fits : (zlib.gzip data).length ≤ data.length) : RestoredToZeros zlib data := by
  -- The whole stream has been kept, and nothing is left of the string.
  have size : uInt data.length = data.length := Nat.mod_eq_of_lt small
  have whole : restoredFront zlib data = data := by
    rw [restoredFront, size, List.take_length, List.take_of_length_le fits, zlib.restored_gzip]
  intro byte member
  simp [whole] at member

/-- The stream of the text `a`, and a code that stands for the streams of other texts. -/
def encodeStream (data : Bytes) : Bytes :=
  [0x1f, 0x8b, 0x08, 0x00, 0x00, 0x00, 0x00, 0x00, 0x00, 0x03] ++
    if data = [0x61] then [0x4b, 0x04, 0x00, 0x43, 0xbe, 0xb7, 0xe8, 0x01, 0x00, 0x00, 0x00]
    else data.flatMap fun byte => [0x01, byte]

/-- The bytes behind the header of a stream, as far as they are complete. -/
def decodeBody : Bytes → Bytes
  | 0x4b :: 0x04 :: 0x00 :: _ => [0x61]
  | 0x01 :: byte :: rest => byte :: decodeBody rest
  | _ => []

/-- The code of some bytes is decoded to them. -/
theorem decodeBody_code (data : Bytes) : decodeBody (data.flatMap fun byte => [0x01, byte]) = data := by
  induction data with
  | nil => rfl
  | cons byte rest ih => simp [decodeBody, ih]

/-- A front of the code of some bytes is decoded to a front of them. -/
theorem decodeBody_take_code (data : Bytes) (n : Nat) :
    decodeBody ((data.flatMap fun byte => [0x01, byte]).take n) <+: data := by
  -- Half of a pair is not decoded.
  induction data generalizing n with
  | nil => simp [decodeBody]
  | cons byte rest ih =>
    match n with
    | 0 => simp [decodeBody]
    | 1 => simp [decodeBody]
    | n + 2 => simpa [decodeBody] using ih n

/-- A front of the stream of the text `a` is decoded to the text, or to nothing. -/
theorem decodeBody_take_short (n : Nat) :
    decodeBody (([0x4b, 0x04, 0x00, 0x43, 0xbe, 0xb7, 0xe8, 0x01, 0x00, 0x00, 0x00] : Bytes).take n) <+:
      [0x61] := by
  -- Three bytes are needed for the letter.
  match n with
  | 0 => simp [decodeBody]
  | 1 => simp [decodeBody]
  | 2 => simp [decodeBody]
  | n + 3 => simp [decodeBody]

/-- A library with the stream of the text `a`. -/
def shortZlib : Zlib where
  gzip := encodeStream
  restored stream := decodeBody (stream.drop 10)
  restored_gzip data := by
    by_cases short : data = [0x61]
    · subst short
      decide
    · simp [encodeStream, short, decodeBody_code]
  restored_take data n := by
    rw [List.drop_take]
    by_cases short : data = [0x61]
    · subst short
      exact decodeBody_take_short (n - 10)
    · simpa [encodeStream, short] using decodeBody_take_code data (n - 10)

/-- The stream of the text `a` is longer than the text, of which nothing is restored. -/
theorem short_text_lost : ¬ ComesBack shortZlib [0x61] := by
  intro back
  exact absurd back.1 (by decide)

end CompressedString

end Utils

end Fms
