import Mathlib.Data.List.TakeWhile

/-! `Utils::ExtractBase64CompressedData`, which tries growing buffers until a payload fits. -/

namespace Fms

/-- What `uncompress` of the zlib library returns, with the bytes it has written. -/
inductive Uncompressed where
  /-- `Z_OK`: the payload stands at the front of the buffer. -/
  | ok (payload : List UInt8)
  /-- `Z_BUF_ERROR`. -/
  | bufError
  /-- Any other status. -/
  | failed
  deriving DecidableEq, Repr

/-- What the framework takes from the decoder of the Poco library and from `uncompress`. -/
structure Decompressor where
  /-- The bytes that `Poco::Base64Decoder` reads from a text. -/
  decode : String → List UInt8
  /-- `uncompress` of a source into a buffer of some size. -/
  uncompress : Nat → List UInt8 → Uncompressed
  /-- A stream is the compression of some data. -/
  IsStream : List UInt8 → List UInt8 → Prop
  /-- A stream is uncompressed where the buffer suffices, and only there. -/
  uncompress_stream : ∀ stream data size, IsStream stream data →
    uncompress size stream = if data.length ≤ size then .ok data else .bufError

namespace Utils

/-- How a call of `ExtractBase64CompressedData` ends. -/
inductive Extraction where
  /-- It returns, with what it has stored in `UnCompressedData`. -/
  | returned (result : Bool) (unCompressedData : Option (List UInt8))
  /-- `std::length_error` of a buffer that no vector can be. -/
  | thrown
  /-- The buffer is indexed out of its bounds. -/
  | outside
  deriving DecidableEq, Repr

/-- The greatest size of a `std::vector<uint8_t>`. -/
def maxVector : Nat := 9223372036854775807

/-- A size as an `unsigned long` holds it. -/
def unsignedLong (size : Nat) : Nat := size % 18446744073709551616

variable (zlib : Decompressor)

/-- The loop of `ExtractBase64CompressedData`, before it makes a buffer. -/
def extractLoop (source : List UInt8) (factor maxSize : Nat) : Extraction :=
  if maxVector < maxSize then .thrown
  else if maxSize = 0 then .outside
  else
    match zlib.uncompress maxSize source with
    | .ok payload =>
      let uncompressedBuffer := payload ++ List.replicate (maxSize - payload.length) 0
      let finalSize := payload.length
      if finalSize < maxSize then
        -- The buffer is read as a C string, which ends at its first zero.
        .returned true (some ((uncompressedBuffer.set finalSize 0).takeWhile (· ≠ 0)))
      else .outside
    | .bufError =>
      if factor < 300 then extractLoop source (factor + 10) (unsignedLong (source.length * (factor + 10)))
      else .returned false none
    | .failed => .returned false none
termination_by 300 - factor

/-- `ExtractBase64CompressedData`. -/
def extractBase64CompressedData (compressedData : String) (compress_sz : UInt64) : Extraction :=
  let source := zlib.decode compressedData
  let maxSize :=
    if compress_sz ≠ 0 then unsignedLong (compress_sz.toNat + 5000) else unsignedLong (source.length * 20)
  extractLoop zlib source 20 maxSize

/-- The sizes of the buffers that are tried, one after the other. -/
def triedSizes (source : List UInt8) (compress_sz : UInt64) : List Nat :=
  (if compress_sz ≠ 0 then unsignedLong (compress_sz.toNat + 5000) else unsignedLong (source.length * 20)) ::
    (List.range 28).map fun round => unsignedLong (source.length * (30 + 10 * round))

/-- A size ends the loop: the data fits, or there is no such buffer to index. -/
def Ends (data : List UInt8) (size : Nat) : Bool := maxVector < size || size = 0 || data.length ≤ size

/-- A size may end the loop: no vector has it, or it holds more than the data, of which no byte is zero. -/
def Suitable (data : List UInt8) (size : Nat) : Prop :=
  maxVector < size ∨ size ≠ 0 ∧ data.length < size ∧ 0 ∉ data

/-- The first size that ends the loop is suitable to do so. -/
def Extractable (data : List UInt8) (sizes : List Nat) : Prop :=
  ∀ size, sizes.find? (Ends data) = some size → Suitable data size

variable {zlib}

/-- A text in front of a zero is read up to its own first zero. -/
theorem takeWhile_append_zero (payload rest : List UInt8) :
    (payload ++ 0 :: rest).takeWhile (· ≠ 0) = payload.takeWhile (· ≠ 0) := by
  -- By the bytes of the text, up to its first zero.
  induction payload with
  | nil => simp
  | cons byte payload ih =>
    by_cases zero : byte = 0
    · simp [zero]
    · simpa [zero] using ih

/-- The buffer with a payload, read as a C string, gives the payload up to its first zero. -/
theorem takeWhile_buffer {payload : List UInt8} {size : Nat} (room : payload.length < size) :
    ((payload ++ List.replicate (size - payload.length) 0).set payload.length 0).takeWhile (· ≠ 0) =
      payload.takeWhile (· ≠ 0) := by
  -- The terminator stands behind the payload.
  obtain ⟨more, size_⟩ : ∃ more, size - payload.length = more + 1 := ⟨size - payload.length - 1, by omega⟩
  rw [size_, List.replicate_succ, List.set_append_right _ _ (Nat.le_refl _), Nat.sub_self, List.set_cons_zero]
  exact takeWhile_append_zero payload _

/-- A text without a zero is read to its end, and any other one is not. -/
theorem takeWhile_eq_self_iff {payload : List UInt8} :
    payload.takeWhile (· ≠ 0) = payload ↔ 0 ∉ payload := by
  -- The bytes of a text that is read to its end are all different from zero.
  rw [List.takeWhile_eq_self_iff]
  constructor
  · intro free zero
    simpa using free 0 zero
  · intro free byte member
    have other : byte ≠ 0 := fun zero => free (zero ▸ member)
    simpa using other

/-- One round of the loop over a stream. -/
theorem extractLoop_stream {stream data : List UInt8} (compressed : zlib.IsStream stream data)
    (factor size : Nat) :
    extractLoop zlib stream factor size =
      if maxVector < size then .thrown
      else if size = 0 then .outside
      else if data.length < size then .returned true (some (data.takeWhile (· ≠ 0)))
      else if data.length = size then .outside
      else if factor < 300 then
        extractLoop zlib stream (factor + 10) (unsignedLong (stream.length * (factor + 10)))
      else .returned false none := by
  rw [extractLoop, zlib.uncompress_stream stream data size compressed]
  by_cases huge : maxVector < size
  · rw [if_pos huge, if_pos huge]
  · rw [if_neg huge, if_neg huge]
    by_cases none_ : size = 0
    · rw [if_pos none_, if_pos none_]
    · -- A buffer that is not too small holds the data, and the terminator needs one byte more.
      rw [if_neg none_, if_neg none_]
      by_cases fits : data.length ≤ size
      · rw [if_pos fits]
        by_cases room : data.length < size
        · simp only [room, if_true, takeWhile_buffer room]
        · rw [if_neg room, if_pos (show data.length = size by omega)]
          simp only [room, if_false]
      · have short : size < data.length := Nat.not_le.mp fits
        rw [if_neg fits, if_neg (by omega : ¬ data.length < size), if_neg (by omega : ¬ data.length = size)]

/-- An outcome is right: no index leaves the buffer, and a string that is returned is the whole of the data. -/
def IsRight (data : List UInt8) (outcome : Extraction) : Prop :=
  outcome ≠ .outside ∧ ∀ stored, outcome = .returned true stored → stored = some data

/-- A round that ends the loop is right exactly where its size is suitable. -/
theorem right_of_ends {stream data : List UInt8} (compressed : zlib.IsStream stream data) {factor size : Nat}
    (ends : Ends data size = true) :
    IsRight data (extractLoop zlib stream factor size) ↔ Suitable data size := by
  -- By the reason that ends the loop.
  simp only [Ends, Bool.or_eq_true, decide_eq_true_eq] at ends
  rw [extractLoop_stream compressed]
  unfold Suitable
  by_cases huge : maxVector < size
  · simp [huge, IsRight]
  · by_cases none_ : size = 0
    · simp [none_, IsRight]
    · by_cases room : data.length < size
      · -- The string that is returned ends at the first zero of the data.
        simp [huge, none_, room, IsRight, ← takeWhile_eq_self_iff]
      · have full : data.length = size := by omega
        simp [huge, none_, full, IsRight]

/-- A round that does not end the loop tries the next size, if there is one. -/
theorem extractLoop_goes_on {stream data : List UInt8} (compressed : zlib.IsStream stream data) {factor size : Nat}
    (more : Ends data size = false) : extractLoop zlib stream factor size =
      if factor < 300 then
        extractLoop zlib stream (factor + 10) (unsignedLong (stream.length * (factor + 10)))
      else .returned false none := by
  -- The buffer has been too small.
  simp only [Ends, Bool.or_eq_false_iff, decide_eq_false_iff_not] at more
  obtain ⟨⟨bounded, some_⟩, small⟩ := more
  rw [extractLoop_stream compressed, if_neg bounded, if_neg some_, if_neg (by omega : ¬ data.length < size),
    if_neg (by omega : ¬ data.length = size)]

/-- The loop is right over the sizes it has left exactly where the one that ends it is suitable. -/
theorem right_extractLoop_iff {stream data : List UInt8} (compressed : zlib.IsStream stream data) (rounds : Nat) :
    ∀ factor size, factor + 10 * rounds = 300 →
      (IsRight data (extractLoop zlib stream factor size) ↔
        Extractable data (size :: (List.range rounds).map fun round =>
          unsignedLong (stream.length * (factor + 10 + 10 * round)))) := by
  -- By the rounds that are left, which the factor counts.
  induction rounds with
  | zero =>
    intro factor size left
    cases ends : Ends data size with
    | true => simp [right_of_ends compressed ends, Extractable, ends]
    | false =>
      rw [extractLoop_goes_on compressed ends, if_neg (by omega)]
      simp [IsRight, Extractable, ends]
  | succ rounds ih =>
    intro factor size left
    cases ends : Ends data size with
    | true => simp [right_of_ends compressed ends, Extractable, ends]
    | false =>
      rw [extractLoop_goes_on compressed ends, if_pos (by omega), ih _ _ (by omega)]
      have shifted : ∀ round, factor + 10 + 10 + 10 * round = factor + 10 + 10 * (round + 1) := by omega
      simp [Extractable, ends, List.range_succ_eq_map, Function.comp_def, shifted]

/-- What is said of a call: over a stream of some data, it is right. -/
def ExtractsWhole (zlib : Decompressor) (compressedData : String) (compress_sz : UInt64)
    (data : List UInt8) : Prop :=
  zlib.IsStream (zlib.decode compressedData) data →
    IsRight data (extractBase64CompressedData zlib compressedData compress_sz)

/-- A call is right exactly where the size that ends its loop is suitable. -/
theorem extractsWhole_iff (zlib : Decompressor) (compressedData : String) (compress_sz : UInt64)
    (data : List UInt8) : ExtractsWhole zlib compressedData compress_sz data ↔
      (zlib.IsStream (zlib.decode compressedData) data →
        Extractable data (triedSizes (zlib.decode compressedData) compress_sz)) := by
  -- Twenty-eight rounds follow the first one, before the factor has come to its bound.
  exact forall_congr' fun compressed => right_extractLoop_iff compressed 28 20 _ rfl

/-- The compression of a single zero byte. -/
def zeroStream : List UInt8 := [0x78, 0x9c, 0x63, 0x00, 0x00, 0x00, 0x01, 0x00, 0x01]

/-- The compression of 240 letters `a`. -/
def lettersStream : List UInt8 := [0x78, 0x9c, 0x4b, 0x4c, 0x1c, 0x59, 0x00, 0x00, 0xd1, 0x5e, 0x5a, 0xf1]

/-- The data of these two streams. -/
def knownData (stream : List UInt8) : Option (List UInt8) :=
  if stream = zeroStream then some [0]
  else if stream = lettersStream then some (List.replicate 240 0x61)
  else none

/-- A library that knows these two streams, under their texts. -/
def knownStreams : Decompressor where
  decode text :=
    if text = "eJxjAAAAAQAB" then zeroStream
    else if text = "eJxLTBxZAADRXlrx" then lettersStream
    else []
  uncompress size stream :=
    match knownData stream with
    | some data => if data.length ≤ size then .ok data else .bufError
    | none => .failed
  IsStream stream data := knownData stream = some data
  uncompress_stream stream data size known := by rw [known]

/-- A zero byte is returned as an empty string, and the terminator of 240 bytes leaves their buffer. -/
theorem payloads_not_extracted :
    ¬ ExtractsWhole knownStreams "eJxjAAAAAQAB" 0 [0] ∧
      ¬ ExtractsWhole knownStreams "eJxLTBxZAADRXlrx" 0 (List.replicate 240 0x61) := by
  constructor
  · -- The zero ends the string that is returned.
    intro whole
    have first : extractBase64CompressedData knownStreams "eJxjAAAAAQAB" 0 =
        extractLoop knownStreams zeroStream 20 180 := by rfl
    have compressed : knownStreams.IsStream zeroStream [0] := by rfl
    have returned : extractLoop knownStreams zeroStream 20 180 = .returned true (some []) := by
      rw [extractLoop_stream compressed]
      simp [maxVector]
    cases (whole compressed).2 _ (first.trans returned)
  · -- Twenty times the twelve bytes of the stream are exactly the data.
    intro whole
    have first : extractBase64CompressedData knownStreams "eJxLTBxZAADRXlrx" 0 =
        extractLoop knownStreams lettersStream 20 240 := by rfl
    have compressed : knownStreams.IsStream lettersStream (List.replicate 240 0x61) := by rfl
    have left : extractLoop knownStreams lettersStream 20 240 = .outside := by
      have size : (List.replicate 240 (0x61 : UInt8)).length = 240 := List.length_replicate
      rw [extractLoop_stream compressed, size, if_neg (by decide), if_neg (by decide), if_neg (by decide),
        if_pos rfl]
    exact (whole compressed).1 (first.trans left)

end Utils

end Fms
