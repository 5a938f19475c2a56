import Fms.Framework.Numbers

/-! How the handlers of requests read the parameters of a query. -/

namespace Fms

/-- What a handler may throw; `handleRequest` answers the first kind only. -/
inductive Thrown where
  /-- A `Poco::Exception`, by its text. -/
  | poco (text : String)
  | standard (exception : StdException)
  deriving DecidableEq, Repr

namespace RESTAPIHandler

/-- `Parameters_`: names and values, in the order of the query. -/
abbrev ParameterList := List (String × String)

/-- `is_number`; a digit is one of the ten that `isdigit` accepts. -/
def isNumber (s : String) : Bool :=
  s ≠ "" && s.toList.all fun c => 48 ≤ c.toNat && c.toNat ≤ 57

/-- `is_bool`. -/
def isBool (s : String) : Bool := s = "true" || s = "false"

/-- The value of the first parameter of a name. -/
def hint (parameters : ParameterList) (name : String) : Option String :=
  (parameters.find? fun s => s.1 = name).map Prod.snd

/-- `std::stoull`, as an exception of a handler. -/
def stoullOrThrow (text : String) : Except Thrown UInt64 := (stoull 10 text).mapError .standard

/-- `GetParameter` with a numeric default. -/
def getNumber (parameters : ParameterList) (name : String) (default_ : UInt64) : Except Thrown UInt64 :=
  match hint parameters name with
  | none => .ok default_
  | some value => if isNumber value then stoullOrThrow value else .ok default_

/-- `GetBoolParameter`. -/
def getBoolParameter (parameters : ParameterList) (name : String) (default_ : Bool) : Bool :=
  match hint parameters name with
  | none => default_
  | some value => if isBool value then value = "true" else default_

/-- `GetParameter` with a text as its default. -/
def getText (parameters : ParameterList) (name : String) (default_ : String) : String :=
  (hint parameters name).getD default_

/-- `HasParameter` for a text: what is found, or nothing for `false`. -/
def hasText (parameters : ParameterList) (name : String) : Option String := hint parameters name

/-- `HasParameter` for a number; whether the value is a number is not asked. -/
def hasNumber (parameters : ParameterList) (name : String) : Except Thrown (Option UInt64) :=
  match hint parameters name with
  | none => .ok none
  | some value => (stoullOrThrow value).map some

/-- `QueryBlock`. -/
structure QueryBlock where
  startDate : UInt64 := 0
  endDate : UInt64 := 0
  offset : UInt64 := 0
  limit : UInt64 := 0
  logType : UInt64 := 0
  serialNumber : String := ""
  filter : String := ""
  select : List String := []
  lifetime : Bool := false
  lastOnly : Bool := false
  newest : Bool := false
  countOnly : Bool := false
  additionalInfo : Bool := false
  deriving DecidableEq, Repr

/-- What a handler keeps of the query. -/
structure Query where
  parameters : ParameterList := []
  queryBlockInitialized : Bool := false
  qb : QueryBlock := {}
  deriving DecidableEq, Repr

/-- `InitQueryBlock`, which runs once. -/
def initQueryBlock (query : Query) : Except Thrown Query :=
  if query.queryBlockInitialized then .ok query
  else do
    let p := query.parameters
    let startDate ← getNumber p "startDate" 0
    let endDate ← getNumber p "endDate" 0
    let offset ← getNumber p "offset" 0
    let limit ← getNumber p "limit" 100
    let logType ← getNumber p "logType" 0
    let qb := {
      serialNumber := getText p "serialNumber" ""
      startDate := startDate
      endDate := endDate
      offset := if offset < 1 then 0 else offset
      limit := limit
      filter := getText p "filter" ""
      lifetime := getBoolParameter p "lifetime" false
      logType := logType
      lastOnly := getBoolParameter p "lastOnly" false
      newest := getBoolParameter p "newest" false
      countOnly := getBoolParameter p "countOnly" false
      additionalInfo := getBoolParameter p "withExtendedInfo" false
      select := query.qb.select ++ stringTokens ',' (getText p "select" "") }
    return { query with queryBlockInitialized := true, qb := qb }

/--
`ParseParameters`.

`Poco::URI` is a parameter: what it finds in the text of a request, or the text of its exception.
-/
def parseParameters (uri : String → Except String ParameterList) (requestURI : String) (query : Query) :
    Except Thrown Query := do
  let parameters ← (uri requestURI).mapError .poco
  initQueryBlock { query with parameters := parameters }

/-- A read of a parameter by a handler. -/
inductive Read where
  | number (name : String) (default_ : UInt64)
  | text (name default_ : String)
  | bool (name : String) (default_ : Bool)
  | hasText (name : String)
  | hasNumber (name : String)
  deriving DecidableEq, Repr

/-- What a read returns. -/
inductive Value where
  | number (value : UInt64)
  | text (value : String)
  | bool (value : Bool)
  | hasText (found : Option String)
  | hasNumber (found : Option UInt64)
  deriving DecidableEq, Repr

/-- Carries a read out. -/
def Read.run (parameters : ParameterList) : Read → Except Thrown Value
  | .number name default_ => (getNumber parameters name default_).map .number
  | .text name default_ => .ok (.text (getText parameters name default_))
  | .bool name default_ => .ok (.bool (getBoolParameter parameters name default_))
  | .hasText name => .ok (.hasText (RESTAPIHandler.hasText parameters name))
  | .hasNumber name => (RESTAPIHandler.hasNumber parameters name).map .hasNumber

/-- A new handler parses the parameters of a request, sets its query block up and reads a parameter. -/
def readParameter (uri : String → Except String ParameterList) (requestURI : String) (read : Read) :
    Except Thrown (QueryBlock × Value) := do
  let query ← parseParameters uri requestURI {}
  let query ← initQueryBlock query
  let value ← read.run query.parameters
  return (query.qb, value)

/-- The number a text writes, where it is a decimal number below 2^64. -/
def decimal (text : String) : Option UInt64 :=
  match digitsOf 10 text with
  | some digits =>
    if digits ≠ [] ∧ Numerals.read 10 digits < 18446744073709551616 then
      some (UInt64.ofNat (Numerals.read 10 digits))
    else none
  | none => none

/-- The value of the first parameter of a name where that is a decimal number below 2^64. -/
def exactNumber (parameters : ParameterList) (name : String) : Option UInt64 :=
  (hint parameters name).bind decimal

/-- The first parameter of a name, if it is written with digits only, is below 2^64. -/
def Fits (parameters : ParameterList) (name : String) : Prop :=
  ∀ value, hint parameters name = some value → isNumber value = true → (decimal value).isSome = true

/-- The first parameter of a name, if there is one, is a decimal number below 2^64. -/
def IsDecimal (parameters : ParameterList) (name : String) : Prop :=
  ∀ value, hint parameters name = some value → (decimal value).isSome = true

/-- The numeric parameters of the query block, each with its default. -/
def numericParameters : List (String × UInt64) :=
  [("startDate", 0), ("endDate", 0), ("offset", 0), ("limit", 100), ("logType", 0)]

/-- The numeric values of a query block, in the order of their parameters. -/
def QueryBlock.numbers (qb : QueryBlock) : List UInt64 :=
  [qb.startDate, qb.endDate, qb.offset, qb.limit, qb.logType]

/-- What a numeric read is to return. -/
def Read.Exact (parameters : ParameterList) : Read → Value → Prop
  | .number name default_, value => value = .number ((exactNumber parameters name).getD default_)
  | .hasNumber name, value => value = .hasNumber (exactNumber parameters name)
  | _, _ => True

/-- No number that the query block or the read asks for is written with digits and too large. -/
def InRange (parameters : ParameterList) (read : Read) : Prop :=
  (∀ parameter ∈ numericParameters, Fits parameters parameter.1) ∧
    match read with
    | .number name _ => Fits parameters name
    | .hasNumber name => IsDecimal parameters name
    | _ => True

/-- Nothing but a `Poco::Exception` is thrown, and every numeric read is exact. -/
def HandledTotally (uri : String → Except String ParameterList) (requestURI : String) (read : Read) : Prop :=
  (∀ exception, readParameter uri requestURI read ≠ .error (.standard exception)) ∧
    ∀ parameters qb value, uri requestURI = .ok parameters →
      readParameter uri requestURI read = .ok (qb, value) →
        qb.numbers = numericParameters.map (fun parameter =>
          (exactNumber parameters parameter.1).getD parameter.2) ∧
        read.Exact parameters value

variable {parameters : ParameterList} {name : String}

/-- A number is written with digits, of which there is one at least. -/
theorem isNumber_iff {s : String} :
    isNumber s = true ↔ ∃ digits, digitsOf 10 s = some digits ∧ digits ≠ [] := by
  -- A character has a value to the base ten exactly if it is one of the ten digits.
  have digit : ∀ c : Char, 48 ≤ c.toNat ∧ c.toNat ≤ 57 ↔ ∃ value, digitOf 10 c = some value := by
    intro c
    refine ⟨fun range => ⟨c.toNat - 48, ?_⟩, fun known => ?_⟩
    · rw [digitOf, if_pos range, Option.filter_some, if_pos (by simp; omega)]
    · obtain ⟨value, same⟩ := known
      by_contra outside
      rw [digitOf, if_neg outside] at same
      split at same
      · rw [Option.filter_some, if_neg (by simp; omega)] at same
        simp at same
      · split at same
        · rw [Option.filter_some, if_neg (by simp; omega)] at same
          simp at same
        · simp at same
  -- The digits of a text exist if every character has one.
  have digits : ∀ text : List Char, (∀ c ∈ text, 48 ≤ c.toNat ∧ c.toNat ≤ 57) ↔
      ∃ digits, text.mapM (digitOf 10) = some digits := by
    intro text
    induction text with
    | nil => simp
    | cons c rest ih =>
      rw [List.forall_mem_cons, ih, digit]
      refine ⟨fun both => ?_, fun known => ?_⟩
      · obtain ⟨⟨value, first⟩, others, tail⟩ := both
        exact ⟨value :: others, by simp [first, tail]⟩
      · obtain ⟨_, whole⟩ := known
        obtain ⟨value, others, first, tail, -⟩ := digitsOf_cons whole
        exact ⟨⟨value, first⟩, others, tail⟩
  simp only [isNumber, Bool.and_eq_true, List.all_eq_true, decide_eq_true_eq, digits, digitsOf]
  refine ⟨fun number => ?_, fun written => ?_⟩
  · obtain ⟨nonempty, values, whole⟩ := number
    refine ⟨values, whole, ?_⟩
    rintro rfl
    exact nonempty (String.toList_eq_nil_iff.mp (List.length_eq_zero_iff.mp (length_digitsOf whole).symm))
  · obtain ⟨values, whole, nonempty⟩ := written
    refine ⟨?_, values, whole⟩
    rintro rfl
    exact nonempty (List.length_eq_zero_iff.mp (length_digitsOf whole))

/-- A decimal number below 2^64 is written with digits. -/
theorem isNumber_of_decimal {s : String} (below : (decimal s).isSome = true) : isNumber s = true := by
  -- The specification asks for the digits first.
  rw [isNumber_iff]
  unfold decimal at below
  split at below
  · rename_i digits whole
    split at below
    · rename_i fits
      exact ⟨digits, whole, fits.1⟩
    · simp at below
  · simp at below

/-- A text of digits is read exactly if it is below 2^64; otherwise the conversion throws. -/
theorem stoull_isNumber {s : String} (number : isNumber s = true) :
    stoull 10 s = match decimal s with
      | some value => .ok value
      | none => .error .outOfRange := by
  obtain ⟨digits, whole, nonempty⟩ := isNumber_iff.mp number
  -- The bound of the conversion is the bound of the specification.
  rw [stoull_digits whole nonempty]
  unfold decimal
  rw [whole]
  by_cases small : Numerals.read 10 digits < 18446744073709551616
  · simp [nonempty, small, Nat.not_le.mpr small]
  · simp [small, Nat.not_lt.mp small]

/-- A text with a character that is no digit is not a decimal number. -/
theorem decimal_of_not_isNumber {s : String} (other : ¬ isNumber s = true) : decimal s = none :=
  Option.not_isSome_iff_eq_none.mp fun below => other (isNumber_of_decimal below)

/-- A numeric parameter that fits is read exactly. -/
theorem getNumber_fits (fits : Fits parameters name) (default_ : UInt64) :
    getNumber parameters name default_ = .ok ((exactNumber parameters name).getD default_) := by
  -- There is no parameter of the name, or the first one is looked at.
  unfold getNumber exactNumber
  cases found : hint parameters name with
  | none => rfl
  | some value =>
    by_cases number : isNumber value = true
    · obtain ⟨exact_, same⟩ := Option.isSome_iff_exists.mp (fits value found number)
      simp [number, stoullOrThrow, stoull_isNumber number, same, Except.mapError]
    · -- A text with another character is the default, for the code as for the specification.
      simp [number, decimal_of_not_isNumber number]

/-- A numeric parameter that is too large escapes as an exception of the conversion. -/
theorem getNumber_large (large : ¬ Fits parameters name) (default_ : UInt64) :
    getNumber parameters name default_ = .error (.standard .outOfRange) := by
  -- The parameter is there, it has digits only, and the conversion throws on them.
  simp only [Fits, not_forall] at large
  obtain ⟨value, found, number, above⟩ := large
  rw [Option.not_isSome_iff_eq_none] at above
  simp [getNumber, found, number, stoullOrThrow, stoull_isNumber number, above, Except.mapError]

/-- A parameter that is a decimal number is found as that number. -/
theorem hasNumber_decimal (all : IsDecimal parameters name) :
    hasNumber parameters name = .ok (exactNumber parameters name) := by
  -- A decimal number is converted without an exception.
  unfold hasNumber exactNumber
  cases found : hint parameters name with
  | none => rfl
  | some value =>
    obtain ⟨exact_, same⟩ := Option.isSome_iff_exists.mp (all value found)
    have number := isNumber_of_decimal (all value found)
    simp [stoullOrThrow, stoull_isNumber number, same, Except.mapError, Except.map]

/-- A parameter that is no decimal number is not reported as absent: a part of it is read, or the read throws. -/
theorem hasNumber_other (other : ¬ IsDecimal parameters name) :
    hasNumber parameters name ≠ .ok (exactNumber parameters name) := by
  simp only [IsDecimal, not_forall] at other
  obtain ⟨value, found, above⟩ := other
  rw [Option.not_isSome_iff_eq_none] at above
  have absent : exactNumber parameters name = none := by
    rw [exactNumber, found, Option.bind_some, above]
  rw [absent, hasNumber, found]
  -- The code has no branch that answers `false` for a parameter it has found.
  cases read : stoullOrThrow value with
  | error exception => simp [read, Except.map]
  | ok n => simp [read, Except.map]

/-- The conversion throws exceptions of the standard library only. -/
theorem hasNumber_error {exception : Thrown} (thrown : hasNumber parameters name = .error exception) :
    ∃ standard, exception = .standard standard := by
  -- The only thing that throws is the conversion.
  unfold hasNumber at thrown
  cases found : hint parameters name with
  | none => simp [found] at thrown
  | some value =>
    cases read : stoull 10 value with
    | error standard =>
      simp only [found, stoullOrThrow, read, Except.mapError, Except.map, Except.error.injEq] at thrown
      exact ⟨standard, thrown.symm⟩
    | ok n => simp [found, stoullOrThrow, read, Except.mapError, Except.map] at thrown

/-- A query block is set up exactly where all of its numbers fit. -/
theorem initQueryBlock_fits {query : Query} (new : query.queryBlockInitialized = false)
    (fits : ∀ parameter ∈ numericParameters, Fits query.parameters parameter.1) :
    ∃ query', initQueryBlock query = .ok query' ∧ query'.queryBlockInitialized = true ∧
      query'.parameters = query.parameters ∧
      query'.qb.numbers = numericParameters.map fun parameter =>
        (exactNumber query.parameters parameter.1).getD parameter.2 := by
  simp only [numericParameters, List.forall_mem_cons, List.not_mem_nil, false_implies, implies_true,
    and_true] at fits
  obtain ⟨startDate, endDate, offset, limit, logType⟩ := fits
  simp [initQueryBlock, new, getNumber_fits startDate, getNumber_fits endDate, getNumber_fits offset,
    getNumber_fits limit, getNumber_fits logType, numericParameters, QueryBlock.numbers, bind,
    Except.bind, pure, Except.pure]
  -- An offset below one is zero as it is.
  exact fun zero => zero.symm

/-- A query block with a number that is too large is not set up: the exception of its conversion escapes. -/
theorem initQueryBlock_large {query : Query} (new : query.queryBlockInitialized = false)
    (large : ¬ ∀ parameter ∈ numericParameters, Fits query.parameters parameter.1) :
    initQueryBlock query = .error (.standard .outOfRange) := by
  -- The first of the numbers that does not fit ends the set-up, whichever it is.
  by_contra other
  refine large ?_
  have startDate : Fits query.parameters "startDate" := by_contra fun large => other (by
    simp [initQueryBlock, new, getNumber_large large, bind, Except.bind])
  have endDate : Fits query.parameters "endDate" := by_contra fun large => other (by
    simp [initQueryBlock, new, getNumber_fits startDate, getNumber_large large, bind, Except.bind])
  have offset : Fits query.parameters "offset" := by_contra fun large => other (by
    simp [initQueryBlock, new, getNumber_fits startDate, getNumber_fits endDate, getNumber_large large, bind,
      Except.bind])
  have limit : Fits query.parameters "limit" := by_contra fun large => other (by
    simp [initQueryBlock, new, getNumber_fits startDate, getNumber_fits endDate, getNumber_fits offset,
      getNumber_large large, bind, Except.bind])
  have logType : Fits query.parameters "logType" := by_contra fun large => other (by
    simp [initQueryBlock, new, getNumber_fits startDate, getNumber_fits endDate, getNumber_fits offset,
      getNumber_fits limit, getNumber_large large, bind, Except.bind])
  simp [numericParameters, startDate, endDate, offset, limit, logType]

/-- Setting a query block up a second time changes nothing. -/
theorem initQueryBlock_again {query : Query} (initialized : query.queryBlockInitialized = true) :
    initQueryBlock query = .ok query := if_pos initialized

/-- Where the numbers of the query block fit, a read finds the block set up and runs on the parameters. -/
theorem readParameter_fits {uri : String → Except String ParameterList} {requestURI : String}
    (parsed : uri requestURI = .ok parameters)
    (fits : ∀ parameter ∈ numericParameters, Fits parameters parameter.1) (read : Read) :
    ∃ qb : QueryBlock, qb.numbers = numericParameters.map (fun parameter =>
        (exactNumber parameters parameter.1).getD parameter.2) ∧
      readParameter uri requestURI read = (read.run parameters).map (qb, ·) := by
  -- The block is set up while the parameters are parsed, and not again.
  obtain ⟨query, set, initialized, kept, numbers⟩ :=
    @initQueryBlock_fits { parameters := parameters } rfl fits
  refine ⟨query.qb, numbers, ?_⟩
  simp only [readParameter, parseParameters, parsed, Except.mapError, bind, Except.bind, set,
    initQueryBlock_again initialized, kept]
  cases read.run parameters <;> rfl

/-- Where a number of the query block does not fit, its exception escapes before any read. -/
theorem readParameter_large {uri : String → Except String ParameterList} {requestURI : String}
    (parsed : uri requestURI = .ok parameters)
    (large : ¬ ∀ parameter ∈ numericParameters, Fits parameters parameter.1) (read : Read) :
    readParameter uri requestURI read = .error (.standard .outOfRange) := by
  -- The exception leaves the handler while the parameters are parsed.
  have set := @initQueryBlock_large { parameters := parameters } rfl large
  simp [readParameter, parseParameters, parsed, Except.mapError, bind, Except.bind, set]

/-- A read is exact and throws nothing where its parameter is in range. -/
theorem run_inRange {read : Read} (inRange : InRange parameters read) :
    ∃ value, read.run parameters = .ok value ∧ read.Exact parameters value := by
  -- Only the two numeric reads can throw.
  obtain ⟨-, own⟩ := inRange
  cases read with
  | number name default_ => exact ⟨_, by rw [Read.run, getNumber_fits own]; rfl, rfl⟩
  | text name default_ => exact ⟨_, rfl, trivial⟩
  | bool name default_ => exact ⟨_, rfl, trivial⟩
  | hasText name => exact ⟨_, rfl, trivial⟩
  | hasNumber name => exact ⟨_, by rw [Read.run, hasNumber_decimal own]; rfl, rfl⟩

/-- A read whose parameter is not in range throws an exception of the conversion or is not exact. -/
theorem run_not_inRange {read : Read}
    (fits : ∀ parameter ∈ numericParameters, Fits parameters parameter.1)
    (other : ¬ InRange parameters read) :
    (∃ exception, read.run parameters = .error (.standard exception)) ∨
      ∃ value, read.run parameters = .ok value ∧ ¬ read.Exact parameters value := by
  -- The other reads are in range wherever the block is.
  cases read with
  | number name default_ =>
    have large : ¬ Fits parameters name := fun own => other ⟨fits, own⟩
    exact Or.inl ⟨.outOfRange, by rw [Read.run, getNumber_large large]; rfl⟩
  | text name default_ => exact absurd ⟨fits, trivial⟩ other
  | bool name default_ => exact absurd ⟨fits, trivial⟩ other
  | hasText name => exact absurd ⟨fits, trivial⟩ other
  | hasNumber name =>
    have inexact := hasNumber_other fun own => other ⟨fits, own⟩
    cases found : RESTAPIHandler.hasNumber parameters name with
    | error exception =>
      obtain ⟨standard, rfl⟩ := hasNumber_error found
      exact Or.inl ⟨standard, by rw [Read.run, found]; rfl⟩
    | ok number =>
      refine Or.inr ⟨.hasNumber number, by rw [Read.run, found]; rfl, fun same => inexact ?_⟩
      rw [found, Value.hasNumber.inj same]

/--
The parameters of a query are handled totally exactly where no number that is asked for is written with digits
and too large, and `HasParameter` finds no parameter that is not a number.
-/
theorem handledTotally_iff (uri : String → Except String ParameterList) (requestURI : String) (read : Read) :
    HandledTotally uri requestURI read ↔
      ∀ parameters, uri requestURI = .ok parameters → InRange parameters read := by
  -- The text of a request either has parameters, or `Poco::URI` throws on it.
  refine ⟨fun ⟨caught, exact_⟩ parameters parsed => ?_, fun inRange => ⟨fun exception thrown => ?_, ?_⟩⟩
  · by_contra other
    by_cases fits : ∀ parameter ∈ numericParameters, Fits parameters parameter.1
    · obtain ⟨qb, -, same⟩ := readParameter_fits parsed fits read
      rcases run_not_inRange fits other with ⟨exception, thrown⟩ | ⟨value, returned, inexact⟩
      · exact caught exception (by rw [same, thrown]; rfl)
      · exact inexact (exact_ parameters qb value parsed (by rw [same, returned]; rfl)).2
    · exact caught _ (readParameter_large parsed fits read)
  · -- A text that `Poco::URI` does not accept ends in a `Poco::Exception`.
    cases parsed : uri requestURI with
    | error text => simp [readParameter, parseParameters, parsed, Except.mapError, bind, Except.bind] at thrown
    | ok parameters =>
      obtain ⟨qb, -, same⟩ := readParameter_fits parsed (inRange parameters parsed).1 read
      obtain ⟨value, returned, -⟩ := run_inRange (inRange parameters parsed)
      rw [same, returned] at thrown
      simp [Except.map] at thrown
  · intro parameters qb value parsed result
    obtain ⟨qb', numbers, same⟩ := readParameter_fits parsed (inRange parameters parsed).1 read
    obtain ⟨value', returned, exact_⟩ := run_inRange (inRange parameters parsed)
    rw [same, returned] at result
    obtain ⟨rfl, rfl⟩ : qb' = qb ∧ value' = value := by simpa [Except.map] using result
    exact ⟨numbers, exact_⟩

/-- A limit of 2^64 lets an exception of the standard library escape, whatever is read. -/
theorem not_handledTotally_limit :
    ¬ HandledTotally (fun _ => .ok [("limit", "18446744073709551616")])
      "/api/v1/firmwares?limit=18446744073709551616" (.text "deviceType" "") := by
  intro handled
  exact handled.1 .outOfRange (by decide)

end RESTAPIHandler

end Fms
