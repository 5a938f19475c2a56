import Fms.Storage.PageQueries

/-! The two lists of what the devices run, which `HistoryDB` selects with statements of its own. -/

namespace Fms

/-- `FMSObjects::DeviceCurrentInfo`. -/
structure DeviceCurrentInfo where
  serialNumber : String
  revision : String
  upgraded : UInt64 := 0
  deriving DecidableEq, Repr

/-- The rows of a statement, extracted to the type of a tuple, or nothing when the database throws. -/
def DBType.query {τ : Type} (type : DBType) (extract : Sql.Select → Option (List τ)) (text : String) :
    Option (List τ) := do
  let tokens ← Sql.lex type.dialect text
  let statement ← Sql.select? type.commaRange tokens
  extract statement

namespace HistoryDB

/-- The statement of `GetUnknownDeviceFirmwares`. -/
def unknownStatement (offset limit : Nat) : String :=
  "select max(upgraded), serialnumber from history where revisionid='unknown' group " ++
    ("by serialnumber order by serialnumber offset=" ++ (toString offset ++ (" limit=" ++
      (toString limit ++ ";)"))))

/-- The statement of `GetDeviceFirmwares`. -/
def currentStatement (offset limit : Nat) : String :=
  "select max(upgraded), serialNumber, toRelease from history where " ++
    ("revisionId!='unknown' group by serialNumber, toRelease order by serialNumber, " ++
      ("toRelease offset=" ++ (toString offset ++ (" limit=" ++ (toString limit ++ ";)")))))

/-- `GetUnknownDeviceFirmwares`, with what the database extracts from the statements it accepts. -/
def getUnknownDeviceFirmwares (type : DBType)
    (extract : Sql.Select → Option (List (String × String × UInt64))) (offset limit : Nat) :
    Bool × List DeviceCurrentInfo :=
  match type.query extract (unknownStatement offset limit) with
  | some RecList => (true, RecList.map fun record =>
      { serialNumber := record.2.1, revision := "unknown", upgraded := record.2.2 })
  | none => (false, [])

/-- `GetDeviceFirmwares`, with what the database extracts from the statements it accepts. -/
def getDeviceFirmwares (type : DBType)
    (extract : Sql.Select → Option (List (UInt64 × String × String))) (offset limit : Nat) :
    Bool × List DeviceCurrentInfo :=
  match type.query extract (currentStatement offset limit) with
  | some RecList => (true, RecList.map fun record =>
      { serialNumber := record.2.1, revision := record.2.2, upgraded := record.1 })
  | none => (false, [])

/-- An entry of a device that no other one of it is later than. -/
def MostRecent (history : HistoryTable) (row : RevisionHistoryEntry) : Prop :=
  row ∈ history.rows ∧
    ∀ other ∈ history.rows, other.serialNumber = row.serialNumber → other.upgraded ≤ row.upgraded

/--
Both calls succeed, and their lists together have each device with a history once.

A device is in the list that its most recent entry belongs to.
-/
structure PartitionsFleet (history : HistoryTable) (unknown current : Bool × List DeviceCurrentInfo) :
    Prop where
  unknown_accepted : unknown.1 = true
  current_accepted : current.1 = true
  /-- Neither list has a device twice, and no device is in both. -/
  once : ((unknown.2 ++ current.2).map DeviceCurrentInfo.serialNumber).Nodup
  /-- Only devices with a history are listed. -/
  listed : ∀ entry ∈ unknown.2 ++ current.2, ∃ row ∈ history.rows, row.serialNumber = entry.serialNumber
  /-- Each of them is listed by its most recent entry. -/
  latest : ∀ stored ∈ history.rows, ∃ row, MostRecent history row ∧ row.serialNumber = stored.serialNumber ∧
    if row.revisionId = "unknown" then row.serialNumber ∈ unknown.2.map DeviceCurrentInfo.serialNumber
    else ⟨row.serialNumber, row.toRelease, row.upgraded⟩ ∈ current.2

/-- The tokens of the end of either statement. -/
def endTokens (offset limit : Nat) : List Sql.Token :=
  [.word "offset", .symbol "=", .number offset, .word "limit", .symbol "=", .number limit, .symbol ";",
    .symbol ")"]

/-- The tokens of a text are those of its front and those behind it. -/
theorem finish_before {dialect : Sql.Dialect} {front back : String} {tokens : List Sql.Token}
    {rest : Option (List Sql.Token)} (fed : Sql.feed dialect .gap front.toList = some (tokens, .gap))
    (behind : Sql.finish dialect .gap back.toList = rest) :
    Sql.finish dialect .gap (front ++ back).toList = rest.map (tokens ++ ·) := by
  rw [String.toList_append, Sql.finish_append fed, behind]

/-- The end of either statement is read in one way, whatever numbers it is written with. -/
theorem finish_end (dialect : Sql.Dialect) (offset limit : Nat) {text : String} {tokens : List Sql.Token}
    (before : Sql.feed dialect .gap text.toList =
      some (tokens ++ [.word "offset", .symbol "="], .gap)) :
    Sql.finish dialect .gap
        (text ++ (toString offset ++ (" limit=" ++ (toString limit ++ ";)")))).toList =
      some (tokens ++ endTokens offset limit) := by
  -- Each number ends in front of a character that no word continues with.
  have spaced (tail : List Char) : ∀ c, (" limit=".toList ++ tail).head? = some c →
      Sql.continuesWord c = false := by
    intro c first
    cases (Option.some.inj first : ' ' = c)
    rfl
  have closed : ∀ c, ";)".toList.head? = some c → Sql.continuesWord c = false := by
    intro c first
    cases (Option.some.inj first : ';' = c)
    rfl
  have middle : Sql.feed dialect .gap " limit=".toList = some ([.word "limit", .symbol "="], .gap) := rfl
  have last : Sql.finish dialect .gap ";)".toList = some [.symbol ";", .symbol ")"] := rfl
  simp only [String.toList_append]
  rw [Sql.finish_append before, Sql.finish_number offset (spaced _), Sql.finish_append middle,
    Sql.finish_number limit closed, last]
  simp [endTokens]

/-- The tokens of `unknownStatement` before its end. -/
def unknownTokens : List Sql.Token :=
  [.word "select", .word "max", .symbol "(", .word "upgraded", .symbol ")", .symbol ",", .word "serialnumber",
    .word "from", .word "history", .word "where", .word "revisionid", .symbol "=", .literal "unknown",
    .word "group"] ++
    [.word "by", .word "serialnumber", .word "order", .word "by", .word "serialnumber"]

/-- The tokens of `currentStatement` before its end. -/
def currentTokens : List Sql.Token :=
  [.word "select", .word "max", .symbol "(", .word "upgraded", .symbol ")", .symbol ",", .word "serialNumber",
    .symbol ",", .word "toRelease", .word "from", .word "history", .word "where"] ++
    ([.word "revisionId", .symbol "!=", .literal "unknown", .word "group", .word "by", .word "serialNumber",
      .symbol ",", .word "toRelease", .word "order", .word "by", .word "serialNumber", .symbol ","] ++
      [.word "toRelease"])

set_option maxRecDepth 1000 in
/-- The statement of `GetUnknownDeviceFirmwares` in tokens. -/
theorem lex_unknownStatement (type : DBType) (offset limit : Nat) :
    Sql.lex type.dialect (unknownStatement offset limit) =
      some (unknownTokens ++ endTokens offset limit) := by
  -- The two fixed parts are read once, and the numbers behind them in general.
  have front : Sql.feed type.dialect .gap
      "select max(upgraded), serialnumber from history where revisionid='unknown' group ".toList =
      some ([.word "select", .word "max", .symbol "(", .word "upgraded", .symbol ")", .symbol ",",
        .word "serialnumber", .word "from", .word "history", .word "where", .word "revisionid", .symbol "=",
        .literal "unknown", .word "group"], .gap) := by
    refine (congrArg (Sql.feed _ _) String.toList_ofList).trans ?_
    cases type <;> rfl
  have back : Sql.feed type.dialect .gap "by serialnumber order by serialnumber offset=".toList =
      some ([.word "by", .word "serialnumber", .word "order", .word "by", .word "serialnumber"] ++
        [.word "offset", .symbol "="], .gap) := by
    refine (congrArg (Sql.feed _ _) String.toList_ofList).trans ?_
    cases type <;> rfl
  have ending := finish_end type.dialect offset limit back
  calc Sql.lex type.dialect (unknownStatement offset limit)
      = (some (_ ++ endTokens offset limit)).map (_ ++ ·) := finish_before front ending
    _ = some (unknownTokens ++ endTokens offset limit) := congrArg some (List.append_assoc _ _ _).symm

set_option maxRecDepth 1000 in
/-- The statement of `GetDeviceFirmwares` in tokens. -/
theorem lex_currentStatement (type : DBType) (offset limit : Nat) :
    Sql.lex type.dialect (currentStatement offset limit) =
      some (currentTokens ++ endTokens offset limit) := by
  -- The statement goes as the other one, with one part more.
  have front : Sql.feed type.dialect .gap
      "select max(upgraded), serialNumber, toRelease from history where ".toList =
      some ([.word "select", .word "max", .symbol "(", .word "upgraded", .symbol ")", .symbol ",",
        .word "serialNumber", .symbol ",", .word "toRelease", .word "from", .word "history", .word "where"],
        .gap) := by
    refine (congrArg (Sql.feed _ _) String.toList_ofList).trans ?_
    cases type <;> rfl
  have middle : Sql.feed type.dialect .gap
      "revisionId!='unknown' group by serialNumber, toRelease order by serialNumber, ".toList =
      some ([.word "revisionId", .symbol "!=", .literal "unknown", .word "group", .word "by",
        .word "serialNumber", .symbol ",", .word "toRelease", .word "order", .word "by", .word "serialNumber",
        .symbol ","], .gap) := by
    refine (congrArg (Sql.feed _ _) String.toList_ofList).trans ?_
    cases type <;> rfl
  have back : Sql.feed type.dialect .gap "toRelease offset=".toList =
      some ([.word "toRelease"] ++ [.word "offset", .symbol "="], .gap) := by
    refine (congrArg (Sql.feed _ _) String.toList_ofList).trans ?_
    cases type <;> rfl
  have ending := finish_before middle (finish_end type.dialect offset limit back)
  calc Sql.lex type.dialect (currentStatement offset limit)
      = ((some (_ ++ endTokens offset limit)).map (_ ++ ·)).map (_ ++ ·) := finish_before front ending
    _ = some (currentTokens ++ endTokens offset limit) := by
      rw [Option.map_some, Option.map_some, ← List.append_assoc, ← List.append_assoc]
      rfl

/-- Where an order clause is followed by an equals sign, there is no statement. -/
theorem select_unknown (comma : Bool) (offset limit : Nat) :
    Sql.select? comma (unknownTokens ++ endTokens offset limit) = none := by
  cases comma <;> rfl

-- With the range in its usual form it would be one.
example : (Sql.select? false (unknownTokens ++
    [.word "limit", .number 100, .word "offset", .number 0, .symbol ";", .symbol ")"])).isSome = true := by
  decide

/-- So it is with the other statement. -/
theorem select_current (comma : Bool) (offset limit : Nat) :
    Sql.select? comma (currentTokens ++ endTokens offset limit) = none := by
  -- A word and an equals sign are neither an order nor a range.
  cases comma <;> rfl

variable (type : DBType) (history : HistoryTable)
  (extractUnknown : Sql.Select → Option (List (String × String × UInt64)))
  (extractCurrent : Sql.Select → Option (List (UInt64 × String × String))) (offset limit : Nat)

/-- `GetUnknownDeviceFirmwares` always fails, and lists no device. -/
theorem getUnknownDeviceFirmwares_fails :
    getUnknownDeviceFirmwares type extractUnknown offset limit = (false, []) := by
  -- The database throws before anything is extracted.
  have refused : type.query extractUnknown (unknownStatement offset limit) = none := by
    simp only [DBType.query, lex_unknownStatement, select_unknown, Option.bind_eq_bind, Option.bind_some,
      Option.bind_none]
  unfold getUnknownDeviceFirmwares
  rw [refused]

/-- `GetDeviceFirmwares` always fails, and lists no device. -/
theorem getDeviceFirmwares_fails :
    getDeviceFirmwares type extractCurrent offset limit = (false, []) := by
  -- It throws here for the same reason.
  have refused : type.query extractCurrent (currentStatement offset limit) = none := by
    simp only [DBType.query, lex_currentStatement, select_current, Option.bind_eq_bind, Option.bind_some,
      Option.bind_none]
  unfold getDeviceFirmwares
  rw [refused]

/--
No history makes the two lists partition the devices.

In both statements the order clause is followed by equals signs, so no database accepts either.
-/
theorem partitionsFleet_never :
    ¬ PartitionsFleet history (getUnknownDeviceFirmwares type extractUnknown offset limit)
      (getDeviceFirmwares type extractCurrent offset limit) := by
  -- Neither call succeeds.
  rw [getUnknownDeviceFirmwares_fails, getDeviceFirmwares_fails]
  intro partitions
  exact Bool.false_ne_true partitions.unknown_accepted

/-- One upgrade to a revision in the catalogue. -/
def oneUpgrade : HistoryTable :=
  .single { id := "1", serialNumber := "aabbccddeeff", toRelease := "rev2", revisionId := "7", upgraded := 5 }

/-- Of a device with one known upgrade, SQLite lists nothing in either call. -/
theorem partitionsFleet_fails :
    ¬ PartitionsFleet oneUpgrade (getUnknownDeviceFirmwares .sqlite (fun _ => some []) 0 100)
      (getDeviceFirmwares .sqlite (fun _ => some [(5, "aabbccddeeff", "rev2")]) 0 100) := by
  intro partitions
  obtain ⟨row, ⟨stored, _⟩, _, listed⟩ := partitions.latest _ List.mem_cons_self
  cases List.mem_singleton.mp stored
  rw [getDeviceFirmwares_fails] at listed
  -- The list is empty, though the entry belongs to it.
  simp at listed

end HistoryDB

end Fms
