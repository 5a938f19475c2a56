import Mathlib.Tactic.IntervalCases
import Fms.Framework.Answers
import Fms.Framework.FieldToJson
import Fms.Framework.QueryParameters
import Fms.Security.Objects

/-! The log levels of the subsystems, and the command that lists and sets them. -/

namespace Fms

namespace Errors

/-- `MissingOrInvalidParameters`. -/
def missingOrInvalidParameters : Msg := ⟨1018, "Invalid or missing parameters."⟩

/-- `InvalidCommand`. -/
def invalidCommand : Msg := ⟨1031, "Invalid command."⟩

end Errors

/-- A `SubSystemServer`, as far as the command knows it. -/
structure SubSystem where
  name : String
  /-- `GetLoggingLevel`. -/
  level : Int
  deriving DecidableEq, Repr

namespace SubSystems

/-- `GetLogLevelNames`, each in the place of its level. -/
def logLevelNames : List String :=
  ["none", "fatal", "critical", "error", "warning", "notice", "information", "debug", "trace"]

/-- `Poco::Logger::parseLevel`, given what it reads as a number; none where it throws. -/
def parseLevel (number : String → Option Int) (level : String) : Option Int :=
  match logLevelNames.findIdx? fun name => sameIgnoringCase name level with
  | some place => some place
  | none => (number level).filter fun value => 0 < value ∧ value < 9

/-- `LogLevelToString`. -/
def logLevelToString (level : Int) : String :=
  if level = 7 then "debug"
  else if level = 6 then "information"
  else if level = 1 then "fatal"
  else if level = 4 then "warning"
  else if level = 5 then "notice"
  else if level = 2 then "critical"
  else if level = 3 then "error"
  else if level = 8 then "trace"
  else "none"

/-- The loop of `SetSubsystemLogLevel`, which sets the first subsystem of the name. -/
def setFirst (Sub : String) (P : Int) : List SubSystem → Bool × List SubSystem
  | [] => (false, [])
  | i :: rest =>
    if Sub = toLower i.name then (true, { i with level := P } :: rest)
    else
      let (found, rest) := setFirst Sub P rest
      (found, i :: rest)

/-- `SetSubsystemLogLevel`. -/
def setSubsystemLogLevel (number : String → Option Int) (subSystems : List SubSystem) (name Level : String) :
    Bool × List SubSystem :=
  match parseLevel number Level with
  | none => (false, subSystems)
  | some P =>
    if toLower name = "all" then (true, subSystems.map fun i => { i with level := P })
    else setFirst (toLower name) P subSystems

/-- `GetLogLevels`. -/
def getLogLevels (subSystems : List SubSystem) : List (String × String) :=
  subSystems.map fun i => (i.name, logLevelToString i.level)

/-- `GetSubSystems`. -/
def getSubSystems (subSystems : List SubSystem) : List String := subSystems.map fun i => toLower i.name

/-- `GetS`; none where `toString` throws. -/
def getS (poco : Poco) (Parameter : String) (Obj : JsonObject) : Option String :=
  if Obj.has Parameter then poco.toString (Obj.get Parameter) else some ""

/-- The setting that an element of `subsystems` asks for, if it has both members; none where a step throws. -/
def readSetting (poco : Poco) (i : Var) : Option (Option (String × String)) := do
  let text ← poco.toString i
  let InnerObj ← poco.parseObject text
  if InnerObj.has "tag" && InnerObj.has "value" then
    let Name ← getS poco "tag" InnerObj
    let Value ← getS poco "value" InnerObj
    return some (Name, Value)
  else return none

/-- The loop over `subsystems`: whether it comes to its end, and what it has set until then. -/
def setLogLevels (poco : Poco) (number : String → Option Int) : List Var → List SubSystem → Bool × List SubSystem
  | [], subSystems => (true, subSystems)
  | i :: rest, subSystems =>
    match readSetting poco i with
    | none => (false, subSystems)
    | some none => setLogLevels poco number rest subSystems
    | some (some (Name, Value)) =>
      setLogLevels poco number rest (setSubsystemLogLevel number subSystems Name Value).2

/-- The object of a subsystem and its level. -/
def levelJson (level : String × String) : JsonObject :=
  (JsonObject.set [] "tag" (.string level.1)).set "value" (.string level.2)

/-- `RESTAPI_system_command::DoPost`; a missing body is a null pointer, and throws. -/
def doPost (poco : Poco) (number : String → Option Int) (Obj : Option JsonObject) (subSystems : List SubSystem) :
    Except Thrown Answer × List SubSystem :=
  match Obj with
  | none => (.error (.poco "Null pointer"), subSystems)
  | some Obj =>
    if Obj.has "command" then
      match poco.toString (Obj.get "command") with
      | none => (.error (.poco "Invalid access"), subSystems)
      | some text =>
        let Command := toLower text
        if Command = "setloglevel" then
          match Obj.get "subsystems" with
          | .array ParametersBlock =>
            match setLogLevels poco number ParametersBlock subSystems with
            | (true, subSystems) => (.ok .ok, subSystems)
            | (false, subSystems) => (.error (.poco "Bad cast"), subSystems)
          | _ => (.ok (.badRequest Errors.missingOrInvalidParameters), subSystems)
        else if Command = "getloglevels" then
          (.ok (.object (JsonObject.set [] "tagList"
            (.array ((getLogLevels subSystems).map fun level => .object (levelJson level))))), subSystems)
        else if Command = "getloglevelnames" then
          (.ok (.object (JsonObject.set [] "list" (.array (logLevelNames.map .string)))), subSystems)
        else if Command = "getsubsystemnames" then
          (.ok (.object (JsonObject.set [] "list" (.array ((getSubSystems subSystems).map .string)))), subSystems)
        else if Command = "reload" then
          match Obj.get "subsystems" with
          | .array SubSystems =>
            -- The reloading is left to a thread that waits for ten seconds.
            if (SubSystems.mapM poco.toString).isSome then (.ok .ok, subSystems)
            else (.error (.poco "Invalid access"), subSystems)
          | _ => (.ok .ok, subSystems)
        else (.ok (.badRequest Errors.missingOrInvalidParameters), subSystems)
    else (.ok (.badRequest Errors.invalidCommand), subSystems)

/-- The state behind some commands. -/
def runCommands (poco : Poco) (number : String → Option Int) (start : List SubSystem)
    (commands : List (Option JsonObject)) : List SubSystem :=
  commands.foldl (fun subSystems Obj => (doPost poco number Obj subSystems).2) start

/-- The body of the command that lists the levels. -/
def getLevelsBody : JsonObject := JsonObject.set [] "command" (.string "getloglevels")

/-- The body of the command that sets levels. -/
def setLevelsBody (levels : Var) : JsonObject :=
  (JsonObject.set [] "command" (.string "setloglevel")).set "subsystems" levels

/-- Levels that have a name. -/
def Named (subSystems : List SubSystem) : Prop := ∀ i ∈ subSystems, 0 ≤ i.level ∧ i.level < 9

/-- Subsystems that can be told apart by their names, whatever the case; none is called like all of them. -/
def ToldApart (subSystems : List SubSystem) : Prop :=
  (getSubSystems subSystems).Nodup ∧ "all" ∉ getSubSystems subSystems

/-- The library reads the object of every subsystem and level back from the text it writes for it. -/
structure Rereads (poco : Poco) (names : List String) : Prop where
  converts : poco.Converts
  rereads : ∀ name ∈ names, ∀ level ∈ logLevelNames, ∃ text read,
    poco.toString (.object (levelJson (name, level))) = some text ∧ poco.parseObject text = some read ∧
      ∀ member, read.has member = (levelJson (name, level)).has member ∧
        read.get member = (levelJson (name, level)).get member

/-- The name of a level is read as the level. -/
theorem parseLevel_logLevelToString (number : String → Option Int) {level : Int} (low : 0 ≤ level) (high : level < 9) :
    parseLevel number (logLevelToString level) = some level := by
  obtain ⟨place, rfl⟩ := Int.eq_ofNat_of_zero_le low
  have within : place < 9 := by omega
  -- No level but those nine has a name.
  interval_cases place <;> rfl

/-- The name of a level is one of the names. -/
theorem logLevelToString_mem (level : Int) : logLevelToString level ∈ logLevelNames := by
  unfold logLevelToString
  split_ifs <;> decide

/-- A level that is read has a name. -/
theorem named_parseLevel {number : String → Option Int} {level : String} {P : Int}
    (read : parseLevel number level = some P) : 0 ≤ P ∧ P < 9 := by
  -- A name gives its place in the list of names, and a number is refused outside of it.
  unfold parseLevel at read
  split at read
  · rename_i place found
    have within : place < logLevelNames.length := (List.findIdx?_eq_some_iff_getElem.mp found).1
    have nine : logLevelNames.length = 9 := rfl
    obtain rfl := Option.some.inj read
    omega
  · have within := Option.filter_eq_some_iff.mp read
    have bounds := of_decide_eq_true within.2
    omega

/-- What stays when levels are set: the names in their order, and that every level has one. -/
def Keeps (before after : List SubSystem) : Prop :=
  after.map SubSystem.name = before.map SubSystem.name ∧ (Named before → Named after)

/-- What stays, stays over two steps. -/
theorem Keeps.trans {before middle after : List SubSystem} (first : Keeps before middle) (second : Keeps middle after) :
    Keeps before after :=
  ⟨second.1.trans first.1, fun named => second.2 (first.2 named)⟩

/-- Setting the first subsystem of a name keeps the names. -/
theorem keeps_setFirst (Sub : String) {P : Int} (range : 0 ≤ P ∧ P < 9) (subSystems : List SubSystem) :
    Keeps subSystems (setFirst Sub P subSystems).2 := by
  induction subSystems with
  | nil => exact ⟨rfl, fun named => named⟩
  | cons i rest ih =>
    obtain ⟨names, named⟩ := ih
    unfold setFirst
    split
    · -- The level of one subsystem changes.
      exact ⟨rfl, fun all => List.forall_mem_cons.mpr ⟨range, (List.forall_mem_cons.mp all).2⟩⟩
    · refine ⟨?_, fun all => ?_⟩
      · rw [List.map_cons, List.map_cons, names]
      · have ⟨first, others⟩ := List.forall_mem_cons.mp all
        exact List.forall_mem_cons.mpr ⟨first, named others⟩

/-- Setting a level keeps the names. -/
theorem keeps_setSubsystemLogLevel (number : String → Option Int) (subSystems : List SubSystem) (name Level : String) :
    Keeps subSystems (setSubsystemLogLevel number subSystems name Level).2 := by
  unfold setSubsystemLogLevel
  cases read : parseLevel number Level with
  | none => exact ⟨rfl, fun named => named⟩
  | some P =>
    have range := named_parseLevel read
    dsimp only
    split
    · -- All of them are set.
      refine ⟨by simp, fun _ i member => ?_⟩
      obtain ⟨j, _, rfl⟩ := List.mem_map.mp member
      exact range
    · exact keeps_setFirst (toLower name) range subSystems

/-- The loop over the settings keeps the names, also where it throws. -/
theorem keeps_setLogLevels (poco : Poco) (number : String → Option Int) (ParametersBlock : List Var)
    (subSystems : List SubSystem) : Keeps subSystems (setLogLevels poco number ParametersBlock subSystems).2 := by
  -- A setting that cannot be read ends the loop or is skipped; the others keep the names one by one.
  induction ParametersBlock generalizing subSystems with
  | nil => exact ⟨rfl, fun named => named⟩
  | cons i rest ih =>
    unfold setLogLevels
    split
    · exact ⟨rfl, fun named => named⟩
    · exact ih subSystems
    · rename_i Name Value _
      exact (keeps_setSubsystemLogLevel number subSystems Name Value).trans (ih _)

/-- No command changes the names of the subsystems. -/
theorem keeps_doPost (poco : Poco) (number : String → Option Int) (Obj : Option JsonObject)
    (subSystems : List SubSystem) : Keeps subSystems (doPost poco number Obj subSystems).2 := by
  have same : Keeps subSystems subSystems := ⟨rfl, fun named => named⟩
  unfold doPost
  cases Obj with
  | none => exact same
  | some Obj =>
    dsimp only
    split
    · split
      · exact same
      · -- Of the commands only one changes anything.
        split
        · split
          · rename_i ParametersBlock _
            have kept := keeps_setLogLevels poco number ParametersBlock subSystems
            split
            all_goals
              rename_i set
              rw [set] at kept
              exact kept
          · exact same
        · split
          · exact same
          · split
            · exact same
            · split
              · exact same
              · split
                · split
                  · split <;> exact same
                  · exact same
                · exact same
    · exact same

/-- No run of commands changes the names of the subsystems. -/
theorem keeps_run (poco : Poco) (number : String → Option Int) (start : List SubSystem)
    (commands : List (Option JsonObject)) : Keeps start (runCommands poco number start commands) := by
  induction commands generalizing start with
  | nil => exact ⟨rfl, fun named => named⟩
  | cons Obj rest ih => exact (keeps_doPost poco number Obj start).trans (ih _)

/-- Behind subsystems of other names, the first one of a name is set. -/
theorem setFirst_append {Sub : String} (P : Int) {front : List SubSystem} (others : Sub ∉ getSubSystems front)
    {i : SubSystem} (same : Sub = toLower i.name) (back : List SubSystem) :
    setFirst Sub P (front ++ i :: back) = (true, front ++ { i with level := P } :: back) := by
  induction front with
  | nil => simp [setFirst, same]
  | cons first rest ih =>
    obtain ⟨apart, behind⟩ := not_or.mp (List.mem_cons.not.mp others)
    rw [List.cons_append, setFirst, if_neg apart, ih behind]
    rfl

/-- The object of a subsystem and its level is read as the two. -/
theorem Rereads.readSetting {poco : Poco} {names : List String} (rereads : Rereads poco names) {name level : String}
    (known : name ∈ names) (levelKnown : level ∈ logLevelNames) :
    SubSystems.readSetting poco (.object (levelJson (name, level))) = some (some (name, level)) := by
  obtain ⟨text, read, written, parsed, members⟩ := rereads.rereads name known level levelKnown
  -- The object that is read back has the members of the one that was written.
  have own : (levelJson (name, level)).has "tag" = true ∧ (levelJson (name, level)).get "tag" = .string name ∧
      (levelJson (name, level)).has "value" = true ∧ (levelJson (name, level)).get "value" = .string level := by
    simp [levelJson, JsonObject.has_set, JsonObject.get_set]
  have tag := members "tag"
  have value := members "value"
  rw [own.1, own.2.1] at tag
  rw [own.2.2.1, own.2.2.2] at value
  have text_ := rereads.converts.string
  simp [SubSystems.readSetting, getS, written, parsed, tag, value, text_]

/--
Setting the levels that have been listed sets every subsystem in its turn.

The subsystems in front of the others have been set already.
-/
theorem setLogLevels_listed {poco : Poco} (number : String → Option Int) {front old new : List SubSystem}
    (rereads : Rereads poco (old.map SubSystem.name)) (names : new.map SubSystem.name = old.map SubSystem.name)
    (apart : ToldApart (front ++ old)) (named : Named old) :
    setLogLevels poco number ((getLogLevels old).map fun level => .object (levelJson level)) (front ++ new) =
      (true, front ++ old) := by
  induction old generalizing front new with
  | nil =>
    rw [List.map_eq_nil_iff.mp names]
    rfl
  | cons i old ih =>
    cases new with
    | nil => simp at names
    | cons j new =>
      obtain ⟨sameName, sameNames⟩ := List.cons.inj names
      have sameName : j.name = i.name := sameName
      obtain ⟨⟨low, high⟩, others⟩ := List.forall_mem_cons.mp named
      -- The name occurs in no other place, and is not that for all of them.
      have distinct := apart.1
      rw [getSubSystems, List.map_append, List.map_cons, List.nodup_append] at distinct
      have before : toLower i.name ∉ getSubSystems front := fun member =>
        distinct.2.2 _ member _ List.mem_cons_self rfl
      have notAll : toLower i.name ≠ "all" := by
        intro all
        refine apart.2 ?_
        rw [getSubSystems, List.map_append, List.map_cons, all]
        exact List.mem_append_right _ List.mem_cons_self
      have set : setSubsystemLogLevel number (front ++ j :: new) i.name (logLevelToString i.level) =
          (true, front ++ i :: new) := by
        rw [setSubsystemLogLevel, parseLevel_logLevelToString number low high]
        show (if toLower i.name = "all" then _ else setFirst (toLower i.name) i.level (front ++ j :: new)) = _
        rw [if_neg notAll, setFirst_append i.level before (congrArg toLower sameName).symm]
        cases i
        cases j
        cases sameName
        rfl
      have read := rereads.readSetting List.mem_cons_self (logLevelToString_mem i.level)
      have step : setLogLevels poco number ((getLogLevels (i :: old)).map fun level => .object (levelJson level))
            (front ++ j :: new) =
          setLogLevels poco number ((getLogLevels old).map fun level => .object (levelJson level))
            (front ++ i :: new) := by
        show setLogLevels poco number (.object (levelJson (i.name, logLevelToString i.level)) :: _) _ = _
        rw [setLogLevels, read]
        show setLogLevels poco number _ (setSubsystemLogLevel number _ i.name (logLevelToString i.level)).2 = _
        rw [set]
        rfl
      rw [step]
      have rest := @ih (front ++ [i]) new ⟨rereads.converts, fun name member =>
        rereads.rereads name (List.mem_cons_of_mem _ member)⟩ sameNames (by simpa using apart) others
      simpa using rest

/--
The levels that have been listed can be restored, whatever commands come in between.

The service is asked for the levels after some commands, and is given the list it has answered with after some more;
each subsystem then has the level it had at the time it was asked.
-/
theorem levels_restored {poco : Poco} (number : String → Option Int) {start : List SubSystem}
    (rereads : Rereads poco (start.map SubSystem.name)) (apart : ToldApart start) (named : Named start)
    (before between : List (Option JsonObject)) :
    ∃ levels, doPost poco number (some getLevelsBody) (runCommands poco number start before) =
        (.ok (.object levels), runCommands poco number start before) ∧
      doPost poco number (some (setLevelsBody (levels.get "tagList")))
          (runCommands poco number (runCommands poco number start before) between) =
        (.ok .ok, runCommands poco number start before) := by
  have text := rereads.converts.string
  obtain ⟨names, keptNamed⟩ := keeps_run poco number start before
  obtain ⟨laterNames, -⟩ := keeps_run poco number (runCommands poco number start before) between
  generalize runCommands poco number start before = old at names keptNamed laterNames ⊢
  generalize runCommands poco number old between = new at laterNames ⊢
  -- The names are those of the start, so the subsystems can still be told apart.
  have sameNames : getSubSystems old = getSubSystems start := by
    have lower := congrArg (List.map toLower) names
    rwa [List.map_map, List.map_map] at lower
  have oldApart : ToldApart old := by
    rw [ToldApart, sameNames]
    exact apart
  refine ⟨JsonObject.set [] "tagList" (.array ((getLogLevels old).map fun level => .object (levelJson level))), ?_, ?_⟩
  · have lower : toLower "getloglevels" = "getloglevels" := by decide +kernel
    simp [doPost, getLevelsBody, JsonObject.has_set, JsonObject.get_set, text, lower]
  · have loop := @setLogLevels_listed poco number [] old new (names ▸ rereads) laterNames oldApart (keptNamed named)
    rw [List.nil_append, List.nil_append] at loop
    have lower : toLower "setloglevel" = "setloglevel" := by decide +kernel
    simp [doPost, setLevelsBody, JsonObject.has_set, JsonObject.get_set, text, loop, lower]

/-- Two subsystems of the service. -/
def twoSubSystems : List SubSystem := [⟨"KafkaManager", 6⟩, ⟨"AutoUpdater", 7⟩]

/-- The text of a subsystem and a level. -/
def levelText (name level : String) : String := name ++ "=" ++ level

/-- A library that knows the texts of those two, and of all. -/
def levelsPoco : Poco :=
  { Poco.onDocuments (["KafkaManager", "AutoUpdater", "all"].flatMap fun name => logLevelNames.map fun level =>
      (levelText name level, .object (levelJson (name, level)))) with
    toString := fun
      | .object members =>
        match JsonObject.get members "tag", JsonObject.get members "value" with
        | .string name, .string level => some (levelText name level)
        | _, _ => none
      | value => (Poco.onDocuments []).toString value }

/-- The library gives back the values that were set. -/
theorem levelsPoco_converts : levelsPoco.Converts where
  uint64 value := by
    -- The library differs from the one of known documents in its texts only.
    have same : levelsPoco.toUInt64 = (Poco.onDocuments []).toUInt64 := rfl
    rw [same]
    exact (Poco.converts_onDocuments []).uint64 value
  string _ := rfl
  bool _ := rfl

/-- The library reads back what it writes. -/
theorem levelsPoco_rereads : Rereads levelsPoco (twoSubSystems.map SubSystem.name) where
  converts := levelsPoco_converts
  rereads := by
    intro name known level levelKnown
    refine ⟨levelText name level, levelJson (name, level), by simp [levelsPoco, levelJson, JsonObject.get_set], ?_,
      fun _ => ⟨rfl, rfl⟩⟩
    simp only [twoSubSystems, List.map_cons, List.map_nil, logLevelNames, List.mem_cons, List.not_mem_nil,
      or_false] at known levelKnown
    rcases known with rfl | rfl <;>
      rcases levelKnown with rfl | rfl | rfl | rfl | rfl | rfl | rfl | rfl | rfl <;> rfl

/-- All subsystems are silenced in between, and have their levels again. -/
theorem levels_restored_silenced :
    runCommands levelsPoco (fun _ => none) twoSubSystems
        [some (setLevelsBody (.array [.object (levelJson ("all", "none"))]))] =
        [⟨"KafkaManager", 0⟩, ⟨"AutoUpdater", 0⟩] ∧
      ∃ levels, doPost levelsPoco (fun _ => none) (some getLevelsBody) twoSubSystems =
          (.ok (.object levels), twoSubSystems) ∧
        doPost levelsPoco (fun _ => none) (some (setLevelsBody (levels.get "tagList")))
          (runCommands levelsPoco (fun _ => none) twoSubSystems
            [some (setLevelsBody (.array [.object (levelJson ("all", "none"))]))]) = (.ok .ok, twoSubSystems) := by
  refine ⟨by decide +kernel,
    levels_restored (fun _ => none) levelsPoco_rereads ⟨by decide +kernel, by decide +kernel⟩ ?_ []
    [some (setLevelsBody (.array [.object (levelJson ("all", "none"))]))]⟩
  unfold Named
  decide

end SubSystems

end Fms
