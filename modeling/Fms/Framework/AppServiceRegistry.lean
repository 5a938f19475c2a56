import Fms.Framework.FieldToJson
import Fms.Relation.Run
import Mathlib.Logic.Function.Basic

/-! `AppServiceRegistry`: the settings of a service, which `registry.json` keeps from one start to the next. -/

namespace Fms

/-- The types of settings: `uint64_t`, vectors of texts, and the other types of the templates. -/
inductive RegistryKind (κ : Type) where
  | uint64
  | strings
  | other (kind : κ)

/-- The parts of the Poco library under the registry, with what the registry relies on of them. -/
structure RegistryLibrary (κ : Type) where
  /-- The contents a file can have. -/
  Text : Type
  /-- `Parser::parse(..).extract<Object::Ptr>()`; absent where it throws. -/
  parse : Text → Option JsonObject
  /-- `Object::stringify`. -/
  stringify : JsonObject → Text
  /-- The content of a file that has been truncated and not written. -/
  truncated : Text
  /-- The values of the other types. -/
  Other : κ → Type
  /-- The conversion of a value by `Object::set`. -/
  otherToVar : (kind : κ) → Other kind → Var
  /-- `Object::getValue` for the other types; absent where it throws. -/
  getOther : (kind : κ) → Var → Option (Other kind)
  /-- `Object::getValue<uint64_t>`. -/
  getUInt64 : Var → Option UInt64
  /-- A range-based `for` over a value that converts the elements to texts. -/
  iterate : Var → Option (List String)
  reads_back : ∀ obj, ∃ read, parse (stringify obj) = some read ∧
    ∀ name, read.has name = obj.has name ∧ read.get name = obj.get name
  getOther_otherToVar : ∀ kind value, getOther kind (otherToVar kind value) = some value
  otherToVar_isNull : ∀ kind value, (otherToVar kind value).isNull = false
  getUInt64_int : ∀ value : UInt64, getUInt64 (.int value.toNat) = some value

namespace RegistryLibrary

variable {κ : Type} (lib : RegistryLibrary κ)

/-- The values of a type. -/
def Value : RegistryKind κ → Type
  | .uint64 => UInt64
  | .strings => List String
  | .other kind => lib.Other kind

/-- What `Set` stores for a value. -/
def toVar : (kind : RegistryKind κ) → lib.Value kind → Var
  | .uint64, value => .int (UInt64.toNat value)
  | .strings, values => .array (List.map .string values)
  | .other kind, value => lib.otherToVar kind value

/-- What `Get` makes of a stored value. -/
def getValue : (kind : RegistryKind κ) → Var → Option (lib.Value kind)
  | .uint64, var => lib.getUInt64 var
  | .strings, var => lib.iterate var
  | .other kind, var => lib.getOther kind var

/-- A typed value of the registry. -/
structure Setting where
  kind : RegistryKind κ
  value : lib.Value kind

/-- The value a setting is stored as. -/
def Setting.var {lib : RegistryLibrary κ} (setting : lib.Setting) : Var :=
  lib.toVar setting.kind setting.value

end RegistryLibrary

/-- The data directory and the process on it. -/
structure AppServiceRegistry {κ : Type} (lib : RegistryLibrary κ) where
  /-- `registry.json`, where there is one. -/
  file : Option lib.Text
  /-- `Registry_` once the instance has been made; the pointer may be null. -/
  loaded : Option (Option JsonObject) := none

/-- How a `Get` ends. -/
inductive Got (β : Type) where
  | threw
  | missing
  | found (value : β)

namespace AppServiceRegistry

variable {κ : Type} {lib : RegistryLibrary κ}

/-- The constructor, which leaves the pointer null where there is no file. -/
def construct (file : Option lib.Text) : Option JsonObject :=
  file.map fun text => (lib.parse text).getD []

/-- `instance()`, which makes the instance when it is first asked for. -/
def registry (s : AppServiceRegistry lib) : Option JsonObject :=
  s.loaded.getD (construct s.file)

/--
The end of a call: the copy that the function `AppServiceRegistry` returned saves when it is destroyed.

`Save` truncates the file, and a null pointer then throws in the destructor, which ends the process.
-/
def destroyed (registry : Option JsonObject) : AppServiceRegistry lib :=
  match registry with
  | some obj => { file := some (lib.stringify obj), loaded := some (some obj) }
  | none => { file := some lib.truncated }

/-- `Set`: whether it returns, and what it leaves. -/
def set (s : AppServiceRegistry lib) (key : String) (value : Var) : Bool × AppServiceRegistry lib :=
  match s.registry with
  -- It saves the object itself, and the copy saves the same once more.
  | some obj => (true, destroyed (some (JsonObject.set obj key value)))
  | none => (false, destroyed none)

/-- `Get` for vectors also looks whether there is an array. -/
def accepts (kind : RegistryKind κ) (var : Var) : Bool :=
  match kind with
  | .strings => var.extractArray.isSome
  | .uint64 | .other _ => true

/-- `Get`: how it ends, and what it leaves. -/
def get (s : AppServiceRegistry lib) (key : String) (kind : RegistryKind κ) :
    Got (lib.Value kind) × AppServiceRegistry lib :=
  match s.registry with
  | none => (.threw, destroyed none)
  | some obj =>
    if obj.has key && !(obj.get key).isNull && accepts kind (obj.get key) then
      match lib.getValue kind (obj.get key) with
      | some value => (.found value, destroyed (some obj))
      | none => (.threw, destroyed (some obj))
    else (.missing, destroyed (some obj))

/-- `GetSystemId`, with the number that `InitializeSystemId` would draw; absent where it throws. -/
def getSystemId (s : AppServiceRegistry lib) (S : UInt64) : Option UInt64 × AppServiceRegistry lib :=
  match s.get "systemid" .uint64 with
  | (.found ID, s) => (some ID, s)
  | (.threw, s) => (none, s)
  | (.missing, s) =>
    match s.set "systemid" (.int S.toNat) with
    | (true, s) => (some S, s)
    | (false, s) => (none, s)

end AppServiceRegistry

/-- What happens to a registry. -/
inductive RegistryEvent {κ : Type} (lib : RegistryLibrary κ) where
  | set (key : String) (setting : lib.Setting)
  | get (key : String) (kind : RegistryKind κ)
  | systemId (S : UInt64)
  | restart

/-- What the caller sees of it. -/
inductive RegistryOutcome {κ : Type} (lib : RegistryLibrary κ) where
  | done
  | threw
  | missing
  | found (setting : lib.Setting)
  | id (ID : UInt64)

/-- A result of `Get` as an outcome. -/
def Got.outcome {κ : Type} {lib : RegistryLibrary κ} {kind : RegistryKind κ} :
    Got (lib.Value kind) → RegistryOutcome lib
  | .threw => .threw
  | .missing => .missing
  | .found value => .found ⟨kind, value⟩

/-- An event, with what the caller sees; a new process has no instance yet. -/
def AppServiceRegistry.step {κ : Type} {lib : RegistryLibrary κ} (s : AppServiceRegistry lib) :
    RegistryEvent lib → RegistryOutcome lib × AppServiceRegistry lib
  | .set key setting =>
    match s.set key setting.var with
    | (true, s) => (.done, s)
    | (false, s) => (.threw, s)
  | .get key kind =>
    let (got, s) := s.get key kind
    (got.outcome, s)
  | .systemId S =>
    match s.getSystemId S with
    | (some ID, s) => (.id ID, s)
    | (none, s) => (.threw, s)
  | .restart => (.done, { s with loaded := none })

/-- A setting as the registry is meant to keep it: from the file at the beginning, or set since then. -/
inductive RegistryEntry {κ : Type} (lib : RegistryLibrary κ) where
  | given (var : Var)
  | kept (setting : lib.Setting)

namespace RegistryEntry

variable {κ : Type} {lib : RegistryLibrary κ}

/-- The stored value of an entry. -/
def var : RegistryEntry lib → Var
  | .given var => var
  | .kept setting => setting.var

end RegistryEntry

/-- The settings that a registry is meant to keep. -/
abbrev RegistryContent {κ : Type} (lib : RegistryLibrary κ) := String → Option (RegistryEntry lib)

namespace RegistryContent

variable {κ : Type} {lib : RegistryLibrary κ}

/-- The content of a file; there is none in a malformed one. -/
def ofFile (file : Option lib.Text) : RegistryContent lib := fun key =>
  match file.bind lib.parse with
  | some obj => if obj.has key then some (.given (obj.get key)) else none
  | none => none

/-- The id that is to be returned from now on; there is none where the value for it is no number. -/
def systemId (m : RegistryContent lib) (S : UInt64) : Option UInt64 :=
  match m "systemid" with
  | some entry => if entry.var.isNull then some S else lib.getUInt64 entry.var
  | none => some S

/-- What an event makes of the content; a restart makes nothing of it. -/
def next (m : RegistryContent lib) : RegistryEvent lib → RegistryContent lib
  | .set key setting => Function.update m key (some (.kept setting))
  | .systemId S =>
    if (m "systemid").all fun entry => entry.var.isNull then
      Function.update m "systemid" (some (.kept ⟨.uint64, S⟩))
    else m
  | .get _ _ | .restart => m

/--
What the caller has to see: no exception, the last value set for a key, and one id for ever.

Nothing is said about a `Get` of a key that the file held from the beginning, or that was last set with another
type; the id is asked for by `GetSystemId` whatever the file held.
-/
def Expects (m : RegistryContent lib) : RegistryEvent lib → RegistryOutcome lib → Prop
  | .set _ _, outcome => outcome = .done
  | .get key kind, outcome => (m key = none → outcome = .missing) ∧
      ∀ value, m key = some (.kept ⟨kind, value⟩) → outcome = .found ⟨kind, value⟩
  | .systemId S, outcome => ∃ ID, outcome = .id ID ∧ ∀ given, m.systemId S = some given → ID = given
  | .restart, outcome => outcome = .done

/-- Where a vector is read that was set as one, the library passes its elements. -/
def Iterates (m : RegistryContent lib) (event : RegistryEvent lib) : Prop :=
  ∀ key (values : List String), event = .get key .strings → m key = some (.kept ⟨.strings, values⟩) →
    lib.iterate (.array (values.map .string)) = some values

/-- Where the id is asked for, a value that is there for it is a number. -/
def HoldsId (m : RegistryContent lib) (event : RegistryEvent lib) : Prop :=
  ∀ S, event = .systemId S →
    ∀ entry, m "systemid" = some entry → entry.var.isNull = false → (lib.getUInt64 entry.var).isSome = true

/-- Only a `Get` of a vector iterates. -/
theorem iterates_of_ne (m : RegistryContent lib) {event : RegistryEvent lib}
    (other : ∀ key, event ≠ .get key .strings) : m.Iterates event :=
  fun key _ read => absurd read (other key)

/-- Only `GetSystemId` asks for the id. -/
theorem holdsId_of_ne (m : RegistryContent lib) {event : RegistryEvent lib}
    (other : ∀ S, event ≠ .systemId S) : m.HoldsId event :=
  fun S asked => absurd asked (other S)

/-- The value for the id is a number exactly when there is an id to return. -/
theorem holdsId_iff (m : RegistryContent lib) (S : UInt64) :
    m.HoldsId (.systemId S) ↔ (m.systemId S).isSome = true := by
  have one : m.HoldsId (.systemId S) ↔ ∀ entry, m "systemid" = some entry → entry.var.isNull = false →
      (lib.getUInt64 entry.var).isSome = true := ⟨fun holds => holds S rfl, fun holds _ _ => holds⟩
  rw [one, systemId]
  -- Where nothing is there, or null, an id is drawn.
  cases m "systemid" with
  | none => exact iff_of_true nofun rfl
  | some entry =>
    simp only [Option.some.injEq, forall_eq']
    by_cases null : entry.var.isNull = true
    · rw [if_pos null]
      exact iff_of_true (fun not => by rw [null] at not; contradiction) rfl
    · rw [if_neg null]
      exact ⟨fun holds => holds (by simpa using null), fun some_ _ => some_⟩

end RegistryContent

/-- A registry beside the content it is meant to keep. -/
structure KeptRegistry {κ : Type} (lib : RegistryLibrary κ) where
  registry : AppServiceRegistry lib
  content : RegistryContent lib

namespace KeptRegistry

variable {κ : Type} {lib : RegistryLibrary κ}

/-- The first start on a data directory. -/
def start (file : Option lib.Text) : KeptRegistry lib :=
  ⟨{ file }, RegistryContent.ofFile file⟩

/-- An event on both. -/
def step (t : KeptRegistry lib) (event : RegistryEvent lib) : KeptRegistry lib :=
  ⟨(t.registry.step event).2, t.content.next event⟩

/-- The caller sees what it has to see. -/
def Keeps (t : KeptRegistry lib) (event : RegistryEvent lib) : Prop :=
  t.content.Expects event (t.registry.step event).1

/-- An object has exactly the settings of a content. -/
def Agrees (obj : JsonObject) (m : RegistryContent lib) : Prop :=
  ∀ key, (m key = none → obj.has key = false) ∧
    ∀ entry, m key = some entry → obj.has key = true ∧ obj.get key = entry.var

/-- There is a file, and what it and the instance hold is the content. -/
structure Holds (t : KeptRegistry lib) : Prop where
  file : ∃ text, t.registry.file = some text ∧ Agrees ((lib.parse text).getD []) t.content
  loaded : ∀ registry, t.registry.loaded = some registry → ∃ obj, registry = some obj ∧ Agrees obj t.content

/-- A file that exists holds its content before the first instance is made. -/
theorem holds_start (text : lib.Text) : Holds (start (some text)) := by
  refine ⟨⟨text, rfl, ?_⟩, fun registry made => by cases made⟩
  intro key
  -- A malformed file stands for an object without members, as it does in the constructor.
  cases read : lib.parse text with
  | none => simp [start, RegistryContent.ofFile, read, JsonObject.has]
  | some obj =>
    by_cases there : obj.has key = true
    · simp [start, RegistryContent.ofFile, read, there, RegistryEntry.var]
    · simp [start, RegistryContent.ofFile, read, there]

/-- An object that a call has saved is held in memory and in the file. -/
theorem holds_destroyed {obj : JsonObject} {m : RegistryContent lib} (agrees : Agrees obj m) :
    Holds ⟨AppServiceRegistry.destroyed (some obj), m⟩ := by
  -- The destructor writes what is in memory, and the text it writes is read back as that.
  obtain ⟨read, parsed, same⟩ := lib.reads_back obj
  refine ⟨⟨lib.stringify obj, rfl, ?_⟩, ?_⟩
  · intro key
    rw [parsed, Option.getD_some, (same key).1, (same key).2]
    exact agrees key
  · intro registry made
    cases made
    exact ⟨obj, rfl, agrees⟩

/-- What is held is what the next call works on. -/
theorem Holds.registry {t : KeptRegistry lib} (holds : Holds t) :
    ∃ obj, t.registry.registry = some obj ∧ Agrees obj t.content := by
  obtain ⟨text, stored, agrees⟩ := holds.file
  cases made : t.registry.loaded with
  | none =>
    -- Without an instance the call makes one from the file.
    refine ⟨(lib.parse text).getD [], ?_, agrees⟩
    simp [AppServiceRegistry.registry, AppServiceRegistry.construct, made, stored]
  | some registry =>
    obtain ⟨obj, rfl, agrees⟩ := holds.loaded registry made
    exact ⟨obj, by simp [AppServiceRegistry.registry, made], agrees⟩

/-- A member that has been set is the setting, and the others are as they were. -/
theorem agrees_set {obj : JsonObject} {m : RegistryContent lib} (agrees : Agrees obj m) (key : String)
    (setting : lib.Setting) :
    Agrees (JsonObject.set obj key setting.var) (Function.update m key (some (.kept setting))) := by
  intro other
  rw [JsonObject.has_set, JsonObject.get_set]
  by_cases same : other = key
  · subst same
    simp [RegistryEntry.var]
  · simpa [same] using agrees other

/-- `Get` leaves the object as it is. -/
theorem get_snd {s : AppServiceRegistry lib} {obj : JsonObject} (current : s.registry = some obj)
    (key : String) (kind : RegistryKind κ) :
    (s.get key kind).2 = AppServiceRegistry.destroyed (some obj) := by
  -- Whatever `Get` finds, the object it leaves is the one it has looked into.
  simp only [AppServiceRegistry.get, current]
  split
  · split <;> rfl
  · rfl

/-- A key that is not kept is missing. -/
theorem get_of_none {s : AppServiceRegistry lib} {obj : JsonObject} (current : s.registry = some obj)
    {m : RegistryContent lib} (agrees : Agrees obj m) {key : String} (absent : m key = none)
    (kind : RegistryKind κ) : (s.get key kind).1 = .missing := by
  -- The object has no such member, so the first check of the call ends it.
  have gone := (agrees key).1 absent
  simp [AppServiceRegistry.get, current, gone]

/-- A value that was set is not null. -/
theorem toVar_isNull (kind : RegistryKind κ) (value : lib.Value kind) :
    (lib.toVar kind value).isNull = false := by
  cases kind with
  | uint64 => rfl
  | strings => rfl
  | other kind => exact lib.otherToVar_isNull kind value

/-- A value of a type is accepted where that type is read. -/
theorem accepts_toVar (kind : RegistryKind κ) (value : lib.Value kind) :
    AppServiceRegistry.accepts kind (lib.toVar kind value) = true := by
  cases kind <;> rfl

/-- A key that was set gives what the library reads of the stored value. -/
theorem get_of_kept {s : AppServiceRegistry lib} {obj : JsonObject} (current : s.registry = some obj)
    {m : RegistryContent lib} (agrees : Agrees obj m) {key : String} {kind : RegistryKind κ}
    {value : lib.Value kind} (kept : m key = some (.kept ⟨kind, value⟩)) :
    (s.get key kind).1 = match lib.getValue kind (lib.toVar kind value) with
      | some value => .found value
      | none => .threw := by
  -- The member is there, it is not null, and its type is the one that is asked for.
  obtain ⟨there, stored⟩ := (agrees key).2 _ kept
  have var : obj.get key = lib.toVar kind value := stored
  simp only [AppServiceRegistry.get, current, there, var, toVar_isNull, accepts_toVar]
  cases lib.getValue kind (lib.toVar kind value) <;> rfl

/-- Only for a vector it depends on the library's loop whether the value that was set is read. -/
theorem keeps_get_iff {t : KeptRegistry lib} {obj : JsonObject} (current : t.registry.registry = some obj)
    (agrees : Agrees obj t.content) (key : String) (kind : RegistryKind κ) :
    Keeps t (.get key kind) ↔ t.content.Iterates (.get key kind) := by
  have outcome : (t.registry.step (.get key kind)).1 = (t.registry.get key kind).1.outcome := rfl
  have absent : t.content key = none → (t.registry.step (.get key kind)).1 = .missing := by
    intro absent
    rw [outcome, get_of_none current agrees absent]
    rfl
  constructor
  · rintro ⟨_, found⟩ _ values same kept
    cases same
    -- A vector that was read back had to come through the loop.
    have seen := found values kept
    rw [outcome, get_of_kept current agrees kept] at seen
    show lib.getValue .strings (lib.toVar .strings values) = some values
    cases read : lib.getValue .strings (lib.toVar .strings values) with
    | none => simp [read, Got.outcome] at seen
    | some value =>
      simp only [read, Got.outcome, RegistryOutcome.found.injEq] at seen
      cases seen
      rfl
  · intro iterates
    refine ⟨absent, fun value kept => ?_⟩
    rw [outcome, get_of_kept current agrees kept]
    -- Numbers and the other types convert back by themselves.
    have reads : lib.getValue kind (lib.toVar kind value) = some value := by
      cases kind with
      | uint64 => exact lib.getUInt64_int value
      | strings => exact iterates key value rfl kept
      | other kind => exact lib.getOther_otherToVar kind value
    rw [reads]
    rfl

/-- With an object in memory, `GetSystemId` gives the id of the content, or sets the one it draws. -/
theorem getSystemId_eq {s : AppServiceRegistry lib} {obj : JsonObject} (current : s.registry = some obj)
    {m : RegistryContent lib} (agrees : Agrees obj m) (S : UInt64) :
    s.getSystemId S = (m.systemId S, AppServiceRegistry.destroyed (some
      (if (m "systemid").all (fun entry => entry.var.isNull) then
        JsonObject.set obj "systemid" (.int S.toNat) else obj))) := by
  -- An id that is missing, or null, is drawn and then stored.
  have initialized : ∀ entry, m "systemid" = entry → (entry.all fun entry => entry.var.isNull) = true →
      s.getSystemId S = (some S, AppServiceRegistry.destroyed (some
        (JsonObject.set obj "systemid" (.int S.toNat)))) := by
    intro entry same empty
    -- To `Get` a null value is a missing one.
    have missing : s.get "systemid" .uint64 = (.missing, AppServiceRegistry.destroyed (some obj)) := by
      cases entry with
      | none =>
        have gone := (agrees "systemid").1 same
        simp [AppServiceRegistry.get, current, gone]
      | some entry =>
        obtain ⟨_, stored⟩ := (agrees "systemid").2 entry same
        have null : entry.var.isNull = true := empty
        simp [AppServiceRegistry.get, current, stored, null]
    simp [AppServiceRegistry.getSystemId, missing, AppServiceRegistry.set, AppServiceRegistry.registry,
      AppServiceRegistry.destroyed]
  cases same : m "systemid" with
  | none => simp [initialized _ same rfl, RegistryContent.systemId, same]
  | some entry =>
    by_cases null : entry.var.isNull = true
    · simp [initialized _ same null, RegistryContent.systemId, same, null]
    · -- The value is there, and it is only a matter of its conversion.
      obtain ⟨there, stored⟩ := (agrees "systemid").2 entry same
      cases read : lib.getUInt64 entry.var with
      | none =>
        have got : s.get "systemid" .uint64 = (.threw, AppServiceRegistry.destroyed (some obj)) := by
          simp [AppServiceRegistry.get, current, there, stored, null, AppServiceRegistry.accepts,
            RegistryLibrary.getValue, read]
        simp [AppServiceRegistry.getSystemId, got, read, RegistryContent.systemId, same, null]
      | some value =>
        have got : s.get "systemid" .uint64 = (.found value, AppServiceRegistry.destroyed (some obj)) := by
          simp [AppServiceRegistry.get, current, there, stored, null, AppServiceRegistry.accepts,
            RegistryLibrary.getValue, read]
        simp [AppServiceRegistry.getSystemId, got, read, RegistryContent.systemId, same, null]

/-- While there is an object in memory, every event keeps memory, file and content together. -/
theorem holds_step {t : KeptRegistry lib} (holds : Holds t) (event : RegistryEvent lib) :
    Holds (step t event) := by
  obtain ⟨obj, current, agrees⟩ := holds.registry
  cases event with
  | set key setting =>
    -- The value goes into the object in memory, and that is saved.
    have left : (t.registry.step (.set key setting)).2 =
        AppServiceRegistry.destroyed (some (JsonObject.set obj key setting.var)) := by
      simp [AppServiceRegistry.step, AppServiceRegistry.set, current]
    rw [step, left]
    exact holds_destroyed (agrees_set agrees key setting)
  | get key kind =>
    have left : (t.registry.step (.get key kind)).2 = AppServiceRegistry.destroyed (some obj) :=
      get_snd current key kind
    rw [step, left]
    exact holds_destroyed agrees
  | systemId S =>
    have left : (t.registry.step (.systemId S)).2 = (t.registry.getSystemId S).2 := by
      simp only [AppServiceRegistry.step]
      split <;> simp [*]
    rw [step, left, getSystemId_eq current agrees]
    -- Only an id that is drawn changes the content.
    by_cases empty : (t.content "systemid").all (fun entry => entry.var.isNull) = true
    · simp only [if_pos empty, RegistryContent.next]
      exact holds_destroyed (agrees_set agrees "systemid" ⟨.uint64, S⟩)
    · simp only [if_neg empty, RegistryContent.next]
      exact holds_destroyed agrees
  | restart =>
    -- The new process has the file alone.
    exact ⟨holds.file, fun registry made => by cases made⟩

/-- The id is returned exactly when what is there for it is a number. -/
theorem keeps_systemId_iff {t : KeptRegistry lib} {obj : JsonObject} (current : t.registry.registry = some obj)
    (agrees : Agrees obj t.content) (S : UInt64) :
    Keeps t (.systemId S) ↔ t.content.HoldsId (.systemId S) := by
  rw [RegistryContent.holdsId_iff, Keeps, RegistryContent.Expects]
  -- The call returns the id of the content, or it throws.
  simp only [AppServiceRegistry.step, getSystemId_eq current agrees]
  cases t.content.systemId S with
  | none => exact iff_of_false (fun ⟨_, threw, _⟩ => by cases threw) Bool.false_ne_true
  | some given => exact iff_of_true ⟨given, rfl, fun other same => Option.some.inj same⟩ rfl

/-- While there is an object in memory, an event ends as it has to, but for the loop over a vector and an odd id. -/
theorem keeps_iff {t : KeptRegistry lib} (holds : Holds t) (event : RegistryEvent lib) :
    Keeps t event ↔ t.content.Iterates event ∧ t.content.HoldsId event := by
  obtain ⟨obj, current, agrees⟩ := holds.registry
  -- Only `Get` iterates and only `GetSystemId` asks for the id; the other condition is void at each event.
  cases event with
  | set key setting =>
    have outcome : (t.registry.step (.set key setting)).1 = .done := by
      simp [AppServiceRegistry.step, AppServiceRegistry.set, current]
    exact iff_of_true outcome
      ⟨RegistryContent.iterates_of_ne _ fun _ => nofun, RegistryContent.holdsId_of_ne _ fun _ => nofun⟩
  | get key kind =>
    have unasked : t.content.HoldsId (.get key kind) := RegistryContent.holdsId_of_ne _ fun _ => nofun
    rw [and_iff_left unasked]
    exact keeps_get_iff current agrees key kind
  | systemId S =>
    have unread : t.content.Iterates (.systemId S) := RegistryContent.iterates_of_ne _ fun _ => nofun
    rw [and_iff_right unread]
    exact keeps_systemId_iff current agrees S
  | restart =>
    exact iff_of_true rfl
      ⟨RegistryContent.iterates_of_ne _ fun _ => nofun, RegistryContent.holdsId_of_ne _ fun _ => nofun⟩

/-- Without a file the instance has no object, and only a restart does not need one. -/
theorem keeps_withoutFile_iff (event : RegistryEvent lib) :
    Keeps (start none) event ↔ event = .restart := by
  -- The constructor fails to load a file that is not there, and keeps no object.
  have nothing : (start none : KeptRegistry lib).registry.registry = none := rfl
  cases event with
  | set key setting =>
    refine iff_of_false ?_ (by simp)
    simp [Keeps, RegistryContent.Expects, AppServiceRegistry.step, AppServiceRegistry.set, nothing]
  | get key kind =>
    refine iff_of_false ?_ (by simp)
    -- The key is in no file and has not been set, and yet the call throws.
    rintro ⟨missing, _⟩
    exact absurd (missing rfl) (by simp [AppServiceRegistry.step, AppServiceRegistry.get, nothing, Got.outcome])
  | systemId S =>
    refine iff_of_false ?_ (by simp)
    -- No id comes back from a call that throws.
    rintro ⟨ID, returned, _⟩
    simp [AppServiceRegistry.step, AppServiceRegistry.getSystemId, AppServiceRegistry.get, nothing] at returned
  | restart => exact iff_of_true rfl rfl

/-- Without a file a run is as it has to be only when nothing but restarts happens. -/
theorem keeps_withoutFile (events : List (RegistryEvent lib)) :
    Transition.Along step Keeps (start none) events ↔ ∀ event ∈ events, event = .restart := by
  induction events with
  | nil => simp [Transition.Along]
  | cons event rest ih =>
    -- A restart finds the same empty directory.
    have again : step (start none : KeptRegistry lib) .restart = start none := rfl
    simp only [Transition.Along, keeps_withoutFile_iff, List.forall_mem_cons]
    constructor
    · rintro ⟨rfl, along⟩
      exact ⟨rfl, ih.mp along⟩
    · rintro ⟨rfl, all⟩
      exact ⟨rfl, ih.mpr all⟩

/-- An id that is drawn is the one to return from then on. -/
theorem systemId_drawn {m : RegistryContent lib} {S : UInt64}
    (empty : (m "systemid").all (fun entry => entry.var.isNull) = true) (other : UInt64) :
    (m.next (.systemId S)).systemId other = some S := by
  -- The number is stored as a setting, and a stored number converts back.
  have made : m.next (.systemId S) "systemid" = some (.kept ⟨.uint64, S⟩) := by
    rw [RegistryContent.next, if_pos empty, Function.update_self]
  simp only [RegistryContent.systemId, made]
  exact lib.getUInt64_int S

/-- Once `GetSystemId` has an id to return, it has that one to return from then on. -/
theorem systemId_next {m : RegistryContent lib} {S ID : UInt64} (given : m.systemId S = some ID)
    (other : UInt64) : (m.next (.systemId S)).systemId other = some ID := by
  by_cases empty : (m "systemid").all (fun entry => entry.var.isNull) = true
  · -- An empty place gives the number that was drawn, which is then stored.
    have drawn : m.systemId S = some S := by
      cases same : m "systemid" with
      | none => simp [RegistryContent.systemId, same]
      | some entry =>
        have null : entry.var.isNull = true := by simpa [same] using empty
        simp [RegistryContent.systemId, same, null]
    rw [systemId_drawn empty, ← drawn, given]
  · -- A value that is there does not depend on the number that would be drawn.
    have unchanged : m.next (.systemId S) = m := by rw [RegistryContent.next, if_neg empty]
    rw [unchanged, ← given]
    cases same : m "systemid" with
    | none => simp [same] at empty
    | some entry =>
      have filled : ¬ entry.var.isNull = true := by simpa [same] using empty
      simp [RegistryContent.systemId, same, filled]

/-- The id that is to be returned changes only where it is set. -/
theorem systemId_kept {m : RegistryContent lib} {ID : UInt64} (given : ∀ S, m.systemId S = some ID)
    {event : RegistryEvent lib} (apart : ∀ setting, event ≠ .set "systemid" setting) (S : UInt64) :
    (m.next event).systemId S = some ID := by
  cases event with
  | set key setting =>
    -- A setting under another key does not touch the id.
    have other : "systemid" ≠ key := by
      rintro rfl
      exact apart setting rfl
    simpa [RegistryContent.next, RegistryContent.systemId, Function.update_of_ne other] using given S
  | get key kind => exact given S
  | systemId drawn => exact systemId_next (given drawn) S
  | restart => exact given S

/-- While there is an object in memory, `GetSystemId` returns the id that is to be returned. -/
theorem outcome_systemId_iff {t : KeptRegistry lib} (holds : Holds t) (S ID : UInt64) :
    (t.registry.step (.systemId S)).1 = .id ID ↔ t.content.systemId S = some ID := by
  -- The call either returns the id of the content or throws.
  obtain ⟨obj, current, agrees⟩ := holds.registry
  simp only [AppServiceRegistry.step, getSystemId_eq current agrees]
  cases t.content.systemId S <;> simp

/-- Memory, file and content stay together throughout a run. -/
theorem holds_run {t : KeptRegistry lib} (holds : Holds t) (events : List (RegistryEvent lib)) :
    Holds (events.foldl step t) :=
  Transition.invariant_along Holds (fun _ event holds _ => holds_step holds event) holds
    (Transition.along_true step t events) _ (Transition.last_mem_states t events)

/-- Throughout a run that does not set it, the id to be returned stays the same. -/
theorem systemId_run {t : KeptRegistry lib} {ID : UInt64} (given : ∀ S, t.content.systemId S = some ID)
    {events : List (RegistryEvent lib)}
    (apart : ∀ event ∈ events, ∀ setting, event ≠ .set "systemid" setting) (S : UInt64) :
    (events.foldl step t).content.systemId S = some ID :=
  Transition.invariant_along (fun t => ∀ S, t.content.systemId S = some ID)
    (fun _ _ given apart => systemId_kept given apart) given
    (Transition.along_of_forall step apart t) _ (Transition.last_mem_states t events) S

/--
A registry keeps what is stored exactly when its file is there at the first start, or it is never used.

Besides, a vector is read back only where the library's loop passes the elements of an array, and the id is
returned only where the value that is there for it is a number. With a file, `GetSystemId` returns the id it has
once returned for ever, unless another one is set.
-/
theorem keepsSettings_iff_file (file : Option lib.Text) (events : List (RegistryEvent lib)) :
    (Transition.Along step Keeps (start file) events ↔
      (file.isSome ∨ ∀ event ∈ events, event = .restart) ∧
        Transition.Along step (fun t event => t.content.Iterates event ∧ t.content.HoldsId event) (start file)
          events) ∧
    (file.isSome → ∀ (front middle : List (RegistryEvent lib)) (S later ID : UInt64),
      (∀ event ∈ middle, ∀ setting, event ≠ .set "systemid" setting) →
      ((front.foldl step (start file)).registry.step (.systemId S)).1 = .id ID →
      ((middle.foldl step (step (front.foldl step (start file)) (.systemId S))).registry.step
        (.systemId later)).1 = .id ID) := by
  cases file with
  | none =>
    -- No file: every use of the registry fails, and nothing is said about ids.
    refine ⟨?_, by simp⟩
    rw [keeps_withoutFile]
    constructor
    · intro all
      -- Restarts read nothing, so the second condition holds by itself.
      have restarts := Transition.along_of_forall step all (start none)
      refine ⟨.inr all, Transition.along_mono (fun t event restart => ?_) restarts⟩
      subst restart
      exact ⟨RegistryContent.iterates_of_ne _ fun _ => nofun, RegistryContent.holdsId_of_ne _ fun _ => nofun⟩
    · rintro ⟨there | all, _⟩
      · simp at there
      · exact all
  | some text =>
    have holds : Holds (start (some text) : KeptRegistry lib) := holds_start text
    constructor
    · -- In a run from a file every event ends as it has to, up to the two conditions.
      rw [Transition.along_congr Holds (fun _ event holds _ => holds_step holds event)
        (fun _ event holds => keeps_iff holds event) holds events]
      simp
    · intro _ front middle S later ID apart first
      -- The id is kept in the content from the first call on, and the later call looks there.
      have reached : Holds (front.foldl step (start (some text))) := holds_run holds front
      have given := (outcome_systemId_iff reached S ID).mp first
      have last := holds_run (holds_step reached (.systemId S)) middle
      exact (outcome_systemId_iff last later ID).mpr
        (systemId_run (fun other => systemId_next given other) apart later)

/-- The library on files that hold an object or nothing that can be parsed, with numbers and texts. -/
def plainRegistryLibrary : RegistryLibrary Empty where
  Text := Option JsonObject
  parse := id
  stringify := some
  truncated := none
  Other := Empty.elim
  otherToVar kind := kind.elim
  getOther kind := kind.elim
  getUInt64 := (Poco.onDocuments []).toUInt64
  iterate _ := none
  reads_back obj := ⟨obj, rfl, fun _ => ⟨rfl, rfl⟩⟩
  getOther_otherToVar kind := kind.elim
  otherToVar_isNull kind := kind.elim
  getUInt64_int value := (Poco.converts_onDocuments []).uint64 value

/-- On an empty data directory the first call of `GetSystemId` does not return. -/
theorem systemId_without_file :
    ¬ ∀ (κ : Type) (lib : RegistryLibrary κ) (file : Option lib.Text) (events : List (RegistryEvent lib)),
      Transition.Along step Keeps (start file) events := by
  -- The instance has no object, so the call throws where it has to return the number drawn.
  intro always
  obtain ⟨ID, returned, _⟩ := (always Empty plainRegistryLibrary none [.systemId 1]).1
  simp [AppServiceRegistry.step, AppServiceRegistry.getSystemId, AppServiceRegistry.get,
    AppServiceRegistry.registry, AppServiceRegistry.construct, start] at returned

end KeptRegistry

end Fms
