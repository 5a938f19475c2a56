import Fms.Framework.FieldFromJson
import Fms.Relation.Lens

/-! Record types built from the overloads of `field_from_json`, and documents that are decoded twice. -/

namespace Fms

namespace FieldFromJson

variable {τ β : Type}

/-- The overloads for a list that is cleared first: `Types::StringVec`, `TagList`, `DoubleList` and `IntList`. -/
def replaced (name : String) (convert : Var → Option β) (store : List β → τ → τ) : FieldReader τ :=
  fun obj value =>
    match obj.get name with
    | .array members =>
      let (ok, read) := elements convert members
      (ok, store read value)
    | _ => (true, value)

/-- The overloads for a list that is not cleared: `Types::StringPairVec`, and a vector of records. -/
def appended (name : String) (convert : Var → Option β) (load : τ → List β) (store : List β → τ → τ) :
    FieldReader τ :=
  fun obj value =>
    match obj.get name with
    | .array members =>
      let (ok, read) := elements convert members
      (ok, store (load value ++ read) value)
    | _ => (true, value)

end FieldFromJson

/-- An overload of `field_from_json` for a field that is no record, by the type of the field. -/
inductive Overload : Type → Type 1 where
  /-- Texts, numbers, truth values, enumerations and binary values. -/
  | scalar {β : Type} (convert : Var → Option β) : Overload β
  | replaced {β : Type} (convert : Var → Option β) : Overload (List β)
  | appended {β : Type} (fresh : β) (convert : Var → Option β) : Overload (List β)

namespace Overload

/-- `std::string`. -/
def string (poco : Poco) : Overload String := .scalar poco.toString

/-- `uint64_t`. -/
def uint64 (poco : Poco) : Overload UInt64 := .scalar poco.toUInt64

/-- `bool`. -/
def bool (poco : Poco) : Overload Bool :=
  .scalar fun value => (poco.toString value).map fun text => decide (text = "true")

/-- An enumeration, given the function that reads its names. -/
def enumeration {β : Type} (poco : Poco) (fromString : String → β) : Overload β :=
  .scalar fun value => (poco.toString value).map fromString

/-- `Types::StringVec`. -/
def stringVec (poco : Poco) : Overload (List String) := .replaced poco.toString

/-- `Types::StringPairVec`; a tag or a value that is not there is the empty text. -/
def stringPairVec (poco : Poco) : Overload (List (String × String)) :=
  .appended ("", "") fun element => do
    let inner ← element.extractObject
    let first ← if inner.has "tag" then poco.toString (inner.get "tag") else some ""
    let second ← if inner.has "value" then poco.toString (inner.get "value") else some ""
    return (first, second)

/-- `std::vector`, whose items are decoded into fresh records. -/
def vector {β : Type} (fresh : β) (fromJson : FieldReader β) : Overload (List β) :=
  .appended fresh fun element => element.extractObject.map fun inner => (fromJson inner fresh).2

/-- Whether what the target holds stays in front of what is read. -/
def isAppended {β : Type} : Overload β → Bool
  | .scalar _ | .replaced _ => false
  | .appended _ _ => true

/-- What an overload does for a field: whether it returns, and the value it leaves. -/
def step {β : Type} : Overload β → Var → β → Bool × β
  | .scalar convert, member, value =>
    if member.isNull then (true, value)
    else
      match convert member with
      | some read => (true, read)
      | none => (false, value)
  | .replaced convert, member, value =>
    match member with
    | .array members => FieldFromJson.elements convert members
    | _ => (true, value)
  | .appended _ convert, member, value =>
    match member with
    | .array members =>
      ((FieldFromJson.elements convert members).1, value ++ (FieldFromJson.elements convert members).2)
    | _ => (true, value)

/-- Whether a member gives the field a value: one that can be converted, or an array for a list. -/
def Takes {β : Type} : Overload β → Var → Prop
  | .scalar convert, member => member.isNull = false ∧ (convert member).isSome = true
  | .replaced _, member | .appended _ _, member => member.extractArray.isSome = true

/-- Whether a member can be read to its end: nothing in it fails to be converted. -/
def Returns {β : Type} : Overload β → Var → Prop
  | .scalar convert, member => member.isNull = true ∨ (convert member).isSome = true
  | .replaced convert, member | .appended _ convert, member =>
    ∀ members, member.extractArray = some members → ∀ element ∈ members, (convert element).isSome = true

/-- The step of a `from_json` for a field. -/
def reader {τ β : Type} (name : String) (lens : Lens τ β) : Overload β → FieldReader τ
  | .scalar convert => FieldFromJson.scalar name convert lens.set
  | .replaced convert => FieldFromJson.replaced name convert lens.set
  | .appended _ convert => FieldFromJson.appended name convert lens.get lens.set

end Overload

/-- The fields of a record type, in the order of its `from_json`; the fields of a record inside are its own. -/
inductive Fields : Type → Type 1 where
  | nil {τ : Type} : Fields τ
  | field {τ β : Type} (name : String) (lens : Lens τ β) (overload : Overload β) (rest : Fields τ) : Fields τ
  | object {τ β : Type} (name : String) (lens : Lens τ β) (fields : Fields β) (rest : Fields τ) : Fields τ

namespace Fields

/-- The steps of a `from_json`. -/
def readers {τ : Type} : Fields τ → List (FieldReader τ)
  | .nil => []
  | .field name lens overload rest => overload.reader name lens :: rest.readers
  | .object name lens fields rest =>
    FieldFromJson.object name (FieldFromJson.all fields.readers) lens.get lens.set :: rest.readers

/-- What a `from_json` leaves of a record, whether it returns or throws. -/
def decode {τ : Type} (fields : Fields τ) (obj : JsonObject) (record : τ) : τ :=
  (FieldFromJson.all fields.readers obj record).2

/-- What the step for a record inside leaves of it. -/
def decodeMember {τ : Type} (fields : Fields τ) (member : Var) (record : τ) : τ :=
  match member with
  | .object inner => fields.decode inner record
  | _ => record

/--
No field overlaps with a place that an earlier step writes, except that a place may be written again where both
steps replace what is there.
-/
def Spares {τ β : Type} (lens : Lens τ β) (replaces : Bool) : Fields τ → Prop
  | .nil => True
  | .field _ other overload rest =>
    (lens.Apart other ∨ lens.Same other ∧ replaces = true ∧ overload.isAppended = false) ∧
      rest.Spares lens replaces
  | .object _ other _ rest => lens.Apart other ∧ rest.Spares lens replaces

/-- The fields of a record and of the records inside are members of their own. -/
def Distinct {τ : Type} : Fields τ → Prop
  | .nil => True
  | .field _ lens overload rest => rest.Spares lens (!overload.isAppended) ∧ rest.Distinct
  | .object _ lens fields rest => rest.Spares lens false ∧ fields.Distinct ∧ rest.Distinct

end Fields

/-- A field is present in a document: the steps before it return, and the document gives it a value. -/
inductive Present : {τ γ : Type} → Fields τ → JsonObject → Lens τ γ → Overload γ → Prop
  | here {τ β : Type} {name : String} {lens : Lens τ β} {overload : Overload β} {rest : Fields τ}
      {obj : JsonObject} (takes : overload.Takes (obj.get name)) :
      Present (.field name lens overload rest) obj lens overload
  | behind {τ β γ : Type} {name : String} {lens : Lens τ β} {overload : Overload β} {rest : Fields τ}
      {obj : JsonObject} {place : Lens τ γ} {found : Overload γ}
      (returns : overload.Returns (obj.get name)) (present : Present rest obj place found) :
      Present (.field name lens overload rest) obj place found
  | inside {τ β γ : Type} {name : String} {lens : Lens τ β} {fields : Fields β} {rest : Fields τ}
      {obj inner : JsonObject} {place : Lens β γ} {found : Overload γ} (member : obj.get name = .object inner)
      (present : Present fields inner place found) :
      Present (.object name lens fields rest) obj (lens.comp place) found
  | past {τ β γ : Type} {name : String} {lens : Lens τ β} {fields : Fields β} {rest : Fields τ}
      {obj : JsonObject} {place : Lens τ γ} {found : Overload γ} (present : Present rest obj place found) :
      Present (.object name lens fields rest) obj place found

/-- A record type: its fields, which are members of their own, and what a fresh record holds. -/
structure RecordType (τ : Type) where
  fresh : τ
  fields : Fields τ
  distinct : fields.Distinct

/-- The `from_json` of a record type. -/
def RecordType.fromJson {τ : Type} (type : RecordType τ) : FieldReader τ :=
  FieldFromJson.all type.fields.readers

/--
Decoding a document twice is decoding it once, and what it leaves in the fields that are present does not depend on
what the target held.
-/
def DecodesOnce {τ : Type} (type : RecordType τ) (obj : JsonObject) : Prop :=
  (∀ target, (type.fromJson obj (type.fromJson obj target).2).2 = (type.fromJson obj target).2) ∧
    ∀ (γ : Type) (lens : Lens τ γ) (overload : Overload γ), Present type.fields obj lens overload →
      ∀ target other, lens.get (type.fromJson obj target).2 = lens.get (type.fromJson obj other).2

/-- No list that is not cleared is present in the document. -/
def NoneAppended {τ : Type} (fields : Fields τ) (obj : JsonObject) : Prop :=
  ∀ (γ : Type) (lens : Lens τ γ) (overload : Overload γ), Present fields obj lens overload →
    overload.isAppended = false

namespace Overload

variable {τ β : Type}

/-- A member that is not there is read as null. -/
theorem has_of_not_isNull {obj : JsonObject} {name : String} (value : (obj.get name).isNull = false) :
    obj.has name = true := by
  -- Without a member of the name nothing is found, and the value is null.
  by_contra absent
  have none : obj.find? (fun member => decide (member.1 = name)) = none := by
    rw [List.find?_eq_none]
    intro member inside same
    exact absent (List.any_eq_true.mpr ⟨member, inside, same⟩)
  rw [JsonObject.get, none] at value
  contradiction

/-- A step of a `from_json` updates the place of its field. -/
theorem reader_eq (overload : Overload β) (name : String) (lens : Lens τ β) (obj : JsonObject) (record : τ) :
    overload.reader name lens obj record =
      ((overload.step (obj.get name) (lens.get record)).1,
        lens.modify (fun value => (overload.step (obj.get name) value).2) record) := by
  -- Where nothing is read, the place is written with what it holds.
  have kept : lens.modify (fun value => value) record = record := lens.modify_eq_self rfl
  cases overload with
  | scalar convert =>
    cases null : (obj.get name).isNull with
    | true => simp [reader, step, FieldFromJson.scalar, null, kept]
    | false =>
      have there := has_of_not_isNull null
      cases read : convert (obj.get name) with
      | none => simp [reader, step, FieldFromJson.scalar, null, there, read, kept]
      | some value => simp [reader, step, FieldFromJson.scalar, null, there, read, Lens.modify]
  | replaced convert =>
    cases member : obj.get name <;> simp [reader, step, FieldFromJson.replaced, member, Lens.modify, lens.set_get]
  | appended fresh convert =>
    cases member : obj.get name <;> simp [reader, step, FieldFromJson.appended, member, Lens.modify, lens.set_get]

/-- The loop over the elements goes through exactly if all of them can be converted. -/
theorem elements_fst (convert : Var → Option β) (members : List Var) :
    (FieldFromJson.elements convert members).1 = true ↔
      ∀ element ∈ members, (convert element).isSome = true := by
  -- It stops at the first one that cannot.
  induction members with
  | nil => simp [FieldFromJson.elements]
  | cons element rest ih =>
    cases read : convert element with
    | none => simp [FieldFromJson.elements, read]
    | some value => simpa [FieldFromJson.elements, read] using ih

/-- Whether a step returns is seen at the member alone. -/
theorem step_returns (overload : Overload β) (member : Var) (value : β) :
    (overload.step member value).1 = true ↔ overload.Returns member := by
  -- A value may be null, and a list may have no elements.
  cases overload with
  | scalar convert =>
    simp only [step, Returns]
    split
    · rename_i null
      simp [null]
    · rename_i null
      cases read : convert member with
      | none => simp [null]
      | some taken => simp
  | replaced convert =>
    cases member with
    | array members => simp [step, Returns, Var.extractArray, elements_fst]
    | _ => simp [step, Returns, Var.extractArray]
  | appended fresh convert =>
    cases member with
    | array members => simp [step, Returns, Var.extractArray, elements_fst]
    | _ => simp [step, Returns, Var.extractArray]

/-- A step for a field that is not present leaves its value. -/
theorem step_of_not_takes {overload : Overload β} {member : Var} (absent : ¬ overload.Takes member) (value : β) :
    (overload.step member value).2 = value := by
  -- A null, a value that cannot be converted and a member that is no array are passed over.
  cases overload with
  | scalar convert =>
    simp only [step]
    split
    · rfl
    · rename_i null
      cases read : convert member with
      | none => rfl
      | some taken => exact absurd ⟨by simpa using null, by rw [read]; rfl⟩ absent
  | replaced convert =>
    cases member with
    | array members => exact absurd rfl absent
    | _ => rfl
  | appended fresh convert =>
    cases member with
    | array members => exact absurd rfl absent
    | _ => rfl

/-- A step that replaces a value that is present does not look at what the target holds. -/
theorem step_of_takes {overload : Overload β} {member : Var} (takes : overload.Takes member)
    (replaces : overload.isAppended = false) (value other : β) :
    (overload.step member value).2 = (overload.step member other).2 := by
  -- What is stored is made of the member alone.
  cases overload with
  | scalar convert =>
    obtain ⟨null, converts⟩ := takes
    obtain ⟨read, same⟩ := Option.isSome_iff_exists.mp converts
    simp [step, null, same]
  | replaced convert =>
    cases member with
    | array members => rfl
    | _ => contradiction
  | appended fresh convert => contradiction

/-- What is appended leaves the target's own items in front. -/
theorem step_appended {overload : Overload β} (appends : overload.isAppended = true) (member : Var) :
    (∀ value other, (overload.step member value).2 = (overload.step member other).2 → value = other) ∧
      ∃ value other : β, value ≠ other := by
  -- The items of the target are a front of the result, so that they can be cut off again.
  cases overload with
  | scalar convert => contradiction
  | replaced convert => contradiction
  | appended fresh convert =>
    refine ⟨fun value other same => ?_, [], [fresh], by simp⟩
    cases member with
    | array members => exact List.append_cancel_right same
    | _ => exact same

-- A pair is read behind the one that the target holds, and a tag that is not there is the empty text.
example : (stringPairVec (Poco.onDocuments [])).step (.array [.object [("value", .string "b")]]) [("a", "b")] =
    (true, [("a", "b"), ("", "b")]) := by
  decide

/-- A step that appends nothing changes nothing when it is run again. -/
theorem step_again {overload : Overload β} {member : Var}
    (replaces : overload.Takes member → overload.isAppended = false) (value : β) :
    (overload.step member (overload.step member value).2).2 = (overload.step member value).2 := by
  -- Either the first run has stored what the second one stores, or neither stores anything.
  by_cases takes : overload.Takes member
  · exact step_of_takes takes (replaces takes) _ _
  · exact step_of_not_takes takes _

end Overload

namespace Fields

variable {τ β γ : Type} {name : String} {lens : Lens τ β} {obj : JsonObject} {rest : Fields τ}

/-- What a step leaves of the place of its field. -/
def stepped (overload : Overload β) (member : Var) (value : β) : β :=
  (overload.step member value).2

/-- The steps behind one that returns go on with what it leaves; a step that throws is the last one. -/
theorem decode_field (name : String) (lens : Lens τ β) (overload : Overload β) (rest : Fields τ)
    (obj : JsonObject) :
    (overload.Returns (obj.get name) ∧ ∀ record,
        (Fields.field name lens overload rest).decode obj record =
          rest.decode obj (lens.modify (stepped overload (obj.get name)) record)) ∨
      ¬ overload.Returns (obj.get name) ∧ ∀ record,
        (Fields.field name lens overload rest).decode obj record =
          lens.modify (stepped overload (obj.get name)) record := by
  -- The step for the field is the first of all steps.
  by_cases returns : overload.Returns (obj.get name)
  · refine .inl ⟨returns, fun record => ?_⟩
    have goes := (overload.step_returns (obj.get name) (lens.get record)).mpr returns
    simp only [decode, readers, FieldFromJson.all, overload.reader_eq, goes]
    rfl
  · refine .inr ⟨returns, fun record => ?_⟩
    have stops : (overload.step (obj.get name) (lens.get record)).1 = false :=
      Bool.eq_false_iff.mpr fun goes => returns ((overload.step_returns _ _).mp goes)
    simp only [decode, readers, FieldFromJson.all, overload.reader_eq, stops]
    rfl

/-- The step for a record inside always returns. -/
theorem decode_object (fields : Fields β) (record : τ) :
    (Fields.object name lens fields rest).decode obj record =
      rest.decode obj (lens.modify (fields.decodeMember (obj.get name)) record) := by
  have step : FieldFromJson.object name (FieldFromJson.all fields.readers) lens.get lens.set obj record =
      (true, lens.modify (fields.decodeMember (obj.get name)) record) := by
    -- A member that is no object leaves the record as it is.
    cases member : obj.get name <;>
      simp [FieldFromJson.object, decodeMember, decode, member, Lens.modify, lens.set_get]
  simp only [decode, readers, FieldFromJson.all, step]

/-- A step for another place, or for the same place where it replaces what is there, absorbs an update. -/
theorem absorbs_step {other : Lens τ γ} {overload : Overload γ} {replaces : Bool}
    (apart : lens.Apart other ∨ lens.Same other ∧ replaces = true ∧ overload.isAppended = false) (member : Var)
    (update : β → β) : Lens.Absorbs (other.modify (stepped overload member)) (lens.modify update) := by
  -- Two places that are apart commute; the same place is written again, or not at all.
  rcases apart with apart | ⟨same, -, replacing⟩
  · exact .inl (apart.modify_comm update _)
  · cases same
    by_cases takes : overload.Takes member
    · -- The later value is written in any case.
      refine .inr fun record => ?_
      rw [Lens.modify_modify]
      have same : ∀ value, stepped overload member (update value) = stepped overload member value :=
        fun value => Overload.step_of_takes takes replacing _ _
      simp only [same]
    · have nothing : ∀ record, lens.modify (stepped overload member) record = record :=
        fun record => lens.modify_eq_self (Overload.step_of_not_takes takes _)
      exact .inl fun record => by rw [nothing, nothing]

/-- Steps that spare a place absorb an update of it. -/
theorem Spares.absorbs {replaces : Bool} (spares : rest.Spares lens replaces) (obj : JsonObject) (update : β → β) :
    Lens.Absorbs (rest.decode obj) (lens.modify update) := by
  -- The later steps absorb the update one after the other.
  induction rest with
  | nil => exact .inl fun _ => rfl
  | field name other overload rest ih =>
    obtain ⟨apart, others⟩ := spares
    have first := absorbs_step apart (obj.get name) update
    rcases decode_field name other overload rest obj with ⟨-, run⟩ | ⟨-, run⟩
    · rw [show (Fields.field name other overload rest).decode obj =
        fun record => rest.decode obj (other.modify (stepped overload (obj.get name)) record) from funext run]
      exact first.comp (ih others)
    · rw [show (Fields.field name other overload rest).decode obj = other.modify (stepped overload (obj.get name))
        from funext run]
      exact first
  | object name other fields rest inner ih =>
    obtain ⟨apart, others⟩ := spares
    have run : (Fields.object name other fields rest).decode obj =
        fun record => rest.decode obj (other.modify (fields.decodeMember (obj.get name)) record) :=
      funext (decode_object fields)
    rw [run]
    exact Lens.Absorbs.comp (.inl (apart.modify_comm update _)) (ih others)

/-- What a place holds after steps that spare it depends on what it held, and is that where nothing replaces it. -/
theorem Spares.get_decode {replaces : Bool} (spares : rest.Spares lens replaces) (obj : JsonObject) :
    ∃ after : β → β, (∀ record, lens.get (rest.decode obj record) = after (lens.get record)) ∧
      (replaces = false → ∀ value, after value = value) := by
  induction rest with
  | nil => exact ⟨fun value => value, fun _ => rfl, fun _ _ => rfl⟩
  | field name other overload rest ih =>
    obtain ⟨apart, others⟩ := spares
    obtain ⟨after, behind, same⟩ := ih others
    -- One step writes the place again, or it leaves it.
    obtain ⟨now, step, kept⟩ : ∃ now : β → β, (∀ record,
        lens.get (other.modify (stepped overload (obj.get name)) record) = now (lens.get record)) ∧
        (replaces = false → ∀ value, now value = value) := by
      rcases apart with apart | ⟨itself, replacing, -⟩
      · exact ⟨fun value => value, fun record => apart.get_modify _ record, fun _ _ => rfl⟩
      · cases itself
        refine ⟨stepped overload (obj.get name), fun record => lens.get_modify _ record, fun not => ?_⟩
        rw [replacing] at not
        contradiction
    rcases decode_field name other overload rest obj with ⟨-, run⟩ | ⟨-, run⟩
    · exact ⟨fun value => after (now value), fun record => by rw [run, behind, step],
        fun not value => (congrArg after (kept not value)).trans (same not value)⟩
    · exact ⟨now, fun record => by rw [run, step], kept⟩
  | object name other fields rest inner ih =>
    obtain ⟨apart, others⟩ := spares
    obtain ⟨after, behind, same⟩ := ih others
    refine ⟨after, fun record => ?_, same⟩
    rw [decode_object, behind, apart.get_modify]

/-- Decoding again changes nothing where no list that is not cleared is present. -/
theorem decode_decode {fields : Fields τ} (distinct : fields.Distinct) (none : NoneAppended fields obj)
    (record : τ) :
    fields.decode obj (fields.decode obj record) = fields.decode obj record := by
  induction fields generalizing obj with
  | nil => rfl
  | field name lens overload rest ih =>
    obtain ⟨spares, others⟩ := distinct
    -- Whether the field is present is seen at the document alone.
    have once : ∀ record, lens.modify (stepped overload (obj.get name))
        (lens.modify (stepped overload (obj.get name)) record) =
          lens.modify (stepped overload (obj.get name)) record := by
      intro record
      rw [Lens.modify_modify]
      have again : ∀ value, stepped overload (obj.get name) (stepped overload (obj.get name) value) =
          stepped overload (obj.get name) value :=
        Overload.step_again fun takes => none _ lens overload (.here takes)
      simp only [again]
    rcases decode_field name lens overload rest obj with ⟨returns, run⟩ | ⟨-, run⟩
    · have behind : NoneAppended rest obj := fun _ _ _ present => none _ _ _ (.behind returns present)
      rw [run, run]
      exact (spares.absorbs obj _).idempotent once (fun record => ih others behind record) record
    · rw [run, run, once]
  | object name lens fields rest inner ih =>
    obtain ⟨spares, within, others⟩ := distinct
    have once : ∀ record, lens.modify (fields.decodeMember (obj.get name))
        (lens.modify (fields.decodeMember (obj.get name)) record) =
          lens.modify (fields.decodeMember (obj.get name)) record := by
      intro record
      rw [Lens.modify_modify]
      -- The record inside is decoded from its own document.
      have again : ∀ value, fields.decodeMember (obj.get name) (fields.decodeMember (obj.get name) value) =
          fields.decodeMember (obj.get name) value := by
        intro value
        cases member : obj.get name with
        | object document =>
          exact inner within (fun _ _ _ present => none _ _ _ (.inside member present)) value
        | _ => rfl
      simp only [again]
    have behind : NoneAppended rest obj := fun _ _ _ present => none _ _ _ (.past present)
    rw [decode_object, decode_object]
    exact (spares.absorbs obj _).idempotent once (fun record => ih others behind record) record

end Fields

namespace Present

variable {τ γ : Type} {fields : Fields τ} {obj : JsonObject} {place : Lens τ γ} {found : Overload γ}

/-- The place of a field that is present is spared with the others, also inside of a record. -/
theorem spared (present : Present fields obj place found) {β : Type} {lens : Lens τ β} {replaces : Bool}
    (spares : fields.Spares lens replaces) :
    lens.Apart place ∨ lens.Same place ∧ replaces = true ∧ found.isAppended = false := by
  -- By the path that leads to the field; a record inside is spared as a whole.
  induction present with
  | here takes => exact spares.1
  | behind returns present ih => exact ih spares.2
  | inside member present ih => exact .inl (spares.1.comp _)
  | past present ih => exact ih spares.2

/--
Decoding changes the place of a field that is present by what it holds alone: the value is replaced, or it can be
told from the result.
-/
theorem effect (present : Present fields obj place found) (distinct : fields.Distinct) :
    ∃ change : γ → γ, (∀ record, place.get (fields.decode obj record) = change (place.get record)) ∧
      (found.isAppended = false → ∀ value other, change value = change other) ∧
      (found.isAppended = true → ∀ value other, change value = change other → value = other) := by
  induction present with
  | @here τ β name lens overload rest obj takes =>
    obtain ⟨after, behind, kept⟩ := distinct.1.get_decode obj
    -- The steps behind it change the value only where they replace it.
    have appends : overload.isAppended = true → ∀ value, after value = value := fun appends =>
      kept (by rw [appends]; rfl)
    rcases Fields.decode_field name lens overload rest obj with ⟨-, run⟩ | ⟨-, run⟩
    · refine ⟨fun value => after (Fields.stepped overload (obj.get name) value),
        fun record => by rw [run, behind, lens.get_modify], fun replaces value other => ?_,
        fun appended value other same => ?_⟩
      · exact congrArg after (Overload.step_of_takes takes replaces value other)
      · simp only [appends appended] at same
        exact (Overload.step_appended appended (obj.get name)).1 value other same
    · exact ⟨Fields.stepped overload (obj.get name), fun record => by rw [run, lens.get_modify],
        Overload.step_of_takes takes, fun appended => (Overload.step_appended appended _).1⟩
  | @behind τ β γ name lens overload rest obj place found returns present ih =>
    obtain ⟨spares, others⟩ := distinct
    obtain ⟨change, behind, replaced, appended⟩ := ih others
    have run : ∀ record, (Fields.field name lens overload rest).decode obj record =
        rest.decode obj (lens.modify (Fields.stepped overload (obj.get name)) record) := by
      intro record
      rcases Fields.decode_field name lens overload rest obj with ⟨-, run⟩ | ⟨throws, -⟩
      · exact run record
      · exact absurd returns throws
    rcases present.spared spares with apart | ⟨itself, -, replaces⟩
    · exact ⟨change, fun record => by rw [run, behind, apart.symm.get_modify], replaced, appended⟩
    · -- The later step replaces what the earlier one has left in the same place.
      cases itself
      refine ⟨fun value => change (Fields.stepped overload (obj.get name) value),
        fun record => by rw [run, behind, lens.get_modify], fun replaces value other => replaced replaces _ _,
        fun appends => ?_⟩
      rw [replaces] at appends
      contradiction
  | @inside τ β γ name lens fields rest obj inner place found member present ih =>
    obtain ⟨spares, within, others⟩ := distinct
    obtain ⟨change, inside, replaced, appended⟩ := ih within
    obtain ⟨after, behind, kept⟩ := spares.get_decode obj
    -- No later step writes anything inside of the record.
    refine ⟨change, fun record => ?_, replaced, appended⟩
    show place.get (lens.get _) = _
    rw [Fields.decode_object, behind, kept rfl, lens.get_modify, member]
    exact inside (lens.get record)
  | @past τ β γ name lens fields rest obj place found present ih =>
    obtain ⟨spares, within, others⟩ := distinct
    obtain ⟨change, behind, replaced, appended⟩ := ih others
    have apart : lens.Apart place := (present.spared spares).resolve_right (fun same => by simp at same)
    refine ⟨change, fun record => ?_, replaced, appended⟩
    rw [Fields.decode_object, behind, apart.symm.get_modify]

end Present

/--
A document is decoded twice as once, and its fields are decoded independently of the target, exactly where no list
of pairs or of records is present in it: those lists alone are not cleared before they are read.
-/
theorem decodesOnce_iff {τ : Type} (type : RecordType τ) (obj : JsonObject) :
    DecodesOnce type obj ↔ NoneAppended type.fields obj := by
  -- A field that is present tells what decoding does to it, and the others are left alone.
  refine ⟨fun ⟨_, independent⟩ γ lens overload present => ?_, fun none => ⟨fun target => ?_, ?_⟩⟩
  · -- Two targets that differ in an appended list differ in it after they have been decoded.
    by_contra appends
    have appends : overload.isAppended = true := by simpa using appends
    obtain ⟨change, decoded, -, injective⟩ := present.effect type.distinct
    obtain ⟨value, other, different⟩ := (Overload.step_appended appends .null).2
    have same := independent γ lens overload present (lens.set value type.fresh) (lens.set other type.fresh)
    have changed : change value = change other := by
      rw [← lens.get_set value type.fresh, ← lens.get_set other type.fresh, ← decoded, ← decoded]
      exact same
    exact different (injective appends value other changed)
  · exact Fields.decode_decode type.distinct none target
  · intro γ lens overload present target other
    obtain ⟨change, decoded, replaced, -⟩ := present.effect type.distinct
    have left := decoded target
    have right := decoded other
    have same := replaced (none γ lens overload present) (lens.get target) (lens.get other)
    exact left.trans (same.trans right.symm)

end Fms
