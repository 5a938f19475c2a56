import Fms.Framework.FieldFromJson

/-! `RESTAPI_utils::field_to_json`: how records are written to JSON objects, and read back from them. -/

universe u v

namespace Fms

/-- A step of a `to_json`: the member it sets, and the value it has for a record. -/
structure FieldWriter (τ : Type u) where
  name : String
  value : τ → Var

namespace FieldToJson

variable {τ : Type u} {β : Type v}

/-- The steps in order. -/
def all (fields : List (FieldWriter τ)) (record : τ) : JsonObject :=
  fields.foldl (fun obj field => JsonObject.set obj field.name (field.value record)) []

/-- `field_to_json` for `std::string`. -/
def string (name : String) (load : τ → String) : FieldWriter τ :=
  ⟨name, fun record => .string (load record)⟩

/-- `field_to_json` for `uint64_t`. -/
def uint64 (name : String) (load : τ → UInt64) : FieldWriter τ :=
  ⟨name, fun record => .int (load record).toNat⟩

/-- `field_to_json` for `bool`. -/
def bool (name : String) (load : τ → Bool) : FieldWriter τ :=
  ⟨name, fun record => .bool (load record)⟩

/-- The array of the objects some records are written to. -/
def array (toJson : β → JsonObject) (records : List β) : List Var :=
  records.map fun record => .object (toJson record)

/-- `field_to_json` for an enumeration, given the function that writes its names. -/
def enumeration (name : String) (toText : β → String) (load : τ → β) : FieldWriter τ :=
  ⟨name, fun record => .string (toText (load record))⟩

/-- `field_to_json` for `Types::StringVec`. -/
def stringVec (name : String) (load : τ → List String) : FieldWriter τ :=
  ⟨name, fun record => .array ((load record).map Var.string)⟩

/-- `field_to_json` for a record. -/
def object (name : String) (toJson : β → JsonObject) (load : τ → β) : FieldWriter τ :=
  ⟨name, fun record => .object (toJson (load record))⟩

/-- `field_to_json` for a vector of records. -/
def vector (name : String) (toJson : β → JsonObject) (load : τ → List β) : FieldWriter τ :=
  ⟨name, fun record => .array (array toJson (load record))⟩

end FieldToJson

/-- The conversions of the library give back the values that were set. -/
structure Poco.Converts (poco : Poco) : Prop where
  uint64 : ∀ value : UInt64, poco.toUInt64 (.int value.toNat) = some value
  string : ∀ value, poco.toString (.string value) = some value
  bool : ∀ value, poco.toString (.bool value) = some (if value then "true" else "false")

/-- The library on any documents gives back the values that were set. -/
theorem Poco.converts_onDocuments (documents : List (String × Var)) :
    (Poco.onDocuments documents).Converts where
  uint64 value := by
    have bound := value.toNat_lt
    have inside : (0 : Int) ≤ value.toNat ∧ (value.toNat : Int) < 18446744073709551616 := by omega
    -- In the range of the type the number is its own remainder.
    have own : ((value.toNat : Int) % 2 ^ 64).toNat = value.toNat := by omega
    simp only [Poco.onDocuments, if_pos inside, UInt64.ofInt, own, UInt64.ofNat_toNat]
  string _ := rfl
  bool _ := rfl

namespace FieldToJson

variable {τ : Type u} {β : Type v} {poco : Poco} {record : τ}

/-- A reader takes a value from one state to the next where it finds what a writer has set. -/
def Restores (record : τ) (writer : FieldWriter τ) (reader : FieldReader τ) (value next : τ) : Prop :=
  ∀ obj : JsonObject, obj.has writer.name = true → obj.get writer.name = writer.value record →
    reader obj value = (true, next)

/-- Readers take a value from one state to another, one by one for what the writers have set. -/
inductive Restored (record : τ) :
    List (FieldWriter τ) → List (FieldReader τ) → τ → τ → Prop
  | nil (value : τ) : Restored record [] [] value value
  | cons {writer : FieldWriter τ} {reader : FieldReader τ} {writers : List (FieldWriter τ)}
      {readers : List (FieldReader τ)} {value next last : τ}
      (first : Restores record writer reader value next)
      (rest : Restored record writers readers next last) :
      Restored record (writer :: writers) (reader :: readers) value last

/-- A member that the later steps do not set again keeps its value. -/
theorem written_of_not_mem {fields : List (FieldWriter τ)} {name : String}
    (untouched : name ∉ fields.map FieldWriter.name) (obj : JsonObject) :
    (fields.foldl (fun obj field => JsonObject.set obj field.name (field.value record)) obj).has name =
        obj.has name ∧
      (fields.foldl (fun obj field => JsonObject.set obj field.name (field.value record)) obj).get name =
        obj.get name := by
  -- The object grows step by step, so it stays arbitrary in the induction.
  induction fields generalizing obj with
  | nil => exact ⟨rfl, rfl⟩
  | cons field rest ih =>
    obtain ⟨apart, untouched⟩ := not_or.mp (List.mem_cons.not.mp untouched)
    obtain ⟨has, get⟩ := ih untouched (JsonObject.set obj field.name (field.value record))
    rw [List.foldl_cons, has, get, JsonObject.has_set, JsonObject.get_set, if_neg apart]
    simp [apart]

/-- An object has the member that a step sets whose name no other step sets. -/
theorem written {fields : List (FieldWriter τ)} {field : FieldWriter τ} (member : field ∈ fields)
    (once : (fields.map FieldWriter.name).count field.name = 1) :
    (all fields record).has field.name = true ∧
      (all fields record).get field.name = field.value record := by
  -- The member is there after its own step, and none behind it touches the name.
  obtain ⟨front, back, rfl⟩ := List.append_of_mem member
  have later : field.name ∉ back.map FieldWriter.name := by
    rw [List.map_append, List.map_cons, List.count_append, List.count_cons_self] at once
    exact List.count_eq_zero.mp (by omega)
  rw [all, List.foldl_append, List.foldl_cons]
  obtain ⟨has, get⟩ := @written_of_not_mem τ record _ _ later (JsonObject.set
    (front.foldl (fun obj field => JsonObject.set obj field.name (field.value record)) [])
    field.name (field.value record))
  rw [has, get, JsonObject.has_set, JsonObject.get_set]
  simp

/--
Readers that restore what some of the writers set find it in the object that all writers make, whatever order they
take; the names that they read are set once.
-/
theorem restored_of_once {writers others : List (FieldWriter τ)} {readers : List (FieldReader τ)} {value last : τ}
    (restored : Restored record others readers value last) (within : others ⊆ writers)
    (once : ∀ name ∈ others.map FieldWriter.name, (writers.map FieldWriter.name).count name = 1) :
    FieldFromJson.all readers (all writers record) value = (true, last) := by
  -- Each reader works on the value that the one before it has left.
  induction restored with
  | nil value => rfl
  | @cons writer reader others readers value next last first rest ih =>
    obtain ⟨has, get⟩ := @written τ record _ writer (within (by simp)) (once writer.name (by simp))
    rw [FieldFromJson.all, first _ has get]
    exact ih (fun other member => within (by simp [member])) fun name member => once name (by simp [member])

/-- Readers that restore what the writers set, in the same order, find all of it in the object the writers make. -/
theorem restored_all {writers : List (FieldWriter τ)} {readers : List (FieldReader τ)} {value last : τ}
    (distinct : (writers.map FieldWriter.name).Nodup)
    (restored : Restored record writers readers value last) :
    FieldFromJson.all readers (all writers record) value = (true, last) :=
  restored_of_once restored (List.Subset.refl _) fun _ member => List.count_eq_one_of_mem distinct member

/-- A text is restored. -/
theorem restores_string (converts : poco.Converts) {name : String} {load : τ → String}
    {store : String → τ → τ} {value : τ} :
    Restores record (string name load) (FieldFromJson.string poco name store) value
      (store (load record) value) := by
  -- The member is there and is no null, so the reader converts what the writer put there.
  intro obj has get
  simp only [string] at has get
  simp [FieldFromJson.string, FieldFromJson.scalar, has, get, Var.isNull, converts.string]

/-- An unsigned number is restored. -/
theorem restores_uint64 (converts : poco.Converts) {name : String} {load : τ → UInt64}
    {store : UInt64 → τ → τ} {value : τ} :
    Restores record (uint64 name load) (FieldFromJson.uint64 poco name store) value
      (store (load record) value) := by
  intro obj has get
  simp only [uint64] at has get
  simp [FieldFromJson.uint64, FieldFromJson.scalar, has, get, Var.isNull, converts.uint64]

/-- A truth value is restored. -/
theorem restores_bool (converts : poco.Converts) {name : String} {load : τ → Bool}
    {store : Bool → τ → τ} {value : τ} :
    Restores record (bool name load) (FieldFromJson.bool poco name store) value
      (store (load record) value) := by
  intro obj has get
  simp only [bool] at has get
  -- The two truth values are the only ones to be converted.
  cases truth : load record with
  | true => simp [FieldFromJson.bool, FieldFromJson.scalar, has, get, truth, Var.isNull, converts.bool]
  | false => simp [FieldFromJson.bool, FieldFromJson.scalar, has, get, truth, Var.isNull, converts.bool]

/-- The elements of a written array are read back in order. -/
theorem elements_array {fromJson : FieldReader β} {fresh : β} {toJson : β → JsonObject}
    (inverse : ∀ inner, fromJson (toJson inner) fresh = (true, inner)) (records : List β) :
    FieldFromJson.elements (fun element =>
      element.extractObject.map fun inner => (fromJson inner fresh).2) (array toJson records) =
      (true, records) := by
  -- The loop stops at the first element that does not extract, and every one does.
  induction records with
  | nil => rfl
  | cons first rest ih =>
    have unfolded : array toJson (first :: rest) = .object (toJson first) :: array toJson rest := rfl
    have object : (Var.object (toJson first)).extractObject = some (toJson first) := rfl
    rw [unfolded, FieldFromJson.elements, ih]
    simp only [object, Option.map_some, inverse]

/-- A value of an enumeration is restored, where its name is read back. -/
theorem restores_enumeration (converts : poco.Converts) {name : String} {toText : β → String} {ofText : String → β}
    (inverse : ∀ entry, ofText (toText entry) = entry) {load : τ → β} {store : β → τ → τ} {value : τ} :
    Restores record (enumeration name toText load) (FieldFromJson.enumeration poco name ofText store) value
      (store (load record) value) := by
  intro obj has get
  simp only [enumeration] at has get
  simp [FieldFromJson.enumeration, FieldFromJson.scalar, has, get, Var.isNull, converts.string, inverse]

/-- A list of texts is restored, whatever was there. -/
theorem restores_stringVec (converts : poco.Converts) {name : String} {load : τ → List String}
    {store : List String → τ → τ} {value : τ} :
    Restores record (stringVec name load) (FieldFromJson.stringVec poco name store) value
      (store (load record) value) := by
  intro obj _ get
  simp only [stringVec] at get
  -- Every text is converted to itself, so the loop goes through.
  have texts : ∀ members : List String,
      FieldFromJson.elements poco.toString (members.map Var.string) = (true, members) := by
    intro members
    induction members with
    | nil => rfl
    | cons first rest ih => simp [FieldFromJson.elements, converts.string, ih]
  simp [FieldFromJson.stringVec, get, texts]

/-- A record inside of another one is restored as its own reader does it, from what is there. -/
theorem restores_object {fromJson : FieldReader β} {toJson : β → JsonObject} {name : String} {load : τ → β}
    {store : β → τ → τ} {value : τ} {inner : β}
    (restored : fromJson (toJson (load record)) (load value) = (true, inner)) :
    Restores record (object name toJson load) (FieldFromJson.object name fromJson load store) value
      (store inner value) := by
  intro obj _ get
  simp only [object] at get
  simp [FieldFromJson.object, get, restored]

/-- A vector of records is restored behind what is there. -/
theorem restores_vector {fromJson : FieldReader β} {fresh : β} {toJson : β → JsonObject}
    (inverse : ∀ inner, fromJson (toJson inner) fresh = (true, inner)) {name : String}
    {load : τ → List β} {store : List β → τ → τ} {value : τ} :
    Restores record (vector name toJson load) (FieldFromJson.vector name fresh fromJson load store) value
      (store (load value ++ load record) value) := by
  -- A vector is appended to, so what was there stays in front.
  intro obj _ get
  simp only [vector] at get
  simp [FieldFromJson.vector, get, elements_array inverse]

end FieldToJson

end Fms
