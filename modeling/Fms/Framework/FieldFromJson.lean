import Fms.Poco.Json

/-! `RESTAPI_utils::field_from_json`: how records are filled from JSON objects. -/

universe u v

namespace Fms

/-- A step of a `from_json`: whether it returns, and the record it leaves, also where it throws. -/
abbrev FieldReader (τ : Type u) := JsonObject → τ → Bool × τ

namespace FieldFromJson

variable {τ : Type u} {β : Type v}

/-- The steps in order, up to the first that throws. -/
def all : List (FieldReader τ) → FieldReader τ
  | [], _, value => (true, value)
  | field :: rest, obj, value =>
    match field obj value with
    | (true, value) => all rest obj value
    | (false, value) => (false, value)

/-- The overloads for one value, which an absent or empty field leaves as it is. -/
def scalar (name : String) (convert : Var → Option β) (store : β → τ → τ) : FieldReader τ :=
  fun obj value =>
    if obj.has name && !(obj.get name).isNull then
      match convert (obj.get name) with
      | some read => (true, store read value)
      | none => (false, value)
    else (true, value)

/-- `field_from_json` for `std::string`. -/
def string (poco : Poco) (name : String) (store : String → τ → τ) : FieldReader τ :=
  scalar name poco.toString store

/-- `field_from_json` for `uint64_t`. -/
def uint64 (poco : Poco) (name : String) (store : UInt64 → τ → τ) : FieldReader τ :=
  scalar name poco.toUInt64 store

/-- `field_from_json` for `bool`. -/
def bool (poco : Poco) (name : String) (store : Bool → τ → τ) : FieldReader τ :=
  scalar name (fun value => (poco.toString value).map fun text => decide (text = "true")) store

/-- `field_from_json` for an enumeration, given the function that reads its names. -/
def enumeration (poco : Poco) (name : String) (fromString : String → β) (store : β → τ → τ) :
    FieldReader τ :=
  scalar name (fun value => (poco.toString value).map fromString) store

/-- Elements read from the left, up to the first whose conversion throws. -/
def elements (convert : Var → Option β) : List Var → Bool × List β
  | [] => (true, [])
  | element :: rest =>
    match convert element with
    | some read => let (ok, more) := elements convert rest; (ok, read :: more)
    | none => (false, [])

/-- `field_from_json` for `Types::StringVec`, which starts from the empty vector. -/
def stringVec (poco : Poco) (name : String) (store : List String → τ → τ) : FieldReader τ :=
  fun obj value =>
    match obj.get name with
    | .array members =>
      let (ok, read) := elements poco.toString members
      (ok, store read value)
    | _ => (true, value)

/-- `field_from_json` for a vector of records, which adds to what the vector holds. -/
def vector (name : String) (fresh : β) (fromJson : FieldReader β) (load : τ → List β)
    (store : List β → τ → τ) : FieldReader τ :=
  fun obj value =>
    match obj.get name with
    | .array members =>
      let (ok, read) := elements (fun element =>
        element.extractObject.map fun inner => (fromJson inner fresh).2) members
      (ok, store (load value ++ read) value)
    | _ => (true, value)

/-- `field_from_json` for a record, whose own result is not looked at. -/
def object (name : String) (fromJson : FieldReader β) (load : τ → β) (store : β → τ → τ) :
    FieldReader τ :=
  fun obj value =>
    match obj.get name with
    | .object inner => (true, store (fromJson inner (load value)).2 value)
    | _ => (true, value)

/-- A member that is there and no null can be converted. -/
def Convertible (name : String) (convert : Var → Option β) (obj : JsonObject) : Prop :=
  (obj.has name && !(obj.get name).isNull) = true → (convert (obj.get name)).isSome = true

/-- A step for one value throws on a member that cannot be converted, and leaves the record. -/
theorem scalar_of_not_convertible {name : String} {convert : Var → Option β} {obj : JsonObject}
    (unreadable : ¬ Convertible name convert obj) (store : β → τ → τ) (value : τ) :
    scalar name convert store obj value = (false, value) := by
  obtain ⟨present, none_⟩ := Classical.not_imp.mp unreadable
  rw [scalar, if_pos present, Option.not_isSome_iff_eq_none.mp none_]

/-- A step for one value stores a member that can be converted, or passes over one that is not there. -/
theorem scalar_of_convertible {name : String} {convert : Var → Option β} {obj : JsonObject}
    (readable : Convertible name convert obj) (store : β → τ → τ) (value : τ) :
    scalar name convert store obj value = (true, value) ∨
      ∃ read, scalar name convert store obj value = (true, store read value) := by
  rw [scalar]
  by_cases present : (obj.has name && !(obj.get name).isNull) = true
  · obtain ⟨read, converted⟩ := Option.isSome_iff_exists.mp (readable present)
    exact Or.inr ⟨read, by rw [if_pos present, converted]⟩
  · exact Or.inl (if_neg present)

/-- After a step that returns, the others go on with what it has left. -/
theorem all_of_returns {field : FieldReader τ} {obj : JsonObject} {value left : τ}
    (returns : field obj value = (true, left)) (rest : List (FieldReader τ)) :
    all (field :: rest) obj value = all rest obj left := by
  rw [all, returns]

/-- A step that throws is the last one. -/
theorem all_of_throws {field : FieldReader τ} {obj : JsonObject} {value left : τ}
    (throws : field obj value = (false, left)) (rest : List (FieldReader τ)) :
    all (field :: rest) obj value = (false, left) := by
  rw [all, throws]

end FieldFromJson

end Fms
