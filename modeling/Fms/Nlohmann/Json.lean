import Mathlib.Data.List.Nodup

/-! JSON values as the nlohmann library hands them to the service. -/

namespace Fms.Nlohmann

/-- `nlohmann::json`. -/
inductive Json where
  | null
  | boolean (value : Bool)
  /-- A number, in the spelling of the document. -/
  | number (text : String)
  | string (value : String)
  | array (elements : List Json)
  | object (members : List (String × Json))

namespace Json

/-- The member of an object with a name. -/
def member? (name : String) : Json → Option Json
  | object members => (members.find? fun member => member.1 = name).map Prod.snd
  | _ => none

/-- `contains`: false for a value that is no object. -/
def contains (j : Json) (name : String) : Bool :=
  (j.member? name).isSome

/--
`operator[]` on a value that may be changed; there is no result where it throws.

It makes an object of a null value, and gives an object a null member it lacks.
-/
def index (j : Json) (name : String) : Option Json :=
  match j with
  | null => some null
  | object members => some (((object members).member? name).getD null)
  | boolean _ | number _ | string _ | array _ => none

/-- The conversion to `std::string`, which throws unless the value is a string. -/
def getString : Json → Option String
  | string value => some value
  | null | boolean _ | number _ | array _ | object _ => none

/-- `operator==` with a text. -/
def equals (j : Json) (text : String) : Bool :=
  match j with
  | string value => value = text
  | null | boolean _ | number _ | array _ | object _ => false

/-- Only a string with that very text equals it. -/
theorem equals_iff {j : Json} {text : String} : j.equals text = true ↔ j = string text := by
  cases j <;> simp [equals]

/-- A member that is contained is found by its index. -/
theorem index_of_member {j value : Json} {name : String} (found : j.member? name = some value) :
    j.index name = some value := by
  -- Only an object has members.
  cases j with
  | object members => simp [index, found]
  | null => simp [member?] at found
  | boolean _ => simp [member?] at found
  | number _ => simp [member?] at found
  | string _ => simp [member?] at found
  | array _ => simp [member?] at found

/-- What an index finds and is not null is a member. -/
theorem member_of_index {j value : Json} {name : String} (found : j.index name = some value)
    (present : value ≠ null) : j.member? name = some value := by
  cases j with
  | object members =>
    -- The null value stands for a member that is missing.
    cases stored : (object members).member? name with
    | none => simp [index, stored, present.symm] at found
    | some other => simpa [index, stored] using found
  | null => exact absurd (Option.some.inj found).symm present
  | boolean _ => simp [index] at found
  | number _ => simp [index] at found
  | string _ => simp [index] at found
  | array _ => simp [index] at found

/-- An object gives null for a member it lacks. -/
theorem index_of_object {j value : Json} {other : String} (object_ : j.member? other = some value)
    (name : String) : j.index name = some ((j.member? name).getD null) := by
  cases j with
  | object members => rfl
  | null => simp [member?] at object_
  | boolean _ => simp [member?] at object_
  | number _ => simp [member?] at object_
  | string _ => simp [member?] at object_
  | array _ => simp [member?] at object_

/-- A value has an index when it is null or an object. -/
def Indexable : Json → Prop
  | null | object _ => True
  | boolean _ | number _ | string _ | array _ => False

/-- An index throws exactly on a value that is neither null nor an object. -/
theorem isSome_index {j : Json} (name : String) :
    (j.index name).isSome = true ↔ j.Indexable := by
  cases j <;> simp [index, Indexable]

end Json

end Fms.Nlohmann
