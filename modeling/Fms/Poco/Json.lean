import Mathlib.Data.List.Nodup

/-! JSON values as the Poco library hands them to the service. -/

namespace Fms

/-- `Poco::Dynamic::Var` as the JSON parser fills it. -/
inductive Var where
  | null
  | bool (value : Bool)
  | int (value : Int)
  /-- A number with a fraction or an exponent, in the spelling of the document. -/
  | double (text : String)
  | string (value : String)
  | array (elements : List Var)
  | object (members : List (String × Var))

/-- `Poco::JSON::Object`: the members of an object, no name occurring twice. -/
abbrev JsonObject := List (String × Var)

/-- The parser and the conversions of the Poco library; a result is absent where the call throws. -/
structure Poco where
  /-- `Poco::JSON::Parser::parse`. -/
  parse : String → Option Var
  /-- `Var::convert<uint64_t>`. -/
  toUInt64 : Var → Option UInt64
  /-- `Var::toString`. -/
  toString : Var → Option String
  /-- Whether `Stringifier::stringify` returns for an object pointer, which may be null. -/
  stringify : Option JsonObject → Bool

namespace Var

/-- `extract<Poco::JSON::Object::Ptr>`: throws unless the value is an object. -/
def extractObject : Var → Option JsonObject
  | object members => some members
  | _ => none

/-- `extract<Poco::JSON::Array::Ptr>`: throws unless the value is an array. -/
def extractArray : Var → Option (List Var)
  | array elements => some elements
  | _ => none

/-- `Var::isEmpty`. -/
def isNull : Var → Bool
  | null => true
  | _ => false

end Var

namespace JsonObject

/-- `Object::has`. -/
def has (members : JsonObject) (name : String) : Bool :=
  members.any fun member => member.1 = name

/-- `Object::get`: the empty value for a name that is absent. -/
def get (members : JsonObject) (name : String) : Var :=
  ((members.find? fun member => member.1 = name).map Prod.snd).getD .null

/-- `Object::set`. -/
def set (members : JsonObject) (name : String) (value : Var) : JsonObject :=
  (members.filter fun member => decide (member.1 ≠ name)) ++ [(name, value)]

/-- After a member has been set, its value is the new one, and the others have theirs. -/
theorem get_set (members : JsonObject) (name : String) (value : Var) (other : String) :
    (set members name value).get other = if other = name then value else members.get other := by
  unfold set get
  by_cases same : other = name
  · subst same
    -- The old value has been taken out.
    have gone : (members.filter fun member => decide (member.1 ≠ other)).find?
        (fun member => decide (member.1 = other)) = none := by
      simp
    rw [List.find?_append, gone]
    simp
  · have kept : (members.filter fun member => decide (member.1 ≠ name)).find?
        (fun member => decide (member.1 = other)) =
        members.find? fun member => decide (member.1 = other) := by
      rw [List.find?_filter]
      congr 1
      funext member
      by_cases here : member.1 = other
      · simp [here, same]
      · simp [here]
    rw [List.find?_append, kept, if_neg same]
    simp [Ne.symm same]

/-- After a member has been set, it is there, and so are the others. -/
theorem has_set (members : JsonObject) (name : String) (value : Var) (other : String) :
    (set members name value).has other = (decide (other = name) || members.has other) := by
  unfold set has
  by_cases same : other = name
  · simp [same]
  -- Dropping the member of the name drops nothing that answers to another name.
  · have kept : (members.filter fun member => decide (member.1 ≠ name)).any
        (fun member => decide (member.1 = other)) =
        members.any fun member => decide (member.1 = other) := by
      rw [List.any_filter]
      congr 1
      funext member
      by_cases here : member.1 = other
      · simp [here, same]
      · simp [here]
    rw [List.any_append, kept]
    simp [same, Ne.symm same]

/-- `Object::getObject`, used through its pointer: a null pointer throws. -/
def getObject (members : JsonObject) (name : String) : Option JsonObject :=
  (members.get name).extractObject

end JsonObject

/-- `Parser::parse(..).extract<Object::Ptr>()`. -/
def Poco.parseObject (poco : Poco) (text : String) : Option JsonObject :=
  (poco.parse text).bind Var.extractObject

/-- The library on a few documents with known values, for examples. -/
def Poco.onDocuments (documents : List (String × Var)) : Poco where
  parse text := (documents.find? fun document => document.1 = text).map Prod.snd
  toUInt64
    | .int value => if 0 ≤ value ∧ value < 18446744073709551616 then some (UInt64.ofInt value) else none
    | .bool value => some (if value then 1 else 0)
    | _ => none
  toString
    | .string value => some value
    | .int value => some (ToString.toString value)
    | .bool value => some (if value then "true" else "false")
    | _ => none
  -- The stringifier calls a method of the object, which a null pointer answers with an exception.
  stringify := Option.isSome

end Fms
