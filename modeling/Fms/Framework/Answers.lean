import Fms.Poco.Json

/-! What the REST handlers answer, and the errors they name. -/

namespace Fms

/-- `RESTAPI::Errors::msg`. -/
structure Msg where
  errNum : Nat
  errTxt : String
  deriving DecidableEq, Repr

namespace Errors

/-- `Error404`. -/
def error404 : Msg := ⟨404, "Resource does not exist."⟩

/-- `MissingUUID`. -/
def missingUUID : Msg := ⟨1000, "Missing UUID."⟩

/-- `InternalError`, which `handleRequest` answers to what a handler throws. -/
def internalError : Msg := ⟨1002, "Internal error. Please try later."⟩

/-- `InvalidJSONDocument`. -/
def invalidJSONDocument : Msg := ⟨1003, "Invalid JSON document."⟩

/-- `CouldNotBeDeleted`. -/
def couldNotBeDeleted : Msg := ⟨1006, "Element could not be deleted."⟩

/-- `RecordNotCreated`. -/
def recordNotCreated : Msg := ⟨1011, "Record could not be created."⟩

/-- `RecordNotUpdated`. -/
def recordNotUpdated : Msg := ⟨1012, "Record could not be updated."⟩

/-- `BothDeviceTypeRevision`. -/
def bothDeviceTypeRevision : Msg := ⟨1035, "Both deviceType and revision must be set."⟩

/-- `IdOrSerialEmpty`. -/
def idOrSerialEmpty : Msg := ⟨1036, "SerialNumber and Id must not be empty."⟩

end Errors

/-- What a handler answers a request with. -/
inductive Answer where
  /-- `OK`. -/
  | ok
  /-- `ReturnObject`. -/
  | object (body : JsonObject)
  /-- `BadRequest`. -/
  | badRequest (error : Msg)
  /-- `NotFound`. -/
  | notFound

namespace Answer

/-- The error an answer names, if it is one. -/
def error : Answer → Option Msg
  | ok | object _ => none
  | badRequest error => some error
  | notFound => some Errors.error404

/-- The answer is an error. -/
def IsError (answer : Answer) : Prop := answer.error.isSome = true

instance (answer : Answer) : Decidable answer.IsError := inferInstanceAs (Decidable (_ = _))

@[simp] theorem isError_ok : ¬ ok.IsError := by decide

@[simp] theorem isError_object (body : JsonObject) : ¬ (object body).IsError := fun error => by cases error

@[simp] theorem isError_badRequest (error : Msg) : (badRequest error).IsError := rfl

@[simp] theorem isError_notFound : notFound.IsError := rfl

end Answer

end Fms
