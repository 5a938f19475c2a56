import Fms.Poco.Json

/-! Requests to the other services of the system, and what they answer. -/

namespace Fms

/-- `HTTPResponse::HTTP_OK`. -/
def httpOk : Nat := 200

/-- `HTTPResponse::HTTP_GATEWAY_TIMEOUT`. -/
def httpGatewayTimeout : Nat := 504

/-- How talking to one instance of a service ends. -/
inductive Exchange where
  /-- An exception at the address, the connection, the sending or the receiving. -/
  | threw
  | answered (status : Nat) (body : String)
  deriving DecidableEq, Repr

namespace OpenAPIRequestGet

/-- `Do`: the status, and the response object, null unless a document arrived with status OK. -/
def doRequest (poco : Poco) (services : List Exchange) : Nat × Option JsonObject :=
  match services with
  | [] => (httpGatewayTimeout, none)
  | .threw :: _ => (httpGatewayTimeout, none)
  -- The loop over the instances returns from its first round.
  | .answered status body :: _ =>
    if status = httpOk then
      match poco.parseObject body with
      | some responseObject => (httpOk, some responseObject)
      | none => (httpGatewayTimeout, none)
    else (status, none)

end OpenAPIRequestGet

end Fms
