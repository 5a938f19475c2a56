import Fms.Framework.Mediation
import Fms.Rest.RestService

/-! What the requests to the two servers change: nothing but for a caller that has been authorized for it. -/

namespace Fms

namespace RESTAPI

open RESTAPIHandler

variable {env : Environment} {bindings : BindingMap} {call : Call} {s : RestService} {argument : Option String}

/-- A request that reaches one of the two servers. -/
structure Arrival where
  internal : Bool
  env : Environment
  ctx : RequestContext
  request : HttpRequest

/-- What happens at the arrival: the request goes to the handler that the server makes for it, if it makes one. -/
def Arrival.events (setting : Setting) (arrival : Arrival) : List (Event RestService Response) :=
  match createRequestHandler setting arrival.internal arrival.request with
  | none => []
  | some (T, bindings) =>
    [.request (T.profile arrival.internal) (T.perform arrival.env bindings) arrival.ctx arrival.request]

end RESTAPI

end Fms
