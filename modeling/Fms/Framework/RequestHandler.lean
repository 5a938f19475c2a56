import Fms.Framework.Answers
import Fms.Framework.QueryParameters
import Fms.Framework.RateLimiter
import Fms.Security.TokenKinds

/-! `RESTAPIHandler::handleRequest`: the way of a request to the method of its handler, and the answers on that way. -/

universe u v

namespace Fms

namespace Errors

/-- `ACCESS_DENIED`. -/
def accessDenied : Msg := ⟨7, "Access denied."⟩

/-- `INVALID_TOKEN`. -/
def invalidToken : Msg := ⟨8, "Invalid token."⟩

/-- `EXPIRED_TOKEN`. -/
def expiredToken : Msg := ⟨9, "Expired token."⟩

/-- `RATE_LIMIT_EXCEEDED`. -/
def rateLimitExceeded : Msg := ⟨10, "Rate limit exceeded."⟩

/-- `SECURITY_SERVICE_UNREACHABLE`. -/
def securityServiceUnreachable : Msg := ⟨13, "Security service is unreachable, try again later."⟩

/-- `UnsupportedHTTPMethod`. -/
def unsupportedHTTPMethod : Msg := ⟨1004, "Unsupported HTTP Method"⟩

end Errors

namespace RESTAPIHandler

/-- What a class of handlers, and the server it runs in, hand to `RESTAPIHandler`. -/
structure Profile where
  methods : List String
  internal : Bool
  alwaysAuthorize : Bool := true
  rateLimited : Bool := false
  /-- `MyRates_.Interval`. -/
  interval : Int := 1000
  /-- `MyRates_.MaxCalls`. -/
  maxCalls : Int := 100
  subOnlyService : Bool := false

/-- A request, as far as `handleRequest` reads it. -/
structure HttpRequest where
  method : String
  uri : String
  headers : List (String × String) := []
  contentLength : Int := 0
  contentType : String := ""
  body : String := ""
  /-- The host of the client address. -/
  host : String := ""
  /-- `OAuth20Credentials` with the scheme `Bearer`; absent where it throws. -/
  bearerToken : Option String := none

/-- `HTTPMessage::get` without a default, for a header in any case; absent where it throws. -/
def HttpRequest.header (request : HttpRequest) (name : String) : Option String :=
  (request.headers.find? fun header => sameIgnoringCase header.1 name).map Prod.snd

/-- What a request takes from outside. -/
structure RequestContext where
  /-- `Utils::Now`. -/
  now : UInt64
  /-- The system clock, in milliseconds. -/
  milliseconds : Int
  /-- The instances of the security service, as they would answer at a path. -/
  services : String → List Exchange

/-- The libraries and the configuration that requests are handled with. -/
structure Setting where
  poco : Poco
  /-- `Poco::URI`: the path and the parameters of a query, or the text of the exception. -/
  uri : String → Except String (String × ParameterList)
  /-- `std::hash`. -/
  strHash : String → UInt64
  /-- `MyHash_`. -/
  myHash : String

/-- What a method of a handler finds when it is called. -/
structure Call where
  request : HttpRequest
  parsedBody : Option JsonObject
  query : Query
  userInfo : UserInfoAndPolicy
  /-- `REST_Requester_`. -/
  requester : String

/-- How a request ends. -/
inductive Reply (ρ : Type v) where
  /-- `ProcessOptions`. -/
  | options (methods : List String)
  | badRequest (error : Msg)
  | unAuthorized (error : Msg)
  /-- What the method of the handler has answered. -/
  | answered (answer : ρ)
  /-- An exception of another kind leaves `handleRequest`. -/
  | uncaught (exception : StdException)

/-- The methods of a handler, by the method of the request; a method may throw after it has changed something. -/
abbrev Methods (σ : Type u) (ρ : Type v) := String → Call → σ → Except Thrown ρ × σ

/-- The parts of a service that requests share. -/
structure RestState (σ : Type u) where
  rateLimiter : RateLimiter.Cache := RateLimiter.emptyCache
  authClient : AuthClient := {}
  state : σ

/-- What `IsAuthorized` finds out. -/
structure Authorization where
  allowed : Bool
  expired : Bool := false
  contacted : Bool := false
  userInfo : UserInfoAndPolicy := {}
  requester : String := ""

/-- `MicroService::IsValidAPIKEY`, where a missing key throws. -/
def isValidAPIKEY (myHash : String) (request : HttpRequest) : Bool :=
  request.header "X-API-KEY" = some myHash

/-- The path a key is validated at. -/
def apiKeyPath : String := "/api/v1/validateApiKey"

/-- What a question to the security service comes to. -/
def Authorization.ofOutcome (outcome : AuthOutcome) : Authorization where
  allowed := outcome.accepted
  expired := outcome.arguments.expired
  contacted := outcome.arguments.contacted
  userInfo := outcome.arguments.uInfo
  requester := if outcome.accepted then outcome.arguments.uInfo.userinfo.email else ""

/-- `IsAuthorized`. -/
def isAuthorized (setting : Setting) (profile : Profile) (ctx : RequestContext) (authClient : AuthClient)
    (request : HttpRequest) : Authorization × AuthClient :=
  if profile.internal && (request.header "X-INTERNAL-NAME").isSome then
    let allowed := isValidAPIKEY setting.myHash request
    let requester := if allowed then (request.header "X-INTERNAL-NAME").getD "unknown" else ""
    ({ allowed, contacted := true, requester }, authClient)
  else if !profile.internal && (request.header "X-API-KEY").isSome then
    let sessionToken := (request.header "X-API-KEY").getD ""
    let (outcome, authClient) :=
      authClient.isValidApiKey setting.poco ⟨ctx.now, ctx.services apiKeyPath⟩ sessionToken {}
    (.ofOutcome outcome, authClient)
  else
    -- Without a bearer token the empty one is asked for.
    let sessionToken := request.bearerToken.getD ""
    let (outcome, authClient) :=
      authClient.isAuthorizedFor setting.poco profile.subOnlyService ⟨ctx.now, ctx.services⟩ sessionToken {}
    (.ofOutcome outcome, authClient)

/-- The first step of `handleRequest`: a body of JSON is parsed, which throws where it is no object. -/
def parseBody (poco : Poco) (request : HttpRequest) : Option (Option JsonObject) :=
  if 0 < request.contentLength ∧ occursIn "application/json" request.contentType = true then
    (poco.parseObject request.body).map some
  else some none

/-- Whether a request is over its limit, and the rate limiter after it; the address of the request may throw. -/
def checkRate (setting : Setting) (profile : Profile) (ctx : RequestContext) (rateLimiter : RateLimiter.Cache)
    (request : HttpRequest) : Option (Bool × RateLimiter.Cache) :=
  if profile.rateLimited then
    match setting.uri request.uri with
    | .error _ => none
    | .ok (path, _) => some (RateLimiter.isRateLimited setting.strHash rateLimiter
        { path, host := request.host, period := profile.interval, maxCalls := profile.maxCalls, now := ctx.milliseconds })
  else some (false, rateLimiter)

/-- `ContinueProcessing`: the answer of a request that does not go on. -/
def continueProcessing {ρ : Type v} (profile : Profile) (request : HttpRequest) : Option (Reply ρ) :=
  if request.method = "OPTIONS" then some (.options profile.methods)
  else if request.method ∉ profile.methods then some (.badRequest Errors.unsupportedHTTPMethod)
  else none

/-- What a request that has not been authorized is answered with. -/
def refusal (authorization : Authorization) : Msg :=
  if authorization.expired then Errors.expiredToken
  else if authorization.contacted then Errors.invalidToken
  else Errors.securityServiceUnreachable

/-- What `handleRequest` makes of an exception. -/
def Reply.ofThrown {ρ : Type v} : Thrown → Reply ρ
  | .poco _ => .badRequest Errors.internalError
  | .standard exception => .uncaught exception

/-- The methods that have a method of their own in every handler. -/
def dispatched : List String := ["GET", "POST", "DELETE", "PUT"]

/-- What `handleRequest` does: how the request ends, the call it has made, and the state after it. -/
structure Outcome (σ : Type u) (ρ : Type v) where
  reply : Reply ρ
  /-- The call of a method of the handler, if it has come to that. -/
  called : Option Call := none
  after : RestState σ

section Handling

variable {σ : Type u} {ρ : Type v}

/-- The end of `handleRequest`, for a request that has passed. -/
def dispatch (setting : Setting) (methods : Methods σ ρ) (request : HttpRequest) (parsedBody : Option JsonObject)
    (authorization : Authorization) (s : RestState σ) : Outcome σ ρ :=
  match parseParameters (fun text => (setting.uri text).map Prod.snd) request.uri {} with
  | .error thrown => { reply := .ofThrown thrown, after := s }
  | .ok query =>
    if request.method ∈ dispatched then
      let call : Call :=
        { request, parsedBody, query, userInfo := authorization.userInfo, requester := authorization.requester }
      match methods request.method call s.state with
      | (.ok answer, state) => { reply := .answered answer, called := some call, after := { s with state } }
      | (.error thrown, state) => { reply := .ofThrown thrown, called := some call, after := { s with state } }
    else { reply := .badRequest Errors.unsupportedHTTPMethod, after := s }

/-- `handleRequest`. -/
def handleRequest (setting : Setting) (profile : Profile) (methods : Methods σ ρ) (ctx : RequestContext)
    (request : HttpRequest) (s : RestState σ) : Outcome σ ρ :=
  match parseBody setting.poco request with
  | none => { reply := .badRequest Errors.internalError, after := s }
  | some parsedBody =>
    match checkRate setting profile ctx s.rateLimiter request with
    | none => { reply := .badRequest Errors.internalError, after := s }
    | some (true, rateLimiter) => { reply := .unAuthorized Errors.rateLimitExceeded, after := { s with rateLimiter } }
    | some (false, rateLimiter) =>
      let s := { s with rateLimiter }
      match continueProcessing profile request with
      | some reply => { reply, after := s }
      | none =>
        if profile.alwaysAuthorize then
          let (authorization, authClient) := isAuthorized setting profile ctx s.authClient request
          let s := { s with authClient }
          if authorization.allowed then dispatch setting methods request parsedBody authorization s
          else { reply := .unAuthorized (refusal authorization), after := s }
        else dispatch setting methods request parsedBody { allowed := true } s

end Handling

end RESTAPIHandler

end Fms
