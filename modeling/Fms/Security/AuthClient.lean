import Fms.Framework.Request
import Fms.Security.Objects
import Std.Data.ExtTreeMap.Lemmas

/-! `AuthClient`: credentials the security service has accepted, and the questions it is asked. -/

namespace Fms

/-- `AuthClient::ApiKeyCacheEntry`. -/
structure ApiKeyCacheEntry where
  userInfo : UserInfoAndPolicy
  expiresOn : UInt64
  deriving DecidableEq, Repr

/-- The caches of `AuthClient`, each a map from credentials. -/
structure AuthClient where
  cache : Std.ExtTreeMap String UserInfoAndPolicy := ∅
  apiKeyCache : Std.ExtTreeMap String ApiKeyCacheEntry := ∅

/-- The arguments a call can write to. -/
structure AuthArguments where
  uInfo : UserInfoAndPolicy := {}
  expired : Bool := false
  contacted : Bool := false

/-- What a call takes from outside. -/
structure AuthContext where
  /-- `Utils::Now`, which a call reads at most once. -/
  now : UInt64
  /-- The instances of the security service. -/
  services : List Exchange

/-- What a call returns. -/
structure AuthOutcome where
  accepted : Bool
  /-- Whether the call has sent a request to the security service. -/
  requested : Bool
  arguments : AuthArguments

namespace AuthClient

/-- `RemovedCachedToken`. -/
def removedCachedToken (s : AuthClient) (token : String) : AuthClient :=
  { cache := s.cache.erase token, apiKeyCache := s.apiKeyCache.erase token }

/-- `IsTokenExpired`, with an unsigned sum. -/
def isTokenExpired (now : UInt64) (t : WebToken) : Bool :=
  t.expiresIn + t.created < now

/-- `RetrieveTokenInformation`; the kind of token only changes the path of the request. -/
def retrieveTokenInformation (poco : Poco) (ctx : AuthContext) (s : AuthClient)
    (sessionToken : String) (arguments : AuthArguments) : AuthOutcome × AuthClient :=
  let (statusCode, response) := OpenAPIRequestGet.doRequest poco ctx.services
  if statusCode = httpGatewayTimeout then
    (⟨false, true, { arguments with contacted := false }⟩, s)
  else
    let arguments := { arguments with contacted := true }
    match if statusCode = httpOk then response else none with
    | some response =>
      if response.has "tokenInfo" && response.has "userInfo" then
        let uInfo := (UserInfoAndPolicy.fromJson poco response arguments.uInfo).2
        if isTokenExpired ctx.now uInfo.webtoken then
          (⟨false, true, { arguments with uInfo, expired := true }⟩, s)
        else
          (⟨true, true, { arguments with uInfo, expired := false }⟩,
            { s with cache := s.cache.insert sessionToken uInfo })
      else (⟨false, true, arguments⟩, s)
    | none => (⟨false, true, { arguments with expired := false }⟩, s)

/-- `IsAuthorized`. -/
def isAuthorized (poco : Poco) (ctx : AuthContext) (s : AuthClient) (sessionToken : String)
    (arguments : AuthArguments) : AuthOutcome × AuthClient :=
  match s.cache[sessionToken]? with
  | some user =>
    if isTokenExpired ctx.now user.webtoken then
      (⟨false, false, { arguments with expired := true }⟩,
        { s with cache := s.cache.erase sessionToken })
    else (⟨true, false, { arguments with uInfo := user, expired := false }⟩, s)
  | none => retrieveTokenInformation poco ctx s sessionToken arguments

/-- `RetrieveApiKeyInformation`, which leaves `Suspended` alone. -/
def retrieveApiKeyInformation (poco : Poco) (ctx : AuthContext) (s : AuthClient)
    (sessionToken : String) (arguments : AuthArguments) : AuthOutcome × AuthClient :=
  let (statusCode, response) := OpenAPIRequestGet.doRequest poco ctx.services
  if statusCode = httpGatewayTimeout then
    (⟨false, true, { arguments with contacted := false }⟩, s)
  else
    let arguments := { arguments with contacted := true }
    match if statusCode = httpOk then response else none with
    | some response =>
      if response.has "tokenInfo" && response.has "userInfo" && response.has "expiresOn" then
        let uInfo := (UserInfoAndPolicy.fromJson poco response arguments.uInfo).2
        let arguments := { arguments with uInfo, expired := false }
        match poco.toUInt64 (response.get "expiresOn") with
        | some expiresOn =>
          (⟨true, true, arguments⟩,
            { s with apiKeyCache := s.apiKeyCache.insert sessionToken ⟨uInfo, expiresOn⟩ })
        -- The conversion throws after the record has been filled.
        | none => (⟨false, true, arguments⟩, s)
      else (⟨false, true, arguments⟩, s)
    | none => (⟨false, true, { arguments with expired := false }⟩, s)

/-- `IsValidApiKey`. -/
def isValidApiKey (poco : Poco) (ctx : AuthContext) (s : AuthClient) (sessionToken : String)
    (arguments : AuthArguments) : AuthOutcome × AuthClient :=
  match s.apiKeyCache[sessionToken]? with
  | some user =>
    if user.expiresOn < ctx.now then
      (⟨true, false, { arguments with uInfo := user.userInfo, expired := false }⟩, s)
    else
      retrieveApiKeyInformation poco ctx { s with apiKeyCache := s.apiKeyCache.erase sessionToken }
        sessionToken arguments
  | none => retrieveApiKeyInformation poco ctx s sessionToken arguments

end AuthClient

end Fms
