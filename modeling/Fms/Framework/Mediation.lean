import Fms.Framework.RequestHandler
import Fms.Security.Revocation

/-! No method of a handler runs but for a request that has been admitted, in every run of the service. -/

universe u v

namespace Fms

namespace AuthClient

variable {poco : Poco} {ctx : AuthContext} {s : AuthClient} {sessionToken : String} {arguments : AuthArguments}

/-- Retrieving a token caches the record it fills where it says yes, and changes nothing where it says no. -/
theorem retrieveTokenInformation_user :
    let outcome := retrieveTokenInformation poco ctx s sessionToken arguments
    (outcome.1.accepted = true ∧ outcome.2 =
        { s with cache := s.cache.insert sessionToken outcome.1.arguments.uInfo }) ∨
      outcome.1.accepted = false ∧ outcome.2 = s := by
  -- The one way out that says yes is behind the write.
  unfold retrieveTokenInformation
  dsimp only
  split
  · exact Or.inr ⟨rfl, rfl⟩
  · split
    · split
      · split
        · exact Or.inr ⟨rfl, rfl⟩
        · exact Or.inl ⟨rfl, rfl⟩
      · exact Or.inr ⟨rfl, rfl⟩
    · exact Or.inr ⟨rfl, rfl⟩

/-- The security service accepts a key: it answers with the token, the user and the time the key expires. -/
def serviceAcceptsKey (poco : Poco) (services : List Exchange) : Bool :=
  match OpenAPIRequestGet.doRequest poco services with
  | (statusCode, some response) =>
    statusCode = httpOk && response.has "tokenInfo" && response.has "userInfo" && response.has "expiresOn"
  | (_, none) => false

/-- Retrieving a key caches the record it fills where it says yes, and changes nothing where it says no. -/
theorem retrieveApiKeyInformation_user :
    let outcome := retrieveApiKeyInformation poco ctx s sessionToken arguments
    (outcome.1.accepted = true ∧ serviceAcceptsKey poco ctx.services = true ∧
        ∃ expiresOn, outcome.2 =
          { s with apiKeyCache := s.apiKeyCache.insert sessionToken ⟨outcome.1.arguments.uInfo, expiresOn⟩ }) ∨
      outcome.1.accepted = false ∧ outcome.2 = s := by
  -- Only the branch that read the whole answer accepts, and only there is the key remembered.
  unfold retrieveApiKeyInformation serviceAcceptsKey
  generalize OpenAPIRequestGet.doRequest poco ctx.services = answer
  obtain ⟨statusCode, response⟩ := answer
  dsimp only
  by_cases timeout : statusCode = httpGatewayTimeout
  · rw [if_pos timeout]
    exact Or.inr ⟨rfl, rfl⟩
  · rw [if_neg timeout]
    by_cases ok : statusCode = httpOk
    · rw [if_pos ok]
      cases response with
      | none => exact Or.inr ⟨rfl, rfl⟩
      | some response =>
        dsimp only
        by_cases fields : (response.has "tokenInfo" && response.has "userInfo" && response.has "expiresOn") = true
        · rw [if_pos fields]
          cases poco.toUInt64 (response.get "expiresOn") with
          | none => exact Or.inr ⟨rfl, rfl⟩
          | some expiresOn => exact Or.inl ⟨rfl, by simpa [ok] using fields, expiresOn, rfl⟩
        · rw [if_neg fields]
          exact Or.inr ⟨rfl, rfl⟩
    · rw [if_neg ok]
      exact Or.inr ⟨rfl, rfl⟩

end AuthClient

namespace RESTAPIHandler

/-- What a request shows the security service; a call of another service that names itself shows it nothing. -/
def credential (profile : Profile) (request : HttpRequest) : Option Credential :=
  if profile.internal && (request.header "X-INTERNAL-NAME").isSome then none
  else if !profile.internal && (request.header "X-API-KEY").isSome then
    some (.apiKey, (request.header "X-API-KEY").getD "")
  else some (.token, request.bearerToken.getD "")

/-- The question to `AuthClient` about a credential. -/
def question (setting : Setting) (profile : Profile) (ctx : RequestContext) (authClient : AuthClient) :
    Credential → AuthOutcome × AuthClient
  | (.apiKey, key) => authClient.isValidApiKey setting.poco ⟨ctx.now, ctx.services apiKeyPath⟩ key {}
  | (.token, token) => authClient.isAuthorizedFor setting.poco profile.subOnlyService ⟨ctx.now, ctx.services⟩ token {}

/-- The security service accepts a credential at the path it is asked at. -/
def serviceConfirms (setting : Setting) (profile : Profile) (ctx : RequestContext) : CacheKind → Bool
  | .apiKey => AuthClient.serviceAcceptsKey setting.poco (ctx.services apiKeyPath)
  | .token => AuthClient.serviceAccepts setting.poco (ctx.services (validationPath profile.subOnlyService))

/-- What happens to the parts that requests share, one thing at a time. -/
inductive Event (σ : Type u) (ρ : Type v) where
  | request (profile : Profile) (methods : Methods σ ρ) (ctx : RequestContext) (request : HttpRequest)
  /-- A bus message revokes a token. -/
  | removedCachedToken (token : String)
  /-- An entry leaves each cache because of its age or because the cache is full. -/
  | dropped (sessionToken apiKey : String)
  /-- The rest of the service goes on. -/
  | elsewhere (change : σ → σ)

section Runs

variable {σ : Type u} {ρ : Type v}

/-- What requests share, after an event. -/
def step (setting : Setting) (s : RestState σ) : Event σ ρ → RestState σ
  | .request profile methods ctx request => (handleRequest setting profile methods ctx request s).after
  | .removedCachedToken token => { s with authClient := s.authClient.removedCachedToken token }
  | .dropped sessionToken apiKey =>
    { s with authClient :=
      { cache := s.authClient.cache.erase sessionToken, apiKeyCache := s.authClient.apiKeyCache.erase apiKey } }
  | .elsewhere change => { s with state := change s.state }

/-- In some state the security service is asked about the credential of a request, and confirms it for a user. -/
def ConfirmsIn (setting : Setting) (s : RestState σ) (c : Credential) (user : UserInfoAndPolicy) : Event σ ρ → Prop
  | .request profile _ ctx request => credential profile request = some c ∧
    (question setting profile ctx s.authClient c).1.requested = true ∧ serviceConfirms setting profile ctx c.1 = true ∧
      (question setting profile ctx s.authClient c).1.arguments.uInfo = user
  | _ => False

/-- The security service has confirmed a credential for a user, and it has not been revoked since. -/
def Confirmed (setting : Setting) (start : RestState σ) (run : List (Event σ ρ)) (c : Credential)
    (user : UserInfoAndPolicy) : Prop :=
  ∃ front event back, run = front ++ event :: back ∧
    ConfirmsIn setting (front.foldl (step setting) start) c user event ∧
    Event.removedCachedToken c.2 ∉ back

/-- A call is authorized: it comes from a service that knows the key, or with a confirmed credential of its user. -/
def Authorized (setting : Setting) (start : RestState σ) (run : List (Event σ ρ)) (profile : Profile)
    (call : Call) : Prop :=
  (profile.internal = true ∧ call.request.header "X-API-KEY" = some setting.myHash ∧
      call.request.header "X-INTERNAL-NAME" = some call.requester ∧ call.userInfo = {}) ∨
    ∃ c, credential profile call.request = some c ∧ Confirmed setting start run c call.userInfo ∧
      call.requester = call.userInfo.userinfo.email

/-- A call has been let through: its method is one of the handler's, it is within its rate, and it is authorized. -/
structure Admitted (setting : Setting) (start : RestState σ) (run : List (Event σ ρ)) (profile : Profile)
    (ctx : RequestContext) (call : Call) : Prop where
  method : call.request.method ∈ profile.methods ∧ call.request.method ∈ dispatched
  rate : ∃ rateLimiter, checkRate setting profile ctx (run.foldl (step setting) start).rateLimiter call.request =
    some (false, rateLimiter)
  authorized : profile.alwaysAuthorize = true → ∀ methods : Methods σ ρ,
    Authorized setting start (run ++ [.request profile methods ctx call.request]) profile call

variable {setting : Setting} {profile : Profile} {ctx : RequestContext} {request : HttpRequest} {s : RestState σ}

/-- Authorization is the check of the key, or the question about the credential. -/
theorem isAuthorized_eq (authClient : AuthClient) :
    isAuthorized setting profile ctx authClient request =
      match credential profile request with
      | none => ({
          allowed := isValidAPIKEY setting.myHash request
          contacted := true
          requester := if isValidAPIKEY setting.myHash request
            then (request.header "X-INTERNAL-NAME").getD "unknown" else "" }, authClient)
      | some c =>
        (.ofOutcome (question setting profile ctx authClient c).1, (question setting profile ctx authClient c).2) := by
  unfold isAuthorized credential
  split
  · rfl
  · split <;> rfl

/-- Where a request ends early, nothing but the rate limiter has changed. -/
def EndsEarly (s : RestState σ) (outcome : Outcome σ ρ) : Prop :=
  outcome.called = none ∧ outcome.after.authClient = s.authClient ∧ outcome.after.state = s.state

/-- Behind the checks, a method is called for the request as it came, with the user it has been authorized for. -/
theorem dispatch_cases (methods : Methods σ ρ) (parsedBody : Option JsonObject) (authorization : Authorization) :
    EndsEarly s (dispatch setting methods request parsedBody authorization s) ∨
      (dispatch setting methods request parsedBody authorization s).after.authClient = s.authClient ∧
      request.method ∈ dispatched ∧
      ∃ call, (dispatch setting methods request parsedBody authorization s).called = some call ∧
        (dispatch setting methods request parsedBody authorization s).after.state =
          (methods request.method call s.state).2 ∧
        call.request = request ∧ call.userInfo = authorization.userInfo ∧ call.requester = authorization.requester := by
  -- Without a body or with another method the dispatcher answers; else the method is called, whatever it ends with.
  unfold dispatch
  split
  · exact Or.inl ⟨rfl, rfl, rfl⟩
  · split
    · rename_i known
      dsimp only
      split
      all_goals
        rename_i done
        exact Or.inr ⟨rfl, known, _, rfl, by rw [done], rfl, rfl, rfl⟩
    · exact Or.inl ⟨rfl, rfl, rfl⟩

/--
The ways of a request.

It ends before it is authorized, it is refused, or it is dispatched; the last only within its rate, for a method of
the handler, and once it has been allowed, where the handler asks for that.
-/
theorem handleRequest_cases (methods : Methods σ ρ) :
    EndsEarly s (handleRequest setting profile methods ctx request s) ∨
      request.method ∈ profile.methods ∧
      ∃ rateLimiter, checkRate setting profile ctx s.rateLimiter request = some (false, rateLimiter) ∧
        ((profile.alwaysAuthorize = true ∧ (isAuthorized setting profile ctx s.authClient request).1.allowed = false ∧
            (handleRequest setting profile methods ctx request s).called = none ∧
            (handleRequest setting profile methods ctx request s).after =
              { s with rateLimiter, authClient := (isAuthorized setting profile ctx s.authClient request).2 }) ∨
          (profile.alwaysAuthorize = true ∧ (isAuthorized setting profile ctx s.authClient request).1.allowed = true ∧
            ∃ parsedBody, handleRequest setting profile methods ctx request s =
              dispatch setting methods request parsedBody (isAuthorized setting profile ctx s.authClient request).1
                { s with rateLimiter, authClient := (isAuthorized setting profile ctx s.authClient request).2 }) ∨
          (profile.alwaysAuthorize = false ∧ ∃ parsedBody, handleRequest setting profile methods ctx request s =
            dispatch setting methods request parsedBody { allowed := true } { s with rateLimiter })) := by
  -- The checks come one after the other.
  unfold handleRequest
  split
  · exact Or.inl ⟨rfl, rfl, rfl⟩
  · rename_i parsedBody _
    split
    · exact Or.inl ⟨rfl, rfl, rfl⟩
    · exact Or.inl ⟨rfl, rfl, rfl⟩
    · rename_i rateLimiter within
      dsimp only
      split
      · exact Or.inl ⟨rfl, rfl, rfl⟩
      · rename_i goes
        have method : request.method ∈ profile.methods := by
          by_contra missing
          unfold continueProcessing at goes
          split at goes <;> simp_all
        refine Or.inr ⟨method, rateLimiter, within, ?_⟩
        cases asks : profile.alwaysAuthorize with
        | false => exact Or.inr (Or.inr ⟨rfl, parsedBody, by simp⟩)
        | true =>
          cases allowed : (isAuthorized setting profile ctx s.authClient request).1.allowed with
          | false => exact Or.inl ⟨rfl, rfl, by simp, by simp⟩
          | true => exact Or.inr (Or.inl ⟨rfl, rfl, parsedBody, by simp⟩)

/-- A credential is cached for a user. -/
def Holds (authClient : AuthClient) : Credential → UserInfoAndPolicy → Prop
  | (.token, token), user => authClient.cache[token]? = some user
  | (.apiKey, key), user => ∃ entry, authClient.apiKeyCache[key]? = some entry ∧ entry.userInfo = user

/-- Erasing entries leaves the others. -/
theorem holds_of_erased {authClient : AuthClient} {token key : String} {c : Credential} {user : UserInfoAndPolicy}
    (holds : Holds { cache := authClient.cache.erase token, apiKeyCache := authClient.apiKeyCache.erase key } c user) :
    Holds authClient c user ∧ c ≠ (.token, token) ∧ c ≠ (.apiKey, key) := by
  obtain ⟨kind, text⟩ := c
  -- A text found after the erasure is another than the one erased from its cache.
  cases kind with
  | token =>
    simp only [Holds, Std.ExtTreeMap.getElem?_erase, Std.compare_eq_iff_eq] at holds ⊢
    split at holds
    · cases holds
    · rename_i apart
      exact ⟨holds, by simp [Ne.symm apart], by simp⟩
  | apiKey =>
    simp only [Holds, Std.ExtTreeMap.getElem?_erase, Std.compare_eq_iff_eq] at holds ⊢
    obtain ⟨entry, found, same⟩ := holds
    split at found
    · cases found
    · rename_i apart
      exact ⟨⟨entry, found, same⟩, by simp, by simp [Ne.symm apart]⟩

/-- An entry that an insertion of a token leaves is the new one, or was there before. -/
theorem holds_of_insert_token {authClient : AuthClient} {token : String} {info : UserInfoAndPolicy}
    {other : Credential} {user : UserInfoAndPolicy}
    (holds : Holds { authClient with cache := authClient.cache.insert token info } other user) :
    Holds authClient other user ∨ other = (.token, token) ∧ info = user := by
  obtain ⟨kind, text⟩ := other
  -- A token goes into the cache of tokens only, and hides what was there under it.
  cases kind with
  | apiKey => exact Or.inl holds
  | token =>
    simp only [Holds, Std.ExtTreeMap.getElem?_insert, Std.compare_eq_iff_eq] at holds
    split at holds
    · rename_i same
      exact Or.inr ⟨by rw [same], Option.some.inj holds⟩
    · exact Or.inl holds

/-- An entry that an insertion of a key leaves is the new one, or was there before. -/
theorem holds_of_insert_key {authClient : AuthClient} {key : String} {entry : ApiKeyCacheEntry}
    {other : Credential} {user : UserInfoAndPolicy}
    (holds : Holds { authClient with apiKeyCache := authClient.apiKeyCache.insert key entry } other user) :
    Holds authClient other user ∨ other = (.apiKey, key) ∧ entry.userInfo = user := by
  obtain ⟨kind, text⟩ := other
  -- A key goes into the cache of keys only, and hides what was there under it.
  cases kind with
  | token => exact Or.inl holds
  | apiKey =>
    obtain ⟨found, seen, same⟩ := holds
    simp only [Std.ExtTreeMap.getElem?_insert, Std.compare_eq_iff_eq] at seen
    split at seen
    · rename_i here
      cases seen
      exact Or.inr ⟨by rw [here], same⟩
    · exact Or.inl ⟨found, seen, same⟩

/-- What an answer about a credential rests on, as far as the caches go: each entry after it was there, or is new. -/
def Rests (authClient : AuthClient) (c : Credential) (confirms : Bool) (answer : AuthOutcome × AuthClient) : Prop :=
  (∀ other user, Holds answer.2 other user → Holds authClient other user ∨
      other = c ∧ answer.1.requested = true ∧ confirms = true ∧ answer.1.arguments.uInfo = user) ∧
    (answer.1.accepted = true → Holds authClient c answer.1.arguments.uInfo ∨
      answer.1.requested = true ∧ confirms = true)

/-- A yes to a token rests on the entry there was, or on the service, which is asked where there is none. -/
theorem rests_token (authClient : AuthClient) (token : String) :
    Rests authClient (.token, token) (serviceConfirms setting profile ctx .token)
      (question setting profile ctx authClient (.token, token)) := by
  simp only [Rests, question, serviceConfirms, AuthClient.isAuthorizedFor, AuthClient.isAuthorized]
  cases cached : authClient.cache[token]? with
  | none =>
    dsimp only
    generalize asked : AuthClient.retrieveTokenInformation setting.poco
      ⟨ctx.now, ctx.services (validationPath profile.subOnlyService)⟩ authClient token {} = outcome
    have requested : outcome.1.requested = true := by
      rw [← asked]
      exact AuthClient.requested_retrieveTokenInformation
    have vouched := (AuthClient.retrieveTokenInformation_cases setting.poco
      ⟨ctx.now, ctx.services (validationPath profile.subOnlyService)⟩ authClient token {}).2
    have written := @AuthClient.retrieveTokenInformation_user setting.poco
      ⟨ctx.now, ctx.services (validationPath profile.subOnlyService)⟩ authClient token {}
    rw [asked] at vouched written
    rcases written with ⟨accepted, inserted⟩ | ⟨refused, same⟩
    · -- The service says yes, and the entry is that of the token.
      have confirms : AuthClient.serviceAccepts setting.poco
          (ctx.services (validationPath profile.subOnlyService)) = true := by
        rcases vouched with ⟨_, confirms, _⟩ | ⟨refused, _⟩
        · exact confirms
        · simp [accepted] at refused
      refine ⟨fun other user holds => ?_, fun _ => Or.inr ⟨requested, confirms⟩⟩
      rw [inserted] at holds
      rcases holds_of_insert_token holds with old | ⟨own, same⟩
      · exact Or.inl old
      · exact Or.inr ⟨own, requested, confirms, same⟩
    · refine ⟨fun other user holds => Or.inl (same ▸ holds), fun accepted => ?_⟩
      simp [refused] at accepted
  | some user =>
    dsimp only
    split
    · -- An expired token is forgotten.
      refine ⟨fun other info holds => Or.inl ?_, fun accepted => by cases accepted⟩
      obtain ⟨kind, other⟩ := other
      cases kind with
      | apiKey => exact holds
      | token =>
        simp only [Holds, Std.ExtTreeMap.getElem?_erase, Std.compare_eq_iff_eq] at holds ⊢
        split at holds
        · cases holds
        · exact holds
    · exact ⟨fun other info holds => Or.inl holds, fun _ => Or.inl cached⟩

/-- Asking for a key rests on the service, also for a client that has forgotten entries before. -/
theorem rests_retrieved {authClient client : AuthClient}
    (fewer : ∀ other user, Holds client other user → Holds authClient other user) (key : String) :
    Rests authClient (.apiKey, key) (serviceConfirms setting profile ctx .apiKey)
      (client.retrieveApiKeyInformation setting.poco ⟨ctx.now, ctx.services apiKeyPath⟩ key {}) := by
  -- The question is put to the service, and an entry is made only of what it confirms.
  have requested : (client.retrieveApiKeyInformation setting.poco ⟨ctx.now, ctx.services apiKeyPath⟩ key
      {}).1.requested = true := AuthClient.requested_retrieveApiKeyInformation
  rcases @AuthClient.retrieveApiKeyInformation_user setting.poco ⟨ctx.now, ctx.services apiKeyPath⟩ client key {}
    with ⟨_, confirms, expiresOn, inserted⟩ | ⟨refused, same⟩
  · refine ⟨fun other user holds => ?_, fun _ => Or.inr ⟨requested, confirms⟩⟩
    rw [inserted] at holds
    rcases holds_of_insert_key holds with old | ⟨own, same⟩
    · exact Or.inl (fewer other user old)
    · exact Or.inr ⟨own, requested, confirms, same⟩
  · refine ⟨fun other user holds => Or.inl (fewer other user (same ▸ holds)), fun accepted => ?_⟩
    simp [refused] at accepted

/-- A yes to a key rests on the entry there was, or on the service, which is asked where it is not used. -/
theorem rests_key (authClient : AuthClient) (key : String) :
    Rests authClient (.apiKey, key) (serviceConfirms setting profile ctx .apiKey)
      (question setting profile ctx authClient (.apiKey, key)) := by
  simp only [question, AuthClient.isValidApiKey]
  cases cached : authClient.apiKeyCache[key]? with
  | none => exact rests_retrieved (fun other user holds => holds) key
  | some entry =>
    dsimp only
    split
    · exact ⟨fun other info holds => Or.inl holds, fun _ => Or.inl ⟨entry, cached, rfl⟩⟩
    · -- An entry that is too old is erased before the service is asked.
      refine rests_retrieved (fun other user holds => ?_) key
      obtain ⟨kind, other⟩ := other
      cases kind with
      | token => exact holds
      | apiKey =>
        obtain ⟨found, seen, same⟩ := holds
        simp only [Std.ExtTreeMap.getElem?_erase, Std.compare_eq_iff_eq] at seen
        split at seen
        · cases seen
        · exact ⟨found, seen, same⟩

/--
What a question about a credential rests on.

A new entry is that of the credential, which the service has been asked about and has confirmed; and so is a yes, where
it does not rest on the entry there was.
-/
theorem question_rests (authClient : AuthClient) :
    ∀ c, Rests authClient c (serviceConfirms setting profile ctx c.1) (question setting profile ctx authClient c)
  | (.token, token) => rests_token authClient token
  | (.apiKey, key) => rests_key authClient key

variable {start : RestState σ} {run : List (Event σ ρ)}

/-- A confirmation stands until the credential is revoked. -/
theorem Confirmed.snoc {c : Credential} {user : UserInfoAndPolicy} (confirmed : Confirmed setting start run c user)
    {event : Event σ ρ} (kept : event ≠ .removedCachedToken c.2) : Confirmed setting start (run ++ [event]) c user := by
  obtain ⟨front, asked, back, rfl, confirms, unrevoked⟩ := confirmed
  refine ⟨front, asked, back ++ [event], by simp, confirms, fun member => ?_⟩
  rcases List.mem_append.mp member with earlier | last
  · exact unrevoked earlier
  · exact kept (List.mem_singleton.mp last).symm

/-- What the caches hold has been confirmed, and has not been revoked since. -/
def Backed (setting : Setting) (start : RestState σ) (run : List (Event σ ρ)) (authClient : AuthClient) : Prop :=
  ∀ c user, Holds authClient c user → Confirmed setting start run c user

/-- The question of a request leaves the caches backed, and a yes to it too. -/
theorem Backed.asked (backed : Backed setting start run s.authClient) (reached : s = run.foldl (step setting) start)
    (methods : Methods σ ρ) {c : Credential} (shown : credential profile request = some c) :
    Backed setting start (run ++ [.request profile methods ctx request])
        (question setting profile ctx s.authClient c).2 ∧
      ((question setting profile ctx s.authClient c).1.accepted = true →
        Confirmed setting start (run ++ [.request profile methods ctx request]) c
          (question setting profile ctx s.authClient c).1.arguments.uInfo) := by
  obtain ⟨entries, yes⟩ := @question_rests setting profile ctx s.authClient c
  -- What the service confirms now is confirmed by this very event.
  have now (requested : (question setting profile ctx s.authClient c).1.requested = true)
      (confirms : serviceConfirms setting profile ctx c.1 = true) :
      Confirmed setting start (run ++ [Event.request profile methods ctx request]) c
        (question setting profile ctx s.authClient c).1.arguments.uInfo := by
    refine ⟨run, _, [], rfl, ?_, List.not_mem_nil⟩
    rw [← reached]
    exact ⟨shown, requested, confirms, rfl⟩
  constructor
  · intro other user holds
    rcases entries other user holds with old | ⟨rfl, requested, confirms, rfl⟩
    · exact (backed other user old).snoc (by simp)
    · exact now requested confirms
  · intro accepted
    rcases yes accepted with old | ⟨requested, confirms⟩
    · exact (backed c _ old).snoc (by simp)
    · exact now requested confirms

/-- Authorizing a request leaves the caches backed. -/
theorem Backed.authorized (backed : Backed setting start run s.authClient)
    (reached : s = run.foldl (step setting) start) (methods : Methods σ ρ) :
    Backed setting start (run ++ [.request profile methods ctx request])
      (isAuthorized setting profile ctx s.authClient request).2 := by
  rw [isAuthorized_eq]
  cases shown : credential profile request with
  | none => exact fun c user holds => (backed c user holds).snoc (by simp)
  | some c => exact (backed.asked reached methods shown).1

/-- Every event leaves the caches backed. -/
theorem Backed.step (backed : Backed setting start run s.authClient) (reached : s = run.foldl (step setting) start)
    (event : Event σ ρ) : Backed setting start (run ++ [event]) (step setting s event).authClient := by
  cases event with
  | request profile methods ctx request =>
    have kept : Backed setting start (run ++ [.request profile methods ctx request]) s.authClient :=
      fun c user holds => (backed c user holds).snoc (by simp)
    have asked := @Backed.authorized _ _ setting profile ctx request s start run backed reached methods
    rcases @handleRequest_cases σ ρ setting profile ctx request s
      methods with ⟨_, same, _⟩ | ⟨_, rateLimiter, _, ⟨_, _, _, after⟩ | ⟨_, _, parsedBody, goes⟩ |
        ⟨_, parsedBody, goes⟩⟩
    · rw [RESTAPIHandler.step, same]
      exact kept
    · rw [RESTAPIHandler.step, after]
      exact asked
    · rw [RESTAPIHandler.step, goes]
      rcases @dispatch_cases σ ρ setting request _ methods parsedBody
        (isAuthorized setting profile ctx s.authClient request).1 with ⟨_, same, _⟩ | ⟨same, _⟩
      all_goals
        rw [same]
        exact asked
    · rw [RESTAPIHandler.step, goes]
      rcases @dispatch_cases σ ρ setting request _ methods parsedBody
        { allowed := true } with ⟨_, same, _⟩ | ⟨same, _⟩
      all_goals
        rw [same]
        exact kept
  | removedCachedToken token =>
    intro c user holds
    obtain ⟨old, notToken, notKey⟩ := holds_of_erased holds
    refine (backed c user old).snoc fun same => ?_
    -- A revoked text is gone from both caches.
    obtain ⟨kind, text⟩ := c
    have here : token = text := Event.removedCachedToken.inj same
    subst here
    cases kind with
    | token => exact notToken rfl
    | apiKey => exact notKey rfl
  | dropped sessionToken apiKey =>
    exact fun c user holds => (backed c user (holds_of_erased holds).1).snoc (by simp)
  | elsewhere change => exact fun c user holds => (backed c user holds).snoc (by simp)

/-- The caches are backed after every run. -/
theorem backed_run (setting : Setting) (state : σ) (run : List (Event σ ρ)) :
    Backed setting { state } run (run.foldl (step setting) { state }).authClient := by
  -- The state goes along with the invariant, since what is backed depends on the run before.
  have related := Transition.foldl_related (step setting)
    (fun before s => s = before.foldl (step setting) ({ state } : RestState σ) ∧
      Backed setting { state } before s.authClient)
    ⟨rfl, fun c user holds => by
      obtain ⟨kind, text⟩ := c
      cases kind <;> simp [Holds] at holds⟩
    (fun before s event both =>
      ⟨by rw [List.foldl_append, both.1]; rfl, both.2.step both.1 event⟩) run
  exact related.2

/-- A request that is allowed is authorized for the user and the requester its call gets. -/
theorem authorized_of_allowed (backed : Backed setting start run s.authClient)
    (reached : s = run.foldl (step setting) start) (methods : Methods σ ρ)
    (allowed : (isAuthorized setting profile ctx s.authClient request).1.allowed = true) {call : Call}
    (own : call.request = request)
    (user : call.userInfo = (isAuthorized setting profile ctx s.authClient request).1.userInfo)
    (requester : call.requester = (isAuthorized setting profile ctx s.authClient request).1.requester) :
    Authorized setting start (run ++ [.request profile methods ctx request]) profile call := by
  rw [isAuthorized_eq] at allowed user requester
  unfold Authorized
  rw [own]
  cases shown : credential profile request with
  | none =>
    -- Another service has named itself, and shown the key.
    rw [shown] at allowed user requester
    have valid : isValidAPIKEY setting.myHash request = true := allowed
    have named : profile.internal = true ∧ (request.header "X-INTERNAL-NAME").isSome = true := by
      by_contra other
      unfold credential at shown
      split at shown
      · rename_i both
        exact other (by simpa using both)
      · split at shown <;> cases shown
    obtain ⟨name, found⟩ := Option.isSome_iff_exists.mp named.2
    refine Or.inl ⟨named.1, by simpa [isValidAPIKEY] using valid, ?_, user⟩
    rw [found, requester]
    simp [valid, found]
  | some c =>
    rw [shown] at allowed user requester
    have accepted : (question setting profile ctx s.authClient c).1.accepted = true := allowed
    refine Or.inr ⟨c, rfl, ?_, ?_⟩
    · rw [user]
      exact (backed.asked reached methods shown).2 accepted
    · rw [requester, user]
      simp [Authorization.ofOutcome, accepted]

/-- A way of a request that makes no call, and changes nothing that handlers see. -/
def LeavesAlone (s : RestState σ) (outcome : Outcome σ ρ) : Prop :=
  outcome.called = none ∧ outcome.after.state = s.state

/-- A request leaves the state alone, or it has been admitted, and a method of the handler makes the state behind it. -/
theorem mediated (setting : Setting) (state : σ) (run : List (Event σ ρ)) (profile : Profile)
    (methods : Methods σ ρ) (ctx : RequestContext) (request : HttpRequest) :
    LeavesAlone (run.foldl (step setting) { state })
        (handleRequest setting profile methods ctx request (run.foldl (step setting) { state })) ∨
      ∃ call, (handleRequest setting profile methods ctx request
          (run.foldl (step setting) { state })).called = some call ∧
        (handleRequest setting profile methods ctx request (run.foldl (step setting) { state })).after.state =
          (methods request.method call (run.foldl (step setting) { state }).state).2 ∧
        call.request = request ∧ Admitted setting { state } run profile ctx call := by
  -- Every accepted credential of the reached state was accepted by the security service (`Backed`).
  have backed := backed_run setting state run
  generalize reached : run.foldl (step setting) ({ state } : RestState σ) = s at backed
  rcases @handleRequest_cases σ ρ setting profile ctx request s
    methods with ⟨none_, _, same⟩ | ⟨method, rateLimiter, within, ⟨_, _, none_, after⟩ |
      ⟨asks, allowed, parsedBody, goes⟩ | ⟨open_, parsedBody, goes⟩⟩
  -- Ended early: only the rate limiter has changed.
  · exact Or.inl ⟨none_, same⟩
  -- Refused: the question may have changed the caches.
  · exact Or.inl ⟨none_, by rw [after]⟩
  -- Authorized: the dispatcher calls the method of the request or answers by itself.
  · rw [goes]
    rcases @dispatch_cases σ ρ setting request _ methods parsedBody
      (isAuthorized setting profile ctx s.authClient request).1 with
      ⟨none_, _, same⟩ | ⟨_, known, call, called, made, own, user, requester⟩
    · exact Or.inl ⟨none_, same⟩
    · refine Or.inr ⟨call, called, made, own, by rw [own]; exact ⟨method, known⟩, ⟨rateLimiter, ?_⟩, fun _ others => ?_⟩
      · rw [own, reached]
        exact within
      · rw [own]
        exact authorized_of_allowed backed reached.symm others allowed own user requester
  -- A handler that is not authorized: `alwaysAuthorize` is false, so nothing is to be shown of a user.
  · rw [goes]
    rcases @dispatch_cases σ ρ setting request _ methods parsedBody
      { allowed := true } with ⟨none_, _, same⟩ | ⟨_, known, call, called, made, own, user, requester⟩
    · exact Or.inl ⟨none_, same⟩
    · refine Or.inr ⟨call, called, made, own, by rw [own]; exact ⟨method, known⟩, ⟨rateLimiter, ?_⟩, fun asks => ?_⟩
      · rw [own, reached]
        exact within
      · rw [open_] at asks
        cases asks

/--
Complete mediation, of requests that are handled one at a time.

In every run, of any requests to any handlers, a method of a handler is called only for a request that has been
admitted: with the key of the service from another service, or with a credential that the security service has
confirmed for the user the method is called with, and that has not been revoked since.  No event of the run falls
between the steps of one request.  Every other request leaves the state of the service as it is.
-/
theorem complete_mediation (setting : Setting) (state : σ) (run : List (Event σ ρ)) (profile : Profile)
    (methods : Methods σ ρ) (ctx : RequestContext) (request : HttpRequest) :
    LeavesAlone (run.foldl (step setting) { state })
        (handleRequest setting profile methods ctx request (run.foldl (step setting) { state })) ∨
      ∃ call, (handleRequest setting profile methods ctx request
          (run.foldl (step setting) { state })).called = some call ∧
        call.request = request ∧ Admitted setting { state } run profile ctx call := by
  rcases mediated setting state run profile methods ctx request with alone | ⟨call, called, _, own, admitted⟩
  · exact Or.inl alone
  · exact Or.inr ⟨call, called, own, admitted⟩

end Runs

end RESTAPIHandler

end Fms
