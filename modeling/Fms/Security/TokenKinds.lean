import Fms.Security.AuthClient
import Fms.Relation.Run

/-! Which endpoint of the security service stands behind a token that is accepted. -/

namespace Fms

/-- The path a token is validated at: subscribers and operators have their own. -/
def validationPath (sub : Bool) : String :=
  if sub then "/api/v1/validateSubToken" else "/api/v1/validateToken"

/-- What a call with either kind of token takes from outside. -/
structure TokenContext where
  /-- `Utils::Now`. -/
  now : UInt64
  /-- The instances of the security service, as they would answer at a path. -/
  services : String → List Exchange

/-- What can happen to the tokens in the cache, one call at a time. -/
inductive TokenCall where
  | isAuthorized (sessionToken : String) (sub : Bool) (ctx : TokenContext) (arguments : AuthArguments)
  | removedCachedToken (token : String)
  /-- An entry leaves the cache because of its age or because the cache is full. -/
  | dropped (sessionToken : String)

/-- The caches, and the tokens the service has accepted so far with the paths it did so at. -/
structure TokenHistory where
  client : AuthClient := {}
  accepted : List (String × String) := []

namespace AuthClient

/-- The security service accepts a token: it answers with the token and its user. -/
def serviceAccepts (poco : Poco) (services : List Exchange) : Bool :=
  match OpenAPIRequestGet.doRequest poco services with
  | (statusCode, some response) =>
    statusCode = httpOk && response.has "tokenInfo" && response.has "userInfo"
  | (_, none) => false

/-- `IsAuthorized` with its flag, which chooses the path of the request. -/
def isAuthorizedFor (poco : Poco) (sub : Bool) (ctx : TokenContext) (s : AuthClient)
    (sessionToken : String) (arguments : AuthArguments) : AuthOutcome × AuthClient :=
  isAuthorized poco ⟨ctx.now, ctx.services (validationPath sub)⟩ s sessionToken arguments

/-- What the service has accepted after a call; only a call that asks can add to it. -/
def acceptedAfter (poco : Poco) (sub : Bool) (ctx : TokenContext) (s : TokenHistory)
    (sessionToken : String) (arguments : AuthArguments) : List (String × String) :=
  if (isAuthorizedFor poco sub ctx s.client sessionToken arguments).1.requested &&
      serviceAccepts poco (ctx.services (validationPath sub)) then
    (sessionToken, validationPath sub) :: s.accepted
  else s.accepted

/-- The caches and the history after a call. -/
def tokenStep (poco : Poco) (s : TokenHistory) : TokenCall → TokenHistory
  | .isAuthorized sessionToken sub ctx arguments => {
      client := (isAuthorizedFor poco sub ctx s.client sessionToken arguments).2
      accepted := acceptedAfter poco sub ctx s sessionToken arguments }
  | .removedCachedToken token => { s with client := s.client.removedCachedToken token }
  | .dropped sessionToken =>
    { s with client := { s.client with cache := s.client.cache.erase sessionToken } }

/-- A call says yes only to a token the service has accepted at the path of its flag. -/
def RightKind (poco : Poco) (s : TokenHistory) : TokenCall → Prop
  | .isAuthorized sessionToken sub ctx arguments =>
    (isAuthorizedFor poco sub ctx s.client sessionToken arguments).1.accepted = true →
      (sessionToken, validationPath sub) ∈ acceptedAfter poco sub ctx s sessionToken arguments
  | .removedCachedToken _ => True
  | .dropped _ => True

/--
A call does not come with one flag for a token that is cached through the other alone.

A token that is not cached, or has expired in the cache, may come with either flag.
-/
def KindsApart (s : TokenHistory) : TokenCall → Prop
  | .isAuthorized sessionToken sub ctx _ =>
    ∀ user, s.client.cache[sessionToken]? = some user →
      isTokenExpired ctx.now user.webtoken = false →
      (sessionToken, validationPath sub) ∈ s.accepted
  | .removedCachedToken _ => True
  | .dropped _ => True

/-- Every cached token has been accepted at one of the two paths. -/
def Vouched (s : TokenHistory) : Prop :=
  ∀ (sessionToken : String) (user : UserInfoAndPolicy),
    s.client.cache[sessionToken]? = some user →
    ∃ sub, (sessionToken, validationPath sub) ∈ s.accepted

variable {poco : Poco} {s : TokenHistory} {sessionToken : String} {arguments : AuthArguments}

/-- Retrieving a token says yes only when the service does, and caches nothing but that token. -/
theorem retrieveTokenInformation_cases (poco : Poco) (ctx : AuthContext) (client : AuthClient)
    (sessionToken : String) (arguments : AuthArguments) :
    let outcome := retrieveTokenInformation poco ctx client sessionToken arguments
    outcome.1.requested = true ∧
      ((outcome.1.accepted = true ∧ serviceAccepts poco ctx.services = true ∧
          ∃ user, outcome.2.cache = client.cache.insert sessionToken user) ∨
        (outcome.1.accepted = false ∧ outcome.2 = client)) := by
  intro outcome
  simp only [outcome, retrieveTokenInformation, serviceAccepts]
  -- The ways out follow the status, the response, its fields and the expiry.
  generalize OpenAPIRequestGet.doRequest poco ctx.services = answer
  obtain ⟨statusCode, response⟩ := answer
  by_cases ok : statusCode = httpOk
  · subst ok
    have inTime : httpOk ≠ httpGatewayTimeout := by decide
    cases response with
    | none => simp [inTime]
    | some response =>
      by_cases fields : (response.has "tokenInfo" && response.has "userInfo") = true
      · have both : response.has "tokenInfo" = true ∧ response.has "userInfo" = true := by
          simpa using fields
        cases expired : isTokenExpired ctx.now
            (UserInfoAndPolicy.fromJson poco response arguments.uInfo).2.webtoken with
        | true => simp [inTime, both, expired]
        | false =>
          simp only [inTime, both, expired, if_true, if_false, Bool.and_self, Bool.false_eq_true,
            decide_true]
          exact ⟨trivial, Or.inl ⟨trivial, trivial, _, rfl⟩⟩
      · simp [inTime, fields]
  · by_cases timeout : statusCode = httpGatewayTimeout
    · simp [timeout]
    · simp [timeout, ok]

/-- A token that is cached and has not expired is accepted without asking. -/
theorem isAuthorizedFor_of_cached (sub : Bool) {ctx : TokenContext} {user : UserInfoAndPolicy}
    (cached : s.client.cache[sessionToken]? = some user)
    (alive : isTokenExpired ctx.now user.webtoken = false) :
    isAuthorizedFor poco sub ctx s.client sessionToken arguments =
      (⟨true, false, { arguments with uInfo := user, expired := false }⟩, s.client) := by
  -- The entry is used as it is.
  simp [isAuthorizedFor, isAuthorized, cached, alive]

/-- A token that has expired in the cache is refused and forgotten. -/
theorem isAuthorizedFor_of_expired (sub : Bool) {ctx : TokenContext} {user : UserInfoAndPolicy}
    (cached : s.client.cache[sessionToken]? = some user)
    (expired : isTokenExpired ctx.now user.webtoken = true) :
    isAuthorizedFor poco sub ctx s.client sessionToken arguments =
      (⟨false, false, { arguments with expired := true }⟩,
        { s.client with cache := s.client.cache.erase sessionToken }) := by
  simp [isAuthorizedFor, isAuthorized, cached, expired]

/-- A token that is not cached is validated at the path of its flag. -/
theorem isAuthorizedFor_of_absent (sub : Bool) (ctx : TokenContext)
    (absent : s.client.cache[sessionToken]? = none) :
    isAuthorizedFor poco sub ctx s.client sessionToken arguments =
      retrieveTokenInformation poco ⟨ctx.now, ctx.services (validationPath sub)⟩ s.client
        sessionToken arguments := by
  -- The flag decides only the path.
  simp [isAuthorizedFor, isAuthorized, absent]

/-- A call goes by the right kind exactly when it keeps the kinds apart. -/
theorem rightKind_iff (call : TokenCall) : RightKind poco s call ↔ KindsApart s call := by
  cases call with
  | removedCachedToken token => rfl
  | dropped sessionToken => rfl
  | isAuthorized sessionToken sub ctx arguments =>
    simp only [RightKind, KindsApart, acceptedAfter]
    cases cached : s.client.cache[sessionToken]? with
    | none =>
      -- Without an entry the service is asked at the path of the flag, and its yes is recorded.
      rw [isAuthorizedFor_of_absent sub ctx cached]
      refine iff_of_true (fun accepted => ?_) (by simp)
      obtain ⟨requested, ⟨_, vouched, _⟩ | ⟨refused, _⟩⟩ := retrieveTokenInformation_cases
        poco ⟨ctx.now, ctx.services (validationPath sub)⟩ s.client sessionToken arguments
      · simp [requested, vouched]
      · rw [refused] at accepted
        contradiction
    | some user =>
      cases expired : isTokenExpired ctx.now user.webtoken with
      | true =>
        rw [isAuthorizedFor_of_expired sub cached expired]
        simp [expired]
      | false =>
        -- The entry answers, whatever path it came from.
        rw [isAuthorizedFor_of_cached sub cached expired]
        simp [expired]

/-- Every call leaves only vouched tokens in the cache. -/
theorem vouched_tokenStep (vouched : Vouched s) (call : TokenCall) :
    Vouched (tokenStep poco s call) := by
  have erased {token other : String} {user : UserInfoAndPolicy}
      (found : (s.client.cache.erase token)[other]? = some user) :
      ∃ sub, (other, validationPath sub) ∈ s.accepted := by
    rw [Std.ExtTreeMap.getElem?_erase] at found
    split at found
    · contradiction
    · exact vouched other user found
  -- Removing an entry vouches for the rest; a new entry has to be accepted first.
  cases call with
  | removedCachedToken token => exact fun _ _ found => erased found
  | dropped sessionToken => exact fun _ _ found => erased found
  | isAuthorized sessionToken sub ctx arguments =>
    intro other user found
    simp only [tokenStep, acceptedAfter] at found ⊢
    cases cached : s.client.cache[sessionToken]? with
    | none =>
      rw [isAuthorizedFor_of_absent sub ctx cached] at found ⊢
      obtain ⟨requested, ⟨_, accepts, written, inserted⟩ | ⟨_, same⟩⟩ :=
        retrieveTokenInformation_cases poco ⟨ctx.now, ctx.services (validationPath sub)⟩ s.client
          sessionToken arguments
      · rw [inserted, Std.ExtTreeMap.getElem?_insert] at found
        simp only [requested, accepts, Bool.and_self, if_true]
        split at found
        · -- The new entry belongs to the token that was asked for.
          rename_i own
          obtain rfl : sessionToken = other := by simpa using own
          exact ⟨sub, List.mem_cons_self⟩
        · obtain ⟨kind, known⟩ := vouched other user found
          exact ⟨kind, List.mem_cons_of_mem _ known⟩
      · rw [same] at found
        obtain ⟨kind, known⟩ := vouched other user found
        refine ⟨kind, ?_⟩
        split
        · exact List.mem_cons_of_mem _ known
        · exact known
    | some held =>
      cases expired : isTokenExpired ctx.now held.webtoken with
      | true =>
        rw [isAuthorizedFor_of_expired sub cached expired] at found ⊢
        exact erased found
      | false =>
        rw [isAuthorizedFor_of_cached sub cached expired] at found ⊢
        exact vouched other user found

/--
In every run the cached tokens have been accepted at one of the two paths, and every yes is backed
by the path of its flag exactly when no call comes with one flag for a token cached through the other.

The cache is keyed by the token alone, so an entry answers calls of either kind.
-/
theorem rightKind_along_iff (poco : Poco) (calls : List TokenCall) :
    (∀ reached ∈ Transition.states (tokenStep poco) {} calls, Vouched reached) ∧
      (Transition.Along (tokenStep poco) (RightKind poco) {} calls ↔
        Transition.Along (tokenStep poco) KindsApart {} calls) := by
  have start : Vouched {} := by
    intro sessionToken user found
    simp at found
  have always := Transition.along_true (tokenStep poco) {} calls
  -- The first part is an invariant, the second one compares the guards call by call.
  constructor
  · exact Transition.invariant_along Vouched
      (fun _ call vouched _ => vouched_tokenStep vouched call) start always
  · exact Transition.along_congr (fun _ => True) (fun _ _ _ _ => trivial)
      (fun _ call _ => rightKind_iff call) trivial calls

/-- The answer of the security service for a token that is valid until time 200. -/
def tokenText : String :=
  "\x7b\"tokenInfo\":\x7b\"expires_in\":100,\"created\":100\x7d,\"userInfo\":\x7b\x7d\x7d"

/-- A parser that knows the answer. -/
def tokenPoco : Poco := .onDocuments
  [(tokenText, .object [("tokenInfo", .object [("expires_in", .int 100), ("created", .int 100)]),
    ("userInfo", .object [])])]

/-- A service that accepts every token as an operator's and none as a subscriber's. -/
def operatorsOnly (path : String) : List Exchange :=
  if path = validationPath false then [.answered httpOk tokenText] else [.answered 403 ""]

/-- A call for an operator's token with either flag. -/
def tokenAs (sub : Bool) : TokenCall :=
  .isAuthorized "token" sub ⟨150, operatorsOnly⟩ {}

/-- An operator's token is accepted as a subscriber's, though the service would refuse it. -/
theorem operator_token_accepted :
    ¬ ∀ (poco : Poco) (calls : List TokenCall),
      Transition.Along (tokenStep poco) (RightKind poco) {} calls := by
  intro right
  have along := right tokenPoco [tokenAs false, tokenAs true]
  have second : RightKind tokenPoco (tokenStep tokenPoco {} (tokenAs false)) (tokenAs true) :=
    along.2.1
  -- The second call finds the entry of the first one.
  have accepted : (isAuthorizedFor tokenPoco true ⟨150, operatorsOnly⟩
      (tokenStep tokenPoco {} (tokenAs false)).client "token" {}).1.accepted = true := by
    decide +kernel
  have missing : ("token", validationPath true) ∉
      acceptedAfter tokenPoco true ⟨150, operatorsOnly⟩
        (tokenStep tokenPoco {} (tokenAs false)) "token" {} := by
    decide +kernel
  exact missing (second accepted)

end AuthClient

end Fms
