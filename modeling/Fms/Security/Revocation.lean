import Fms.Relation.Interleaving
import Fms.Security.Expiry
import Fms.Security.TokenKinds

/-! Requests that are in flight while a token is removed, and what they put back into the caches. -/

namespace Fms

/-- The two caches of `AuthClient`. -/
inductive CacheKind where
  | token
  | apiKey
  deriving DecidableEq, Repr

/-- A text that one of the caches may hold. -/
abbrev Credential := CacheKind × String

/-- The caches, and the turns at which things happened to credentials; turn zero is before all others. -/
structure AuthShared where
  client : AuthClient := {}
  /-- The number of turns so far. -/
  clock : Nat := 0
  /-- The last removal of a credential by a bus message. -/
  removed : Credential → Nat := fun _ => 0
  /-- When the answer behind the cached entry came in. -/
  answered : Credential → Nat := fun _ => 0
  /-- When the cached entry was written. -/
  written : Credential → Nat := fun _ => 0

/-- Where a thread stands in a call, with what it has learnt so far. -/
inductive AuthPhase where
  /-- Between two calls, with what the last one returned. -/
  | idle (last : Option AuthOutcome)
  /-- `IsAuthorized` has found an expired token, and removes it. -/
  | expiring (sessionToken : String) (arguments : AuthArguments)
  | requestingToken (sessionToken : String) (arguments : AuthArguments)
  /-- `RetrieveTokenInformation` has its answer, and updates the cache. -/
  | updatingToken (sessionToken : String) (outcome : AuthOutcome) (uInfo : UserInfoAndPolicy)
      (answeredAt : Nat)
  /-- `IsValidApiKey` has found a key it asks for again, and removes it. -/
  | droppingKey (sessionToken : String) (arguments : AuthArguments)
  | requestingKey (sessionToken : String) (arguments : AuthArguments)
  /-- `RetrieveApiKeyInformation` has its answer, and updates the cache. -/
  | updatingKey (sessionToken : String) (outcome : AuthOutcome) (entry : ApiKeyCacheEntry)
      (answeredAt : Nat)
  /-- `RemovedCachedToken` has removed a token from the first cache, and goes on to the second. -/
  | removing (token : String)

/-- What a thread is told to do. -/
inductive AuthTurn where
  /-- Begin a call. -/
  | isAuthorized (sessionToken : String) (now : UInt64) (arguments : AuthArguments)
  | isValidApiKey (sessionToken : String) (now : UInt64) (arguments : AuthArguments)
  | removedCachedToken (token : String)
  /-- An entry leaves each cache because of its age or because the cache is full. -/
  | dropped (sessionToken apiKey : String)
  /-- Go on with the call. -/
  | next (ctx : AuthContext)

/-- The credential whose answer a thread holds without having written it, and when it came in. -/
def AuthPhase.holding : AuthPhase → Option (Credential × Nat)
  | .updatingToken sessionToken _ _ answeredAt => some ((.token, sessionToken), answeredAt)
  | .updatingKey sessionToken _ _ answeredAt => some ((.apiKey, sessionToken), answeredAt)
  | _ => none

/-- The credential a call looks for. -/
def AuthTurn.asksFor : AuthTurn → Option Credential
  | .isAuthorized sessionToken _ _ => some (.token, sessionToken)
  | .isValidApiKey sessionToken _ _ => some (.apiKey, sessionToken)
  | _ => none

/-- A thread has ended a call with a yes that came from a cache. -/
def AuthPhase.YesFromCache : AuthPhase → Prop
  | .idle (some outcome) => outcome.FromCache
  | _ => False

/-- A decidable notion, for runs on fixed inputs. -/
instance decidableFromCache (outcome : AuthOutcome) : Decidable outcome.FromCache :=
  inferInstanceAs (Decidable (_ ∧ _))

/-- A decidable notion, by the phase. -/
instance decidableYesFromCache : ∀ phase : AuthPhase, Decidable phase.YesFromCache
  | .idle (some outcome) => inferInstanceAs (Decidable outcome.FromCache)
  | .idle none | .expiring .. | .requestingToken .. | .updatingToken .. | .droppingKey ..
  | .requestingKey .. | .updatingKey .. | .removing .. => isFalse id

/-- Whether a cache holds a credential. -/
def AuthClient.caches (client : AuthClient) : Credential → Bool
  | (.token, sessionToken) => client.cache.contains sessionToken
  | (.apiKey, sessionToken) => client.apiKeyCache.contains sessionToken

/-- The credential a turn of the bus thread removes. -/
def removes : AuthPhase → AuthTurn → Option Credential
  | .idle _, .removedCachedToken token => some (.token, token)
  | .removing token, .next _ => some (.apiKey, token)
  | _, _ => none

namespace AuthClient

/-- What `RetrieveTokenInformation` makes of an answer: its result, and the entry it is going to cache. -/
def tokenAnswer (poco : Poco) (ctx : AuthContext) (arguments : AuthArguments) :
    AuthOutcome × Option UserInfoAndPolicy :=
  let (statusCode, response) := OpenAPIRequestGet.doRequest poco ctx.services
  if statusCode = httpGatewayTimeout then (⟨false, true, { arguments with contacted := false }⟩, none)
  else
    let arguments := { arguments with contacted := true }
    match if statusCode = httpOk then response else none with
    | some response =>
      if response.has "tokenInfo" && response.has "userInfo" then
        let uInfo := (UserInfoAndPolicy.fromJson poco response arguments.uInfo).2
        if isTokenExpired ctx.now uInfo.webtoken then
          (⟨false, true, { arguments with uInfo, expired := true }⟩, none)
        else (⟨true, true, { arguments with uInfo, expired := false }⟩, some uInfo)
      else (⟨false, true, arguments⟩, none)
    | none => (⟨false, true, { arguments with expired := false }⟩, none)

/-- What `RetrieveApiKeyInformation` makes of an answer. -/
def keyAnswer (poco : Poco) (ctx : AuthContext) (arguments : AuthArguments) :
    AuthOutcome × Option ApiKeyCacheEntry :=
  let (statusCode, response) := OpenAPIRequestGet.doRequest poco ctx.services
  if statusCode = httpGatewayTimeout then (⟨false, true, { arguments with contacted := false }⟩, none)
  else
    let arguments := { arguments with contacted := true }
    match if statusCode = httpOk then response else none with
    | some response =>
      if response.has "tokenInfo" && response.has "userInfo" && response.has "expiresOn" then
        let uInfo := (UserInfoAndPolicy.fromJson poco response arguments.uInfo).2
        let arguments := { arguments with uInfo, expired := false }
        match poco.toUInt64 (response.get "expiresOn") with
        | some expiresOn => (⟨true, true, arguments⟩, some ⟨uInfo, expiresOn⟩)
        | none => (⟨false, true, arguments⟩, none)
      else (⟨false, true, arguments⟩, none)
    | none => (⟨false, true, { arguments with expired := false }⟩, none)

/-- One locked operation of a thread at a turn; a turn that does not fit its phase changes nothing. -/
@[grind =]
def operate (poco : Poco) : AuthPhase → AuthShared → AuthTurn → AuthPhase × AuthShared
  | .idle _, s, .isAuthorized sessionToken now arguments =>
    match s.client.cache[sessionToken]? with
    | some user =>
      if isTokenExpired now user.webtoken then (.expiring sessionToken arguments, s)
      else (.idle (some ⟨true, false, { arguments with uInfo := user, expired := false }⟩), s)
    | none => (.requestingToken sessionToken arguments, s)
  | .expiring sessionToken arguments, s, .next _ =>
    (.idle (some ⟨false, false, { arguments with expired := true }⟩),
      { s with client.cache := s.client.cache.erase sessionToken })
  | .requestingToken sessionToken arguments, s, .next ctx =>
    match tokenAnswer poco ctx arguments with
    | (outcome, some uInfo) => (.updatingToken sessionToken outcome uInfo s.clock, s)
    | (outcome, none) => (.idle (some outcome), s)
  | .updatingToken sessionToken outcome uInfo answeredAt, s, .next _ =>
    (.idle (some outcome), { s with
      client.cache := s.client.cache.insert sessionToken uInfo
      answered := Function.update s.answered (.token, sessionToken) answeredAt
      written := Function.update s.written (.token, sessionToken) s.clock })
  | .idle _, s, .isValidApiKey sessionToken now arguments =>
    match s.client.apiKeyCache[sessionToken]? with
    | some user =>
      if user.expiresOn < now then
        (.idle (some ⟨true, false, { arguments with uInfo := user.userInfo, expired := false }⟩), s)
      else (.droppingKey sessionToken arguments, s)
    | none => (.requestingKey sessionToken arguments, s)
  | .droppingKey sessionToken arguments, s, .next _ =>
    (.requestingKey sessionToken arguments,
      { s with client.apiKeyCache := s.client.apiKeyCache.erase sessionToken })
  | .requestingKey sessionToken arguments, s, .next ctx =>
    match keyAnswer poco ctx arguments with
    | (outcome, some entry) => (.updatingKey sessionToken outcome entry s.clock, s)
    | (outcome, none) => (.idle (some outcome), s)
  | .updatingKey sessionToken outcome entry answeredAt, s, .next _ =>
    (.idle (some outcome), { s with
      client.apiKeyCache := s.client.apiKeyCache.insert sessionToken entry
      answered := Function.update s.answered (.apiKey, sessionToken) answeredAt
      written := Function.update s.written (.apiKey, sessionToken) s.clock })
  | .idle _, s, .removedCachedToken token =>
    (.removing token, { s with
      client.cache := s.client.cache.erase token
      removed := Function.update s.removed (.token, token) s.clock })
  | .removing token, s, .next _ =>
    (.idle none, { s with
      client.apiKeyCache := s.client.apiKeyCache.erase token
      removed := Function.update s.removed (.apiKey, token) s.clock })
  | .idle last, s, .dropped sessionToken apiKey =>
    (.idle last, { s with
      client.cache := s.client.cache.erase sessionToken
      client.apiKeyCache := s.client.apiKeyCache.erase apiKey })
  | phase, s, _ => (phase, s)

/-- A turn of a thread, which takes one unit of time. -/
def act (poco : Poco) (phase : AuthPhase) (s : AuthShared) (turn : AuthTurn) :
    AuthPhase × AuthShared :=
  operate poco phase { s with clock := s.clock + 1 } turn

/-- Threads over the caches: those that serve requests, and the one that reads the bus. -/
abbrev AuthThreads (ι : Type) := Interleaving ι AuthShared AuthPhase

variable {ι : Type}

/--
A turn begins a call and ends it with a yes from the cache.

The lookup is the first operation of a call, so the call begins with this turn.
-/
def AcceptsFromCache (poco : Poco) (credential : Credential) (s : AuthThreads ι)
    (turn : ι × AuthTurn) : Prop :=
  turn.2.asksFor = some credential ∧
    (act poco (s.threads turn.1) s.shared turn.2).1.YesFromCache

/-- Both parts are decidable. -/
instance decidableAcceptsFromCache (poco : Poco) (credential : Credential) (s : AuthThreads ι)
    (turn : ι × AuthTurn) : Decidable (AcceptsFromCache poco credential s turn) :=
  inferInstanceAs (Decidable (_ ∧ _))

/--
What is accepted from a cache was validated after the last removal of the credential from that cache.

Processing a message removes a token from one cache after the other. What was validated before the
message, or what is asked for after it, is also before or after the removal from either cache.
-/
def RevocationSticks (poco : Poco) (credential : Credential) (s : AuthThreads ι)
    (turn : ι × AuthTurn) : Prop :=
  AcceptsFromCache poco credential s turn →
    s.shared.removed credential < s.shared.answered credential

/-- What is accepted from a cache was written after the last removal of the credential from it. -/
def WrittenSinceRemoval (poco : Poco) (s : AuthThreads ι) (turn : ι × AuthTurn) : Prop :=
  ∀ credential, AcceptsFromCache poco credential s turn →
    s.shared.removed credential < s.shared.written credential

/-- A removal of a credential, while no thread holds an answer for it that is still to be written. -/
def NoneInFlight (credential : Credential) (s : AuthThreads ι) (turn : ι × AuthTurn) : Prop :=
  removes (s.threads turn.1) turn.2 = some credential →
    ∀ thread answeredAt, (s.threads thread).holding ≠ some (credential, answeredAt)

/-- Everything a turn can do to the caches, to the times and to what its thread holds. -/
inductive Does (removal : Option Credential) (p : AuthPhase) (s : AuthShared) (p' : AuthPhase)
    (s' : AuthShared) : Prop where
  /-- Nothing is removed by the bus and nothing is written; entries may leave the caches. -/
  | quiet (holds : p'.holding = none ∨ p'.holding = p.holding)
      (shrinks : ∀ credential, s'.client.caches credential = true → s.client.caches credential = true)
      (removed : s'.removed = s.removed) (answered : s'.answered = s.answered)
      (written : s'.written = s.written)
  /-- An answer has come in that is going to be cached. -/
  | answered {credential : Credential} (holds : p'.holding = some (credential, s.clock + 1))
      (same : s' = { s with clock := s.clock + 1 })
  /-- An answer has been cached. -/
  | wrote {credential : Credential} {answeredAt : Nat}
      (held : p.holding = some (credential, answeredAt)) (holds : p'.holding = none)
      (grows : ∀ other, s'.client.caches other = true → other = credential ∨ s.client.caches other = true)
      (removed : s'.removed = s.removed)
      (answered : s'.answered = Function.update s.answered credential answeredAt)
      (written : s'.written = Function.update s.written credential (s.clock + 1))
  /-- The bus has removed a credential. -/
  | removed {credential : Credential} (told : removal = some credential) (holds : p'.holding = none)
      (shrinks : ∀ other, s'.client.caches other = true → other ≠ credential ∧ s.client.caches other = true)
      (removed : s'.removed = Function.update s.removed credential (s.clock + 1))
      (answered : s'.answered = s.answered) (written : s'.written = s.written)

variable {poco : Poco} {p p' : AuthPhase} {s s' : AuthShared} {turn : AuthTurn}

/-- An entry that is there after an erasure was there before, under another key. -/
theorem contains_of_erase {α : Type} {entries : Std.ExtTreeMap String α} {key other : String}
    (present : (entries.erase key).contains other = true) :
    other ≠ key ∧ entries.contains other = true := by
  simp only [Std.ExtTreeMap.contains_erase, Bool.and_eq_true, bne_iff_ne, ne_eq,
    Std.compare_eq_iff_eq] at present
  exact ⟨fun same => present.1 same.symm, present.2⟩

/-- An entry that is there after an insertion is the new one or was there before. -/
theorem contains_of_insert {α : Type} {entries : Std.ExtTreeMap String α} {key other : String}
    {value : α} (present : (entries.insert key value).contains other = true) :
    other = key ∨ entries.contains other = true := by
  simp only [Std.ExtTreeMap.contains_insert, Bool.or_eq_true, beq_iff_eq,
    Std.compare_eq_iff_eq] at present
  exact present.imp Eq.symm id

/-- Erasing from the first cache leaves the other credentials. -/
theorem caches_erase_token {client : AuthClient} {sessionToken : String} {other : Credential}
    (present : ({ client with cache := client.cache.erase sessionToken } : AuthClient).caches other
      = true) : other ≠ (.token, sessionToken) ∧ client.caches other = true := by
  -- Only the kind of the erased credential is looked for in this cache.
  obtain ⟨kind, text⟩ := other
  cases kind with
  | token =>
    obtain ⟨apart, before⟩ := contains_of_erase present
    exact ⟨fun same => apart (congrArg Prod.snd same), before⟩
  | apiKey => exact ⟨by simp, present⟩

/-- Erasing from the second cache leaves the other credentials. -/
theorem caches_erase_key {client : AuthClient} {sessionToken : String} {other : Credential}
    (present : ({ client with apiKeyCache := client.apiKeyCache.erase sessionToken } :
      AuthClient).caches other = true) :
    other ≠ (.apiKey, sessionToken) ∧ client.caches other = true := by
  obtain ⟨kind, text⟩ := other
  cases kind with
  | token => exact ⟨by simp, present⟩
  | apiKey =>
    obtain ⟨apart, before⟩ := contains_of_erase present
    exact ⟨fun same => apart (congrArg Prod.snd same), before⟩

/-- Inserting into the first cache adds one credential. -/
theorem caches_insert_token {client : AuthClient} {sessionToken : String}
    {uInfo : UserInfoAndPolicy} {other : Credential}
    (present : ({ client with cache := client.cache.insert sessionToken uInfo } :
      AuthClient).caches other = true) :
    other = (.token, sessionToken) ∨ client.caches other = true := by
  -- Only a token is looked for in this cache.
  obtain ⟨kind, text⟩ := other
  cases kind with
  | token => exact (contains_of_insert present).imp (fun same => by rw [same]) id
  | apiKey => exact Or.inr present

/-- Inserting into the second cache adds one credential. -/
theorem caches_insert_key {client : AuthClient} {sessionToken : String} {entry : ApiKeyCacheEntry}
    {other : Credential}
    (present : ({ client with apiKeyCache := client.apiKeyCache.insert sessionToken entry } :
      AuthClient).caches other = true) :
    other = (.apiKey, sessionToken) ∨ client.caches other = true := by
  obtain ⟨kind, text⟩ := other
  cases kind with
  | token => exact Or.inr present
  | apiKey => exact (contains_of_insert present).imp (fun same => by rw [same]) id

/-- A turn that leaves the caches alone, and its thread without an answer. -/
theorem Does.of_untouched {removal : Option Credential} (holds : p'.holding = none) :
    Does removal p s p' { s with clock := s.clock + 1 } :=
  .quiet (Or.inl holds) (fun _ present => present) rfl rfl rfl

/-- A turn does one of these things. -/
theorem act_does (poco : Poco) (p : AuthPhase) (s : AuthShared) (turn : AuthTurn) :
    Does (removes p turn) p s (act poco p s turn).1 (act poco p s turn).2 := by
  -- A turn that is not its thread's next operation changes nothing but the time.
  have unfit : Does (removes p turn) p s p { s with clock := s.clock + 1 } :=
    .quiet (Or.inr rfl) (fun _ present => present) rfl rfl rfl
  -- A turn is read in the phase of its thread.
  unfold act
  cases p with
  | idle last =>
    cases turn with
    | isAuthorized sessionToken now arguments =>
      simp only [operate]
      split
      · split
        · exact .of_untouched rfl
        · exact .of_untouched rfl
      · exact .of_untouched rfl
    | isValidApiKey sessionToken now arguments =>
      simp only [operate]
      split
      · split
        · exact .of_untouched rfl
        · exact .of_untouched rfl
      · exact .of_untouched rfl
    | removedCachedToken token =>
      exact .removed rfl rfl (fun _ present => caches_erase_token present) rfl rfl rfl
    | dropped sessionToken apiKey =>
      refine .quiet (Or.inl rfl) (fun credential present => ?_) rfl rfl rfl
      -- The entries leave one cache after the other.
      have first : ({ s.client with cache := s.client.cache.erase sessionToken } :
          AuthClient).caches credential = true := (caches_erase_key present).2
      exact (caches_erase_token first).2
    | next ctx => exact unfit
  | expiring sessionToken arguments =>
    cases turn with
    | next ctx =>
      exact .quiet (Or.inl rfl) (fun _ present => (caches_erase_token present).2) rfl rfl rfl
    | _ => exact unfit
  | requestingToken sessionToken arguments =>
    cases turn with
    | next ctx =>
      simp only [operate]
      split
      · exact .answered rfl rfl
      · exact .of_untouched rfl
    | _ => exact unfit
  | updatingToken sessionToken outcome uInfo answeredAt =>
    cases turn with
    | next ctx => exact .wrote rfl rfl (fun _ present => caches_insert_token present) rfl rfl rfl
    | _ => exact unfit
  | droppingKey sessionToken arguments =>
    cases turn with
    | next ctx =>
      exact .quiet (Or.inl rfl) (fun _ present => (caches_erase_key present).2) rfl rfl rfl
    | _ => exact unfit
  | requestingKey sessionToken arguments =>
    cases turn with
    | next ctx =>
      simp only [operate]
      split
      · exact .answered rfl rfl
      · exact .of_untouched rfl
    | _ => exact unfit
  | updatingKey sessionToken outcome entry answeredAt =>
    cases turn with
    | next ctx => exact .wrote rfl rfl (fun _ present => caches_insert_key present) rfl rfl rfl
    | _ => exact unfit
  | removing token =>
    cases turn with
    | next ctx => exact .removed rfl rfl (fun _ present => caches_erase_key present) rfl rfl rfl
    | _ => exact unfit

/-- Retrieving a token is reading the answer, and then caching what it says to cache. -/
theorem retrieveTokenInformation_eq (poco : Poco) (ctx : AuthContext) (client : AuthClient)
    (sessionToken : String) (arguments : AuthArguments) :
    retrieveTokenInformation poco ctx client sessionToken arguments =
      ((tokenAnswer poco ctx arguments).1,
        match (tokenAnswer poco ctx arguments).2 with
        | some uInfo => { client with cache := client.cache.insert sessionToken uInfo }
        | none => client) := by
  unfold retrieveTokenInformation tokenAnswer
  generalize OpenAPIRequestGet.doRequest poco ctx.services = answer
  obtain ⟨statusCode, response⟩ := answer
  -- The two functions branch alike, so every way out is the same on both sides.
  by_cases timeout : statusCode = httpGatewayTimeout
  · simp only [if_pos timeout]
  · simp only [if_neg timeout]
    generalize (if statusCode = httpOk then response else none) = read
    cases read with
    | none => rfl
    | some response =>
      dsimp only
      cases response.has "tokenInfo" && response.has "userInfo" with
      | false => rfl
      | true =>
        cases isTokenExpired ctx.now
          (UserInfoAndPolicy.fromJson poco response arguments.uInfo).2.webtoken <;> rfl

/-- Retrieving a key is reading the answer, and then caching what it says to cache. -/
theorem retrieveApiKeyInformation_eq (poco : Poco) (ctx : AuthContext) (client : AuthClient)
    (sessionToken : String) (arguments : AuthArguments) :
    retrieveApiKeyInformation poco ctx client sessionToken arguments =
      ((keyAnswer poco ctx arguments).1,
        match (keyAnswer poco ctx arguments).2 with
        | some entry => { client with apiKeyCache := client.apiKeyCache.insert sessionToken entry }
        | none => client) := by
  unfold retrieveApiKeyInformation keyAnswer
  generalize OpenAPIRequestGet.doRequest poco ctx.services = answer
  obtain ⟨statusCode, response⟩ := answer
  -- The answer is the same case split on both sides; the cache gains the entry exactly where it accepts.
  by_cases timeout : statusCode = httpGatewayTimeout
  · simp only [if_pos timeout]
  · simp only [if_neg timeout]
    generalize (if statusCode = httpOk then response else none) = read
    cases read with
    | none => rfl
    | some response =>
      dsimp only
      cases response.has "tokenInfo" && response.has "userInfo" && response.has "expiresOn" with
      | false => rfl
      | true => cases poco.toUInt64 (response.get "expiresOn") <;> rfl

/-- Without interruption, the operations of a thread that asks about a token do what the call does. -/
theorem alone_isAuthorized (poco : Poco) (ctx : AuthContext) (sessionToken : String)
    (arguments : AuthArguments) (last : Option AuthOutcome) (s : AuthShared) :
    let reached := Interleaving.alone (act poco) (.idle last, s)
      [.isAuthorized sessionToken ctx.now arguments, .next ctx, .next ctx]
    let outcome := isAuthorized poco ctx s.client sessionToken arguments
    reached.1 = .idle (some outcome.1) ∧ reached.2.client = outcome.2 := by
  simp only [Interleaving.alone, List.foldl_cons, List.foldl_nil, act, operate, isAuthorized]
  cases s.client.cache[sessionToken]? with
  | some user =>
    dsimp only
    cases isTokenExpired ctx.now user.webtoken <;> exact ⟨rfl, rfl⟩
  | none =>
    -- A token that is not cached is asked for, and cached when the answer says so.
    simp only [retrieveTokenInformation_eq]
    obtain ⟨outcome, entry⟩ := tokenAnswer poco ctx arguments
    cases entry <;> exact ⟨rfl, rfl⟩

/-- Without interruption, the operations of a thread that asks about a key do what the call does. -/
theorem alone_isValidApiKey (poco : Poco) (ctx : AuthContext) (sessionToken : String)
    (arguments : AuthArguments) (last : Option AuthOutcome) (s : AuthShared) :
    let reached := Interleaving.alone (act poco) (.idle last, s)
      [.isValidApiKey sessionToken ctx.now arguments, .next ctx, .next ctx, .next ctx]
    let outcome := isValidApiKey poco ctx s.client sessionToken arguments
    reached.1 = .idle (some outcome.1) ∧ reached.2.client = outcome.2 := by
  simp only [Interleaving.alone, List.foldl_cons, List.foldl_nil, act, operate, isValidApiKey]
  cases s.client.apiKeyCache[sessionToken]? with
  | some user =>
    by_cases dead : user.expiresOn < ctx.now
    · simp only [if_pos dead, and_self]
    · -- A key that is still valid is forgotten before it is asked for again.
      simp only [if_neg dead, retrieveApiKeyInformation_eq]
      obtain ⟨outcome, entry⟩ := keyAnswer poco ctx arguments
      cases entry <;> exact ⟨rfl, rfl⟩
  | none =>
    simp only [retrieveApiKeyInformation_eq]
    obtain ⟨outcome, entry⟩ := keyAnswer poco ctx arguments
    cases entry <;> exact ⟨rfl, rfl⟩

/-- Without interruption, the operations of the bus thread remove a token from both caches. -/
theorem alone_removedCachedToken (poco : Poco) (ctx : AuthContext) (token : String)
    (last : Option AuthOutcome) (s : AuthShared) :
    (Interleaving.alone (act poco) (.idle last, s)
      [.removedCachedToken token, .next ctx]).2.client = s.client.removedCachedToken token :=
  rfl

/-- A call that says yes from the cache has found its credential there. -/
theorem caches_of_accepts {threads : AuthThreads ι} {turn : ι × AuthTurn} {credential : Credential}
    (accepts : AcceptsFromCache poco credential threads turn) :
    threads.shared.client.caches credential = true := by
  obtain ⟨thread, input⟩ := turn
  obtain ⟨asks, returned⟩ := accepts
  simp only [act] at returned
  cases input with
  | isAuthorized sessionToken now arguments =>
    cases asks
    cases point : threads.threads thread with
    | idle last =>
      -- Without an entry the thread would be waiting for an answer.
      simp only [point, operate] at returned
      cases cached : threads.shared.client.cache[sessionToken]? with
      | none => simp [cached, AuthPhase.YesFromCache] at returned
      | some user => simp [AuthClient.caches, Std.ExtTreeMap.contains_eq_isSome_getElem?, cached]
    | _ => simp [point, operate, AuthPhase.YesFromCache] at returned
  | isValidApiKey sessionToken now arguments =>
    cases asks
    cases point : threads.threads thread with
    | idle last =>
      simp only [point, operate] at returned
      cases cached : threads.shared.client.apiKeyCache[sessionToken]? with
      | none => simp [cached, AuthPhase.YesFromCache] at returned
      | some user => simp [AuthClient.caches, Std.ExtTreeMap.contains_eq_isSome_getElem?, cached]
    | _ => simp [point, operate, AuthPhase.YesFromCache] at returned
  | _ => cases asks

/-- The clock is ahead of every removal, and what is cached was written after the last one. -/
def Timed (s : AuthShared) : Prop :=
  ∀ credential, s.removed credential ≤ s.clock ∧
    (s.client.caches credential = true → s.removed credential < s.written credential)

/-- A turn takes one unit of time. -/
theorem clock_act (poco : Poco) (p : AuthPhase) (s : AuthShared) (turn : AuthTurn) :
    (act poco p s turn).2.clock = s.clock + 1 := by
  unfold act operate
  -- No branch touches the clock after it has been set.
  split
  all_goals first
    | rfl
    | (split <;> first
        | rfl
        | (split <;> rfl))

/-- Every turn keeps the times in order. -/
theorem Timed.after {removal : Option Credential} (timed : Timed s)
    (clock : s'.clock = s.clock + 1) (does : Does removal p s p' s') : Timed s' := by
  intro credential
  obtain ⟨before, written⟩ := timed credential
  -- A removal is the latest event of its credential, until the credential is written again.
  cases does with
  | quiet holds shrinks removed answered sameWritten =>
    rw [removed, sameWritten, clock]
    exact ⟨Nat.le_succ_of_le before, fun present => written (shrinks credential present)⟩
  | answered holds same =>
    subst same
    exact ⟨Nat.le_succ_of_le before, written⟩
  | @wrote wrote answeredAt held holds grows removed answered sameWritten =>
    rw [removed, sameWritten, clock]
    refine ⟨Nat.le_succ_of_le before, fun present => ?_⟩
    by_cases own : credential = wrote
    · subst own
      rw [Function.update_self]
      omega
    · rw [Function.update_of_ne own]
      exact written ((grows credential present).resolve_left own)
  | @removed gone told holds shrinks removed answered sameWritten =>
    rw [removed, sameWritten, clock]
    by_cases own : credential = gone
    · subst own
      rw [Function.update_self]
      exact ⟨Nat.le_refl _, fun present => absurd rfl (shrinks credential present).1⟩
    · rw [Function.update_of_ne own]
      exact ⟨Nat.le_succ_of_le before, fun present => written (shrinks credential present).2⟩

/-- What is cached of a credential was validated after its last removal. -/
def Validated (credential : Credential) (s : AuthShared) : Prop :=
  s.removed credential ≤ s.clock ∧
    (s.client.caches credential = true → s.removed credential < s.answered credential)

/-- An answer that a thread holds for a credential came in after the last removal. -/
def HoldsValidated (credential : Credential) (p : AuthPhase) (s : AuthShared) : Prop :=
  ∀ answeredAt, p.holding = some (credential, answeredAt) → s.removed credential < answeredAt

/-- A thread keeps what is cached validated, and holds only validated answers afterwards. -/
theorem validated_after {removal : Option Credential} {credential : Credential}
    (validated : Validated credential s) (own : HoldsValidated credential p s)
    (clock : s'.clock = s.clock + 1) (does : Does removal p s p' s') :
    Validated credential s' ∧ HoldsValidated credential p' s' := by
  obtain ⟨before, cached⟩ := validated
  unfold Validated HoldsValidated
  cases does with
  | quiet holds shrinks removed answered written =>
    rw [removed, answered, clock]
    refine ⟨⟨Nat.le_succ_of_le before, fun present => cached (shrinks credential present)⟩, ?_⟩
    intro answeredAt held
    rcases holds with nothing | same
    · rw [nothing] at held
      contradiction
    · exact own answeredAt (same ▸ held)
  | answered holds same =>
    subst same
    refine ⟨⟨Nat.le_succ_of_le before, cached⟩, fun answeredAt held => ?_⟩
    -- The answer came in with this turn, which is later than every removal so far.
    obtain ⟨rfl, rfl⟩ := Prod.mk.inj (Option.some.inj (holds.symm.trans held))
    exact Nat.lt_succ_of_le before
  | @wrote wrote answeredAt held holds grows removed answered written =>
    rw [removed, answered, clock]
    refine ⟨⟨Nat.le_succ_of_le before, fun present => ?_⟩, by simp [holds]⟩
    by_cases same : credential = wrote
    · subst same
      rw [Function.update_self]
      exact own answeredAt held
    · rw [Function.update_of_ne same]
      exact cached ((grows credential present).resolve_left same)
  | @removed gone told holds shrinks removed answered written =>
    rw [removed, answered, clock]
    refine ⟨?_, by simp [holds]⟩
    by_cases same : credential = gone
    · subst same
      rw [Function.update_self]
      exact ⟨Nat.le_refl _, fun present => absurd rfl (shrinks credential present).1⟩
    · rw [Function.update_of_ne same]
      exact ⟨Nat.le_succ_of_le before, fun present => cached (shrinks credential present).2⟩

/-- Another thread's answer stays validated, unless the turn removes its credential. -/
theorem holdsValidated_stable {credential : Credential} {q : AuthPhase}
    (spared : removes p turn = some credential → ∀ answeredAt,
      q.holding ≠ some (credential, answeredAt))
    (does : Does (removes p turn) p s p' s') (holds : HoldsValidated credential q s) :
    HoldsValidated credential q s' := by
  intro answeredAt held
  have before := holds answeredAt held
  -- Only a removal moves the time the answer is compared with.
  cases does with
  | quiet _ _ removed => exact removed ▸ before
  | answered _ same =>
    subst same
    exact before
  | wrote _ _ _ removed => exact removed ▸ before
  | @removed gone told _ _ removed =>
    have other : credential ≠ gone := by
      rintro rfl
      exact spared told answeredAt held
    rw [removed, Function.update_of_ne other]
    exact before

/-- The service before any request: empty caches, and every thread idle. -/
def beforeRequests : AuthThreads ι :=
  .start {} (.idle none)

/-- Nothing is cached before any request. -/
theorem caches_beforeRequests (credential : Credential) :
    (beforeRequests (ι := ι)).shared.client.caches credential = false := by
  -- Both maps are empty.
  obtain ⟨kind, text⟩ := credential
  cases kind <;> simp [AuthClient.caches, beforeRequests, Interleaving.start]

variable [DecidableEq ι]

/-- A removal that finds no answer in flight keeps everything about a credential validated. -/
theorem validated_step (poco : Poco) (credential : Credential) (threads : AuthThreads ι)
    (turn : ι × AuthTurn)
    (holds : Interleaving.Holds (Validated credential) (HoldsValidated credential)
      (fun _ _ => True) threads)
    (spared : NoneInFlight credential threads turn) :
    Interleaving.Holds (Validated credential) (HoldsValidated credential) (fun _ _ => True)
      (Interleaving.step (act poco) threads turn) := by
  have does := act_does poco (threads.threads turn.1) threads.shared turn.2
  have clock := clock_act poco (threads.threads turn.1) threads.shared turn.2
  refine holds.step (validated_after holds.invariant (holds.assertion turn.1) clock does) ?_
    fun _ _ => ⟨trivial, trivial⟩
  -- The other threads hold no answer for a credential that is removed.
  intro other _ held
  exact holdsValidated_stable (fun removal => spared removal other) does held

/--
In every interleaving, what is accepted from a cache was written there after the last removal.

It was also validated after that removal, when no thread held an answer for the credential at any of
its removals. A validation that is overtaken by the removal is written after it.
-/
theorem revocationSticks_of_noneInFlight (poco : Poco) (turns : List (ι × AuthTurn)) :
    Transition.Along (Interleaving.step (act poco)) (WrittenSinceRemoval poco)
        (beforeRequests (ι := ι)) turns ∧
      ∀ credential,
        Transition.Along (Interleaving.step (act poco)) (NoneInFlight credential)
          (beforeRequests (ι := ι)) turns →
        Transition.Along (Interleaving.step (act poco)) (RevocationSticks poco credential)
          (beforeRequests (ι := ι)) turns := by
  constructor
  · -- The order of the times is kept by every turn.
    have always := Transition.along_true (Interleaving.step (act poco)) (beforeRequests (ι := ι)) turns
    have initial : Timed (beforeRequests (ι := ι)).shared := by
      intro credential
      rw [caches_beforeRequests]
      exact ⟨Nat.le_refl _, by simp⟩
    have kept : ∀ (threads : AuthThreads ι) (turn : ι × AuthTurn), Timed threads.shared → True →
        Timed (Interleaving.step (act poco) threads turn).shared := by
      intro threads turn timed _
      exact timed.after (clock_act poco _ _ _)
        (act_does poco (threads.threads turn.1) threads.shared turn.2)
    have timed := Transition.invariant_along (fun threads : AuthThreads ι => Timed threads.shared)
      kept initial always
    refine Transition.along_mono ?_ (Transition.along_of_states timed)
    intro threads turn inOrder credential accepts
    exact (inOrder credential).2 (caches_of_accepts accepts)
  · -- Without answers in flight, what is cached stays validated.
    intro credential spared
    have initial : Interleaving.Holds (Validated credential) (HoldsValidated credential)
        (fun _ _ => True) (beforeRequests (ι := ι)) := by
      refine Interleaving.holds_start ⟨Nat.le_refl _, fun present => ?_⟩ (by simp [HoldsValidated,
        AuthPhase.holding]) trivial
      have absent := caches_beforeRequests (ι := ι) credential
      exact absurd present (by simp [← absent, beforeRequests, Interleaving.start])
    have validated := Interleaving.holds_along (validated_step poco credential) initial spared
    refine Transition.along_mono ?_ (Transition.along_of_states validated)
    intro threads turn holds accepts
    exact holds.invariant.2 (caches_of_accepts accepts)

/-- A thread that serves a request, and the one that reads the bus. -/
inductive TwoThreads where
  | request
  | bus
  deriving DecidableEq, Repr

/-- A validation that the removal of its token overtakes, and a second request for the token. -/
def overtaken : List (TwoThreads × AuthTurn) :=
  let ctx : AuthContext := ⟨150, [.answered httpOk tokenText]⟩
  [(.request, .isAuthorized "token" 150 {}), (.request, .next ctx),
    (.bus, .removedCachedToken "token"), (.bus, .next ctx),
    (.request, .next ctx), (.request, .isAuthorized "token" 150 {})]

/-- A token that has been removed is accepted again from an answer that came in before its removal. -/
theorem removed_token_accepted :
    ¬ ∀ (ι : Type) [DecidableEq ι] (poco : Poco) (turns : List (ι × AuthTurn))
      (credential : Credential),
      Transition.Along (Interleaving.step (act poco)) (RevocationSticks poco credential)
        (beforeRequests (ι := ι)) turns := by
  intro sticks
  have along := sticks TwoThreads tokenPoco overtaken (.token, "token")
  -- The last turn is the second request, which finds what the first one has written.
  have last := along.2.2.2.2.2.1
  have late := last (by decide +kernel)
  exact absurd late (by decide +kernel)

end AuthClient

end Fms
