import Fms.Security.AuthClient
import Fms.Relation.Run

/-! When credentials that are accepted from the caches are still valid. -/

namespace Fms

/-- What can happen to the caches, one call at a time. -/
inductive AuthCall where
  | isAuthorized (sessionToken : String) (ctx : AuthContext) (arguments : AuthArguments)
  | isValidApiKey (sessionToken : String) (ctx : AuthContext) (arguments : AuthArguments)
  | removedCachedToken (token : String)
  /-- An entry leaves a cache because of its age or because the cache is full. -/
  | dropped (sessionToken apiKey : String)

/-- A call has said yes without asking the security service. -/
def AuthOutcome.FromCache (outcome : AuthOutcome) : Prop :=
  outcome.accepted = true ∧ outcome.requested = false

namespace AuthClient

/-- The caches after a call. -/
def step (poco : Poco) (s : AuthClient) : AuthCall → AuthClient
  | .isAuthorized sessionToken ctx arguments => (isAuthorized poco ctx s sessionToken arguments).2
  | .isValidApiKey sessionToken ctx arguments => (isValidApiKey poco ctx s sessionToken arguments).2
  | .removedCachedToken token => s.removedCachedToken token
  | .dropped sessionToken apiKey =>
    { cache := s.cache.erase sessionToken, apiKeyCache := s.apiKeyCache.erase apiKey }

/-- A token that has not expired, in exact arithmetic. -/
def TokenValid (now : UInt64) (t : WebToken) : Prop :=
  now.toNat ≤ t.created.toNat + t.expiresIn.toNat

/-- A key that has not expired. -/
def KeyValid (now : UInt64) (entry : ApiKeyCacheEntry) : Prop :=
  now.toNat ≤ entry.expiresOn.toNat

/--
A call treats its cache as it should.

What it accepts from the cache is valid, and a valid key in the cache is accepted from there.
-/
def Trustworthy (poco : Poco) (s : AuthClient) : AuthCall → Prop
  | .isAuthorized sessionToken ctx arguments =>
    (isAuthorized poco ctx s sessionToken arguments).1.FromCache →
      ∃ user, s.cache[sessionToken]? = some user ∧ TokenValid ctx.now user.webtoken
  | .isValidApiKey sessionToken ctx arguments =>
    ((isValidApiKey poco ctx s sessionToken arguments).1.FromCache →
      ∃ entry, s.apiKeyCache[sessionToken]? = some entry ∧ KeyValid ctx.now entry) ∧
    ∀ entry, s.apiKeyCache[sessionToken]? = some entry → KeyValid ctx.now entry →
      (isValidApiKey poco ctx s sessionToken arguments).1.FromCache
  | .removedCachedToken _ => True
  | .dropped .. => True

/-- A call that does not look for a key the cache holds. -/
def NoCachedKey (s : AuthClient) : AuthCall → Prop
  | .isValidApiKey sessionToken _ _ => s.apiKeyCache[sessionToken]? = none
  | .isAuthorized .. => True
  | .removedCachedToken _ => True
  | .dropped .. => True

variable {poco : Poco} {ctx : AuthContext} {s : AuthClient} {sessionToken : String}
  {arguments : AuthArguments}

/-- Retrieving a token asks the security service. -/
theorem requested_retrieveTokenInformation :
    (retrieveTokenInformation poco ctx s sessionToken arguments).1.requested = true := by
  -- Every way out of the function comes after the request.
  unfold retrieveTokenInformation
  dsimp only
  split
  · rfl
  · split
    · split
      · split <;> rfl
      · rfl
    · rfl

/-- Retrieving a key asks the security service. -/
theorem requested_retrieveApiKeyInformation :
    (retrieveApiKeyInformation poco ctx s sessionToken arguments).1.requested = true := by
  -- As for a token, the request comes before every way out.
  unfold retrieveApiKeyInformation
  dsimp only
  split
  · rfl
  · split
    · split
      · split <;> rfl
      · rfl
    · rfl

/-- A token that passes the unsigned comparison is valid, also where the sum wraps. -/
theorem tokenValid_of_not_expired {now : UInt64} {t : WebToken}
    (alive : isTokenExpired now t = false) : TokenValid now t := by
  have compared : ¬ t.expiresIn + t.created < now := by simpa [isTokenExpired] using alive
  rw [UInt64.lt_iff_toNat_lt, UInt64.toNat_add] at compared
  -- The remainder of the sum is at most the sum.
  have bound := Nat.mod_le (t.expiresIn.toNat + t.created.toNat) (2 ^ 64)
  show now.toNat ≤ t.created.toNat + t.expiresIn.toNat
  omega

/-- A token is accepted from the cache only while it is valid. -/
theorem trustworthy_isAuthorized :
    Trustworthy poco s (.isAuthorized sessionToken ctx arguments) := by
  -- An answer without a request comes from the cache, and only after the comparison.
  rintro ⟨accepted, silent⟩
  unfold isAuthorized at accepted silent
  cases cached : s.cache[sessionToken]? with
  | none =>
    -- A token that is not cached is asked for.
    simp [cached, requested_retrieveTokenInformation] at silent
  | some user =>
    refine ⟨user, rfl, ?_⟩
    cases expired : isTokenExpired ctx.now user.webtoken with
    | true => simp [cached, expired] at accepted
    | false => exact tokenValid_of_not_expired expired

/-- The treatment of a key is right exactly when the cache does not hold it. -/
theorem trustworthy_isValidApiKey :
    Trustworthy poco s (.isValidApiKey sessionToken ctx arguments) ↔
      s.apiKeyCache[sessionToken]? = none := by
  constructor
  · rintro ⟨sound, prompt⟩
    cases cached : s.apiKeyCache[sessionToken]? with
    | none => rfl
    | some entry =>
      exfalso
      by_cases dead : entry.expiresOn < ctx.now
      · -- An expired key is accepted from the cache.
        have fromCache : (isValidApiKey poco ctx s sessionToken arguments).1.FromCache := by
          simp [isValidApiKey, cached, dead, AuthOutcome.FromCache]
        obtain ⟨other, held, valid⟩ := sound fromCache
        obtain rfl : entry = other := Option.some.inj (cached.symm.trans held)
        have late : entry.expiresOn.toNat < ctx.now.toNat := UInt64.lt_iff_toNat_lt.mp dead
        exact absurd late (Nat.not_lt.mpr valid)
      · -- A valid key is forgotten and asked for again.
        have valid : KeyValid ctx.now entry :=
          Nat.not_lt.mp fun late => dead (UInt64.lt_iff_toNat_lt.mpr late)
        have silent := (prompt entry cached valid).2
        simp [isValidApiKey, cached, dead, requested_retrieveApiKeyInformation] at silent
  · -- A key that is not cached is asked for, and nothing is said about cached ones.
    intro absent
    constructor
    · rintro ⟨_, silent⟩
      simp [isValidApiKey, absent, requested_retrieveApiKeyInformation] at silent
    · intro entry cached
      rw [absent] at cached
      contradiction

/-- A call is trustworthy exactly when it does not look for a cached key. -/
theorem trustworthy_iff (call : AuthCall) : Trustworthy poco s call ↔ NoCachedKey s call := by
  -- Only a call for a key has a condition; the other calls meet theirs.
  cases call with
  | isAuthorized sessionToken ctx arguments => exact iff_of_true trustworthy_isAuthorized trivial
  | isValidApiKey sessionToken ctx arguments => exact trustworthy_isValidApiKey
  | removedCachedToken token => rfl
  | dropped sessionToken apiKey => rfl

/--
A run of calls is trustworthy throughout exactly when no call looks for a key the cache holds.

The comparison of keys is the wrong way round: it accepts the expired ones from the cache, and asks
again for the valid ones.
-/
theorem trustworthy_along_iff (poco : Poco) (s : AuthClient) (calls : List AuthCall) :
    Transition.Along (step poco) (Trustworthy poco) s calls ↔
      Transition.Along (step poco) NoCachedKey s calls :=
  -- The two agree at every call, whatever the caches hold.
  Transition.along_congr (fun _ => True) (fun _ _ _ _ => trivial)
    (fun _ call _ => trustworthy_iff call) trivial calls

/-- The answer of the security service for a key that is valid until time 200. -/
def keyText : String :=
  "\x7b\"tokenInfo\":\x7b\x7d,\"userInfo\":\x7b\x7d,\"expiresOn\":200\x7d"

/-- A parser that knows the answer. -/
def keyPoco : Poco := .onDocuments
  [(keyText, .object [("tokenInfo", .object []), ("userInfo", .object []), ("expiresOn", .int 200)])]

/-- A call for the key at some time, at which the service would give its answer. -/
def keyAt (now : UInt64) : AuthCall :=
  .isValidApiKey "key" ⟨now, [.answered httpOk keyText]⟩ {}

/-- A key that was accepted while it was valid is accepted from the cache after it has expired. -/
theorem expired_key_accepted :
    ¬ ∀ (poco : Poco) (calls : List AuthCall),
      Transition.Along (step poco) (Trustworthy poco) {} calls := by
  -- The first call caches the key; the second one comes after it has expired.
  intro trusted
  have along := trusted keyPoco [keyAt 100, keyAt 300]
  have second : Trustworthy keyPoco (step keyPoco {} (keyAt 100)) (keyAt 300) := along.2.1
  have cached : ((step keyPoco {} (keyAt 100)).apiKeyCache["key"]?).isSome = true := by
    decide +kernel
  have absent := trustworthy_isValidApiKey.mp second
  rw [absent] at cached
  contradiction

end AuthClient

end Fms
