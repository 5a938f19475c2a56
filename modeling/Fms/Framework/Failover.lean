import Fms.Framework.Request

/-! The four kinds of requests, and when they get past an instance of a service that fails. -/

namespace Fms

/-- What a request returns, and whether the status is one that an instance has answered with. -/
structure RequestOutcome where
  status : Nat
  answered : Bool
  responseObject : Option JsonObject := none

/-- What a request returns of its own accord. -/
def RequestOutcome.timedOut : RequestOutcome where
  status := httpGatewayTimeout
  answered := false

/--
One round of the loop over the instances; it is absent where it throws.

After the answer the body is parsed, for the statuses the kind of request does that for.
-/
def requestRound (poco : Poco) (parses : Nat → Bool) : Exchange → Option RequestOutcome
  | .threw => none
  | .answered status body =>
    if parses status then
      (poco.parseObject body).map fun responseObject => ⟨status, true, some responseObject⟩
    else some ⟨status, true, none⟩

/-- `Do`: a round returns from the function, or throws past the loop to the handler around it. -/
def requestDo (poco : Poco) (parses : Nat → Bool) : List Exchange → RequestOutcome
  | [] => .timedOut
  | instance_ :: _ => (requestRound poco parses instance_).getD .timedOut

/-- `OpenAPIRequestGet::Do`. -/
def OpenAPIRequestGet.perform (poco : Poco) : List Exchange → RequestOutcome :=
  requestDo poco fun status => decide (status = httpOk)

/-- `OpenAPIRequestPut::Do`, which parses the body on both branches of its test of the status. -/
def OpenAPIRequestPut.perform (poco : Poco) : List Exchange → RequestOutcome :=
  requestDo poco fun _ => true

/-- `OpenAPIRequestPost::Do`, which parses the body on both branches of its test of the status. -/
def OpenAPIRequestPost.perform (poco : Poco) : List Exchange → RequestOutcome :=
  requestDo poco fun _ => true

/-- `OpenAPIRequestDelete::Do`, which does not read the body. -/
def OpenAPIRequestDelete.perform (poco : Poco) : List Exchange → RequestOutcome :=
  requestDo poco fun _ => false

/-- The status of an answer. -/
def Exchange.status? : Exchange → Option Nat
  | .threw => none
  | .answered status _ => some status

/-- A request returns the status of the first instance that answers, and times out when none does. -/
def FailsOver (services : List Exchange) (outcome : RequestOutcome) : Prop :=
  match services.findSome? Exchange.status? with
  | some status => outcome.answered = true ∧ outcome.status = status
  | none => outcome.answered = false ∧ outcome.status = httpGatewayTimeout

/-- The first instance has answered, with a body that can be parsed where it is. -/
def FirstUsable (poco : Poco) (parses : Nat → Bool) (services : List Exchange) : Prop :=
  ∃ status body rest, services = .answered status body :: rest ∧
    (parses status = true → (poco.parseObject body).isSome = true)

variable {poco : Poco} {parses : Nat → Bool} {services : List Exchange}

/-- The status and the object are what the requests of the other modules see of a `Do`. -/
theorem OpenAPIRequestGet.doRequest_eq (poco : Poco) (services : List Exchange) :
    OpenAPIRequestGet.doRequest poco services =
      ((OpenAPIRequestGet.perform poco services).status,
        (OpenAPIRequestGet.perform poco services).responseObject) := by
  cases services with
  | nil => rfl
  | cons first rest =>
    cases first with
    -- Either way the one instance that is asked decides.
    | threw => rfl
    | answered status body =>
      simp only [OpenAPIRequestGet.doRequest, OpenAPIRequestGet.perform, requestDo, requestRound,
        decide_eq_true_eq]
      by_cases ok : status = httpOk
      · subst ok
        cases poco.parseObject body with
        | none => rfl
        | some responseObject => rfl
      · simp [ok]

/-- No instance has answered exactly when all of them threw. -/
theorem findSome?_status_eq_none :
    services.findSome? Exchange.status? = none ↔ ∀ exchange ∈ services, exchange = .threw := by
  -- An exchange has a status exactly when it was answered.
  rw [List.findSome?_eq_none_iff]
  constructor
  · intro silent exchange member
    cases exchange with
    | threw => rfl
    | answered status body => exact absurd (silent _ member) (by simp [Exchange.status?])
  · intro threw exchange member
    rw [threw exchange member]
    rfl

/-- A request fails over exactly when there is nothing to fail over from, or nothing to fail over to. -/
theorem requestDo_failsOver_iff (poco : Poco) (parses : Nat → Bool) (services : List Exchange) :
    FailsOver services (requestDo poco parses services) ↔
      (∀ exchange ∈ services, exchange = .threw) ∨ FirstUsable poco parses services := by
  cases services with
  | nil => simp [FailsOver, requestDo, RequestOutcome.timedOut]
  | cons first rest =>
    cases first with
    | threw =>
      -- The loop has ended: what the other instances would answer no longer counts.
      have unusable : ¬ FirstUsable poco parses (.threw :: rest) := by
        rintro ⟨status, body, others, same, _⟩
        simp at same
      rw [or_iff_left unusable, ← findSome?_status_eq_none]
      simp only [FailsOver, requestDo, requestRound, Option.getD_none]
      cases (Exchange.threw :: rest).findSome? Exchange.status? with
      | none => simp [RequestOutcome.timedOut]
      | some status => simp [RequestOutcome.timedOut]
    | answered status body =>
      have answers : ¬ ∀ exchange ∈ Exchange.answered status body :: rest, exchange = .threw :=
        fun threw => absurd (threw _ (List.mem_cons_self ..)) (by simp)
      rw [or_iff_right answers]
      have usable : FirstUsable poco parses (.answered status body :: rest) ↔
          (parses status = true → (poco.parseObject body).isSome = true) := by
        simp [FirstUsable]
      rw [usable]
      simp only [FailsOver, requestDo, requestRound, List.findSome?_cons, Exchange.status?]
      -- An answer whose body does not parse throws like no answer at all.
      by_cases parsed : parses status = true
      · cases poco.parseObject body with
        | none => simp [parsed, RequestOutcome.timedOut]
        | some responseObject => simp [parsed]
      · simp [parsed]

/--
Each kind of request fails over exactly when all instances threw, or the first one is usable.

The kinds differ in the answers whose bodies they parse: a status OK, all of them, or none.
-/
theorem failsOver_iff_firstUsable (poco : Poco) (services : List Exchange) :
    (FailsOver services (OpenAPIRequestGet.perform poco services) ↔
        (∀ exchange ∈ services, exchange = .threw) ∨
          FirstUsable poco (fun status => decide (status = httpOk)) services) ∧
      (FailsOver services (OpenAPIRequestPut.perform poco services) ↔
        (∀ exchange ∈ services, exchange = .threw) ∨ FirstUsable poco (fun _ => true) services) ∧
      (FailsOver services (OpenAPIRequestPost.perform poco services) ↔
        (∀ exchange ∈ services, exchange = .threw) ∨ FirstUsable poco (fun _ => true) services) ∧
      (FailsOver services (OpenAPIRequestDelete.perform poco services) ↔
        (∀ exchange ∈ services, exchange = .threw) ∨ FirstUsable poco (fun _ => false) services) := by
  -- Each kind is the same loop with its own answers to parse.
  constructor
  · exact requestDo_failsOver_iff poco _ services
  constructor
  · exact requestDo_failsOver_iff poco _ services
  constructor
  · exact requestDo_failsOver_iff poco _ services
  · exact requestDo_failsOver_iff poco _ services

/-- The second of two instances is not asked when the first one cannot be reached. -/
theorem second_instance_not_asked :
    ¬ ∀ (poco : Poco) (services : List Exchange),
      FailsOver services (OpenAPIRequestGet.perform poco services) ∧
        FailsOver services (OpenAPIRequestPut.perform poco services) ∧
        FailsOver services (OpenAPIRequestPost.perform poco services) ∧
        FailsOver services (OpenAPIRequestDelete.perform poco services) := by
  -- The first instance throws, and the loop ends with the attempt.
  intro failsOver
  obtain ⟨byGet, -⟩ := failsOver (.onDocuments [("{}", .object [])]) [.threw, .answered httpOk "{}"]
  exact absurd byGet.1 (by decide)

end Fms
