import Fms.Relation.FixedWindow
import Mathlib.Data.Set.Function
import Mathlib.Logic.Function.Basic

/-! `RESTAPI_RateLimiter`: how many requests a client may send to a path within a period. -/

namespace Fms.RateLimiter

/-- `ClientCacheEntry`. -/
structure ClientCacheEntry where
  start : Int
  count : Int32
  deriving DecidableEq, Repr

/-- `Cache_`, from which no entry is evicted and in which none expires. -/
abbrev Cache := UInt64 → Option ClientCacheEntry

/-- `Cache_` when the service starts. -/
def emptyCache : Cache := fun _ => none

/-- A call of `IsRateLimited`: the path and the client address of the request, the limits, and the clock. -/
structure Call where
  path : String
  host : String
  period : Int
  maxCalls : Int
  now : Int
  deriving DecidableEq, Repr

/-- `IsRateLimited`, and the cache after it. -/
def isRateLimited (strHash : String → UInt64) (cache : Cache) (r : Call) : Bool × Cache :=
  let h := strHash (r.path ++ r.host)
  match cache h with
  | none => (false, Function.update cache h (some { start := r.now, count := 1 }))
  | some e =>
    if r.now - e.start < r.period then
      let e := { e with count := e.count + 1 }
      let cache := Function.update cache h (some e)
      if r.maxCalls < e.count.toInt then (true, cache) else (false, cache)
    else (false, Function.update cache h (some { start := r.now, count := 1 }))

/-- The decisions about the requests from one address to one path, among all requests. -/
def decisions (strHash : String → UInt64) (path host : String) (cache : Cache) (calls : List Call) : List Bool :=
  Transition.outputs
    (fun cache r => if r.path = path ∧ r.host = host then some (isRateLimited strHash cache r).1 else none)
    (fun cache r => (isRateLimited strHash cache r).2) cache calls

/-- The requests of a list that come from one address to one path. -/
def fromClient (path host : String) (calls : List Call) : List Call :=
  calls.filter fun r => decide (r.path = path ∧ r.host = host)

/-- What `IsRateLimited` makes of the entry of its key. -/
def serve (entry : Option ClientCacheEntry) (r : Call) : Bool × ClientCacheEntry :=
  match entry with
  | none => (false, { start := r.now, count := 1 })
  | some e =>
    if r.now - e.start < r.period then
      (decide (r.maxCalls < (e.count + 1).toInt), { e with count := e.count + 1 })
    else (false, { start := r.now, count := 1 })

variable {strHash : String → UInt64} {path host : String}

/-- A request is decided by the entry of its key, and changes no other. -/
theorem isRateLimited_eq (strHash : String → UInt64) (cache : Cache) (r : Call) :
    isRateLimited strHash cache r =
      ((serve (cache (strHash (r.path ++ r.host))) r).1,
        Function.update cache (strHash (r.path ++ r.host))
          (some (serve (cache (strHash (r.path ++ r.host))) r).2)) := by
  rw [isRateLimited]
  cases found : cache (strHash (r.path ++ r.host)) with
  | none => rfl
  | some e =>
    -- Within the period the answer is the comparison with the limit; after it the window is a new one.
    by_cases within : r.now - e.start < r.period
    · by_cases beyond : r.maxCalls < (e.count + 1).toInt
      · simp only [serve, if_pos within, if_pos beyond, decide_eq_true beyond]
      · simp only [serve, if_pos within, if_neg beyond, decide_eq_false beyond]
    · simp only [serve, if_neg within]

/-- Where no other request has the key of a client, its decisions follow from its own requests. -/
theorem decisions_eq {calls : List Call} (apart : ∀ r ∈ calls,
      strHash (r.path ++ r.host) = strHash (path ++ host) → r.path = path ∧ r.host = host) (cache : Cache) :
    decisions strHash path host cache calls =
      Transition.outputs (fun entry r => some (serve entry r).1) (fun entry r => some (serve entry r).2)
        (cache (strHash (path ++ host))) (fromClient path host calls) := by
  refine Transition.outputs_view (fun r : Call => r.path = path ∧ r.host = host)
    (fun cache => cache (strHash (path ++ host))) ?_ ?_ cache
  · rintro cache r member ⟨samePath, sameHost⟩
    rw [if_pos ⟨samePath, sameHost⟩, isRateLimited_eq, samePath, sameHost]
    exact ⟨rfl, Function.update_self ..⟩
  · intro cache r member other
    -- The request has another key, so it writes another entry.
    have key : strHash (path ++ host) ≠ strHash (r.path ++ r.host) :=
      fun same => other (apart r member same.symm)
    rw [if_neg other, isRateLimited_eq]
    exact ⟨rfl, Function.update_of_ne key ..⟩

/-- An entry is what the code keeps of a window. -/
def Counts (e : ClientCacheEntry) (window : FixedWindow.Opened) : Prop :=
  e.start = window.start ∧ e.count.toInt = window.count

/-- Counting one more request stays exact up to the greatest `int`. -/
theorem toInt_count_add_one {count : Int32} {number : Nat} (same : count.toInt = number)
    (small : number + 1 < 2147483648) : (count + 1).toInt = (number + 1 : Nat) := by
  have one : (1 : Int32).toInt = 1 := by decide
  rw [Int32.toInt_add, same, one, Int.bmod_eq_of_le (by omega) (by omega)]
  rfl

/-- One request is answered as the window counter answers it, and leaves what the counter leaves. -/
theorem serve_eq_answer {r : Call} (positive : 0 ≤ r.maxCalls) {entry : Option ClientCacheEntry}
    {opened : Option FixedWindow.Opened} (related : Option.Rel Counts entry opened)
    (small : ∀ window ∈ opened, window.count + 1 < 2147483648) :
    (serve entry r).1 = (FixedWindow.answer r.period r.maxCalls.toNat opened r.now).1 ∧
      Counts (serve entry r).2 (FixedWindow.answer r.period r.maxCalls.toNat opened r.now).2 := by
  -- A new entry counts one call, as a new window does.
  have first : (1 : Int32).toInt = 1 := by decide
  cases related with
  | none => exact ⟨rfl, rfl, first⟩
  | @some e window same =>
    have next := toInt_count_add_one same.2 (small window rfl)
    rw [serve, FixedWindow.answer, same.1]
    by_cases within : r.now - window.start < r.period
    · -- Both compare the limit with the number that now includes this request.
      have limit : r.maxCalls < ((window.count + 1 : Nat) : Int) ↔ r.maxCalls.toNat < window.count + 1 := by omega
      rw [if_pos within, if_pos within, next]
      exact ⟨decide_eq_decide.mpr limit, rfl, next⟩
    · rw [if_neg within, if_neg within]
      exact ⟨rfl, rfl, first⟩

/-- A client's requests with one limit are answered as the window counter answers them. -/
theorem outputs_serve {period maxCalls : Int} (positive : 0 ≤ maxCalls) {times : List Int}
    (few : times.length < 2147483648) {entry : Option ClientCacheEntry} {opened : Option FixedWindow.Opened}
    (related : Option.Rel Counts entry opened)
    (small : ∀ window ∈ opened, window.count + times.length < 2147483648) :
    Transition.outputs (fun entry r => some (serve entry r).1) (fun entry r => some (serve entry r).2) entry
        (times.map fun now => { path, host, period, maxCalls, now }) =
      FixedWindow.answers period maxCalls.toNat opened times := by
  -- The counter stays far from its largest value as long as the times are few.
  induction times generalizing entry opened with
  | nil => rfl
  | cons time rest ih =>
    have bound : ∀ window ∈ opened, window.count + 1 < 2147483648 := by
      intro window member
      have := small window member
      rw [List.length_cons] at this
      omega
    have one := serve_eq_answer (r := { path, host, period, maxCalls, now := time }) positive related bound
    rw [List.length_cons] at few
    have later := ih (by omega) (.some one.2) ?_
    · rw [List.map_cons, Transition.outputs, FixedWindow.answers_cons, later, one.1]
      rfl
    · -- The window after this request has counted one more than before, or just this one.
      intro window left
      obtain rfl := Option.some.inj left
      have counted : (FixedWindow.answer period maxCalls.toNat opened time).2.count ≤ 2147483647 - rest.length := by
        refine FixedWindow.count_answer_le period maxCalls.toNat time (by omega) fun window member => ?_
        have := small window member
        rw [List.length_cons] at this
        omega
      change (FixedWindow.answer period maxCalls.toNat opened time).2.count + rest.length < 2147483648
      omega

/-- All requests of a list that one client has sent are from this client. -/
theorem fromClient_map (path host : String) (period maxCalls : Int) (times : List Int) :
    fromClient path host (times.map fun now => { path, host, period, maxCalls, now }) =
      times.map fun now => { path, host, period, maxCalls, now } := by
  -- All the requests are of the one client.
  refine List.filter_eq_self.mpr fun r member => ?_
  obtain ⟨now, _, rfl⟩ := List.mem_map.mp member
  simp

/--
The requests of one client fall into windows, each of which lets its first ones through up to the limit.

So no interval of the period's length lets through more than twice the limit.
-/
theorem decisions_windows (strHash : String → UInt64) (path host : String) (period maxCalls : Int)
    (positive : 1 ≤ maxCalls) (times : List Int) (few : times.length < 2147483648)
    (ordered : times.Pairwise (· ≤ ·)) (cache : Cache) (fresh : cache (strHash (path ++ host)) = none) :
    ∃ windows, FixedWindow.Cut period times windows ∧
      decisions strHash path host cache (times.map fun now => { path, host, period, maxCalls, now }) =
        windows.flatMap (FixedWindow.verdicts maxCalls.toNat) ∧
      ∀ start, ((FixedWindow.within period start (FixedWindow.kept times
        (decisions strHash path host cache (times.map fun now => { path, host, period, maxCalls, now })))).length
          : Int) ≤ 2 * maxCalls := by
  obtain ⟨windows, cut⟩ := FixedWindow.exists_cut period ordered
  -- The requests share one path and one address, so no other key is looked up.
  have own : ∀ r ∈ (times.map fun now => ({ path, host, period, maxCalls, now } : Call)),
      strHash (r.path ++ r.host) = strHash (path ++ host) → r.path = path ∧ r.host = host := by
    intro r member _
    obtain ⟨now, _, rfl⟩ := List.mem_map.mp member
    exact ⟨rfl, rfl⟩
  have answered : decisions strHash path host cache (times.map fun now => { path, host, period, maxCalls, now }) =
      windows.flatMap (FixedWindow.verdicts maxCalls.toNat) := by
    rw [decisions_eq own, fresh, fromClient_map, outputs_serve (by omega) few .none (by simp),
      cut.answers_eq (by omega) (by simp)]
  refine ⟨windows, cut, answered, fun start => ?_⟩
  have two : (FixedWindow.within period start (FixedWindow.admitted maxCalls.toNat windows)).length ≤
      2 * maxCalls.toNat := cut.length_within_le_two ordered start
  rw [answered, cut.kept_verdicts]
  omega

/-- With two calls a second, the third of three requests is turned away and the one a second later is not. -/
theorem decisions_windows_two_calls :
    (let times : List Int := [0, 400, 999, 1000]
     decisions (fun text => text.length.toUInt64) "/api/v1/firmware" "10.0.0.1" emptyCache
       (times.map fun now => ⟨"/api/v1/firmware", "10.0.0.1", 1000, 2, now⟩) = [false, false, true, false]) ∧
    ∃ windows, FixedWindow.Cut 1000 [0, 400, 999, 1000] windows ∧
      decisions (fun text => text.length.toUInt64) "/api/v1/firmware" "10.0.0.1" emptyCache
        ([0, 400, 999, 1000].map fun now => ⟨"/api/v1/firmware", "10.0.0.1", 1000, 2, now⟩) =
          windows.flatMap (FixedWindow.verdicts 2) :=
  ⟨by decide,
    let ⟨windows, cut, answered, _⟩ := decisions_windows (fun text => text.length.toUInt64) "/api/v1/firmware"
      "10.0.0.1" 1000 2 (by decide) [0, 400, 999, 1000] (by decide) (by decide) emptyCache rfl
    ⟨windows, cut, answered⟩⟩

/-- Clients that requests come from do not limit each other: a client's decisions follow from its requests. -/
def Isolates (strHash : String → UInt64) (Client : String → String → Prop) : Prop :=
  ∀ path host, Client path host → ∀ left right : List Call,
    (∀ r ∈ left, Client r.path r.host) → (∀ r ∈ right, Client r.path r.host) →
      fromClient path host left = fromClient path host right →
        decisions strHash path host emptyCache left = decisions strHash path host emptyCache right

/-- The path and the address of a client can be told from the text they are joined to. -/
def Separable (Client : String → String → Prop) : Prop :=
  ∀ path host other address, Client path host → Client other address →
    path ++ host = other ++ address → path = other ∧ host = address

/-- A request from another client with the same joined text takes the only call that a limit of one allows. -/
theorem decisions_of_joined (strHash : String → UInt64) (path host other address : String)
    (joined : other ++ address = path ++ host) (differs : ¬ (other = path ∧ address = host)) :
    decisions strHash path host emptyCache [⟨path, host, 1000, 1, 0⟩] = [false] ∧
      decisions strHash path host emptyCache [⟨other, address, 1000, 1, 0⟩, ⟨path, host, 1000, 1, 0⟩] = [true] := by
  constructor
  · simp [decisions, Transition.outputs, isRateLimited, emptyCache]
  · -- The entry that the first request leaves has the joined text as its key, and has counted one call.
    simp [decisions, Transition.outputs, isRateLimited_eq, joined, differs, emptyCache, serve]

/-- Clients do not limit each other exactly when no two of them are joined to one text. -/
theorem isolates_iff (strHash : String → UInt64) (Client : String → String → Prop)
    (injective : Set.InjOn strHash {text | ∃ path host, Client path host ∧ text = path ++ host}) :
    Isolates strHash Client ↔ Separable Client := by
  constructor
  · intro isolates path host other address client otherClient joined
    by_contra differs
    have differs : ¬ (other = path ∧ address = host) := fun same => differs ⟨same.1.symm, same.2.symm⟩
    obtain ⟨alone, shared⟩ := decisions_of_joined strHash path host other address joined.symm differs
    have same := isolates path host client [⟨path, host, 1000, 1, 0⟩]
      [⟨other, address, 1000, 1, 0⟩, ⟨path, host, 1000, 1, 0⟩] (by simpa using client)
      (by simpa using ⟨otherClient, client⟩) (by simp [fromClient, differs])
    rw [alone, shared] at same
    exact absurd same (by decide)
  · intro separable path host client left right leftClients rightClients same
    -- A request with the client's key has its joined text, and so its path and its address.
    have apart : ∀ calls : List Call, (∀ r ∈ calls, Client r.path r.host) → ∀ r ∈ calls,
        strHash (r.path ++ r.host) = strHash (path ++ host) → r.path = path ∧ r.host = host := by
      intro calls clients r member key
      have joined := injective ⟨r.path, r.host, clients r member, rfl⟩ ⟨path, host, client, rfl⟩ key
      exact separable r.path r.host path host (clients r member) client joined
    rw [decisions_eq (apart left leftClients), decisions_eq (apart right rightClients), same]

/-- Two addresses at one path do not limit each other. -/
theorem isolates_iff_two_addresses :
    Isolates (fun text => text.length.toUInt64)
      fun path host => path = "/api/v1/firmwares" ∧ (host = "10.0.0.1" ∨ host = "10.0.0.20") := by
  refine (isolates_iff _ _ ?_).mpr ?_
  · -- The two texts have different lengths.
    rintro _ ⟨_, _, ⟨rfl, rfl | rfl⟩, rfl⟩ _ ⟨_, _, ⟨rfl, rfl | rfl⟩, rfl⟩ same
    · rfl
    · exact absurd same (by decide)
    · exact absurd same (by decide)
    · rfl
  · -- With one path, the addresses are what differs in the joined texts.
    rintro path host other address ⟨rfl, first⟩ ⟨rfl, second⟩ joined
    exact ⟨rfl, (String.append_right_inj _).mp joined⟩

/-- A digit moves from the address to the path, and the requests of one client are counted for the other. -/
theorem isolates_fails :
    ¬ ∃ strHash : String → UInt64,
      decisions strHash "/api/v1/firmware/abc" "11.2.3.4" emptyCache [⟨"/api/v1/firmware/abc", "11.2.3.4", 1000, 1, 0⟩] =
        decisions strHash "/api/v1/firmware/abc" "11.2.3.4" emptyCache
          [⟨"/api/v1/firmware/abc1", "1.2.3.4", 1000, 1, 0⟩, ⟨"/api/v1/firmware/abc", "11.2.3.4", 1000, 1, 0⟩] := by
  -- Path and address join to one text in two ways.
  rintro ⟨strHash, same⟩
  obtain ⟨alone, shared⟩ := decisions_of_joined strHash "/api/v1/firmware/abc" "11.2.3.4"
    "/api/v1/firmware/abc1" "1.2.3.4" (by decide) (by decide)
  rw [alone, shared] at same
  exact absurd same (by decide)

end Fms.RateLimiter
