import Mathlib.Data.List.TakeWhile
import Fms.Poco.Text
import Fms.Relation.Writes

/-! How the path of a request is matched against the endpoints of a handler. -/

namespace Fms

namespace RESTAPIHandler

open Std

/-- `BindingMap`. -/
abbrev BindingMap := ExtTreeMap String String

/-- `ParamItems[i][0] == '{'`; the first character of an empty text is the zero that ends it. -/
def isPlaceholder (param : String) : Bool := param.toList.head? = some '\x7b'

/-- `Poco::toLower(ParamItems[i].substr(1, size - 2))`; for a lone brace the unsigned difference wraps. -/
def paramName (param : String) : String :=
  toLower (String.ofList ((param.toList.drop 1).take (param.toList.length - 2)))

/-- The loop of `ParseBindings` over the segments of a path, each with that of an endpoint. -/
def matchSegments : List (String × String) → BindingMap → Bool × BindingMap
  | [], bindings => (true, bindings)
  | (pathItem, paramItem) :: rest, bindings =>
    if pathItem ≠ paramItem then
      if isPlaceholder paramItem then matchSegments rest (bindings.insert (paramName paramItem) pathItem)
      else (false, bindings)
    else matchSegments rest bindings

/-- The loop of `ParseBindings` over the endpoints. -/
def tryEndPoints (pathItems : List String) : List String → BindingMap → Bool × BindingMap
  | [], bindings => (false, bindings)
  | endPoint :: rest, bindings =>
    let paramItems := stringTokens '/' endPoint
    if pathItems.length ≠ paramItems.length then tryEndPoints pathItems rest bindings
    else
      match matchSegments (pathItems.zip paramItems) bindings with
      | (true, bindings) => (true, bindings)
      -- What the failed attempt has bound stays in the map.
      | (false, bindings) => tryEndPoints pathItems rest bindings

/-- `ParseBindings`; the map it is given is cleared first. -/
def parseBindings (request : String) (endPoints : List String) : Bool × BindingMap :=
  tryEndPoints (stringTokens '/' request) endPoints ∅

/-- The segments of a path, each with that of an endpoint. -/
def segments (request endPoint : String) : List (String × String) :=
  (stringTokens '/' request).zip (stringTokens '/' endPoint)

/-- An endpoint has as many segments as a path. -/
def SameLength (request endPoint : String) : Prop :=
  (stringTokens '/' request).length = (stringTokens '/' endPoint).length

instance (request endPoint : String) : Decidable (SameLength request endPoint) :=
  inferInstanceAs (Decidable (_ = _))

/-- A segment of a path equals that of an endpoint, or that is a placeholder. -/
def fitsSegment (segment : String × String) : Bool := isPlaceholder segment.2 || segment.1 = segment.2

/-- An endpoint matches a path: they are equal wherever the endpoint has no placeholder. -/
def Matching (request endPoint : String) : Prop :=
  SameLength request endPoint ∧ ∀ segment ∈ segments request endPoint, fitsSegment segment = true

instance (request endPoint : String) : Decidable (Matching request endPoint) :=
  inferInstanceAs (Decidable (_ ∧ _))

/-- The names of the placeholders and their segments of the path. -/
def placeholders (segments : List (String × String)) : List (String × String) :=
  (segments.filter fun segment => isPlaceholder segment.2).map fun segment => (paramName segment.2, segment.1)

/-- The placeholders before the first mismatch that differ from their segments of the path. -/
def differing (segments : List (String × String)) : List (String × String) :=
  placeholders ((segments.takeWhile fitsSegment).filter fun segment => segment.1 ≠ segment.2)

/-- The placeholders that endpoints bind before they turn out not to match. -/
def leftovers (request : String) (endPoints : List String) : List (String × String) :=
  (endPoints.filter fun endPoint => SameLength request endPoint).flatMap fun endPoint =>
    differing (segments request endPoint)

/-- An endpoint is the first that matches, behind some that do not. -/
def FirstMatch (request : String) (front : List String) (endPoint : String) : Prop :=
  Matching request endPoint ∧ ∀ other ∈ front, ¬ Matching request other

/-- A path is routed: the bindings are those of the first endpoint that matches, and none without one. -/
def RoutesExactly (request : String) (endPoints : List String) : Prop :=
  ((parseBindings request endPoints).1 = true ↔ ∃ endPoint ∈ endPoints, Matching request endPoint) ∧
    ((parseBindings request endPoints).1 = false → (parseBindings request endPoints).2 = ∅) ∧
    ∀ front endPoint back, endPoints = front ++ endPoint :: back → FirstMatch request front endPoint →
      (parseBindings request endPoints).2 = Writes.apply ∅ (placeholders (segments request endPoint))

/--
No binding of a failed attempt is left over: without a match there is none, and with one each has the name of a
placeholder of the match. Where the last placeholder of a name is spelled in the path itself, so that it is not
bound, the name was last bound to that very text.
-/
def NothingLeft (request : String) (endPoints : List String) : Prop :=
  ((∀ endPoint ∈ endPoints, ¬ Matching request endPoint) → leftovers request endPoints = []) ∧
    ∀ front endPoint back, endPoints = front ++ endPoint :: back → FirstMatch request front endPoint →
      (∀ name ∈ Writes.keys (leftovers request front),
        name ∈ Writes.keys (placeholders (segments request endPoint))) ∧
      ∀ before text after, segments request endPoint = before ++ (text, text) :: after →
        isPlaceholder text = true → paramName text ∉ Writes.keys (placeholders after) →
        Writes.last (paramName text) (leftovers request front ++ differing before) = some text

/-- The loop over the segments binds the differing placeholders, up to the first mismatch. -/
theorem matchSegments_eq (segments : List (String × String)) (bindings : BindingMap) :
    matchSegments segments bindings =
      (segments.all fitsSegment, Writes.apply bindings (differing segments)) := by
  -- By the segments, as the loop goes over them.
  induction segments generalizing bindings with
  | nil => rfl
  | cons segment rest ih =>
    obtain ⟨pathItem, paramItem⟩ := segment
    by_cases same : pathItem = paramItem
    · simp [matchSegments, same, ih, fitsSegment, differing]
    · by_cases placeholder : isPlaceholder paramItem = true
      · simp [matchSegments, same, placeholder, ih, fitsSegment, differing, placeholders, Writes.apply]
      · simp [matchSegments, same, placeholder, fitsSegment, differing, placeholders, Writes.apply]

/-- An attempt at an endpoint of the same length ends in a match, or goes on with what it has bound. -/
theorem tryEndPoints_cons (request endPoint : String) (rest : List String) (bindings : BindingMap) :
    tryEndPoints (stringTokens '/' request) (endPoint :: rest) bindings =
      if SameLength request endPoint then
        if (segments request endPoint).all fitsSegment then
          (true, Writes.apply bindings (differing (segments request endPoint)))
        else
          tryEndPoints (stringTokens '/' request) rest
            (Writes.apply bindings (differing (segments request endPoint)))
      else tryEndPoints (stringTokens '/' request) rest bindings := by
  -- The lengths are compared first, and then the segments.
  by_cases same : SameLength request endPoint
  · have lengths : (stringTokens '/' request).length = (stringTokens '/' endPoint).length := same
    have loop := matchSegments_eq (segments request endPoint) bindings
    rw [segments] at loop
    rw [tryEndPoints, if_neg (not_not_intro lengths), loop, if_pos same, segments]
    cases List.all _ fitsSegment <;> rfl
  · have lengths : (stringTokens '/' request).length ≠ (stringTokens '/' endPoint).length := same
    rw [tryEndPoints, if_pos lengths, if_neg same]

/-- No endpoints leave no bindings. -/
@[simp] theorem leftovers_nil (request : String) : leftovers request [] = [] := rfl

/-- The attempt at an endpoint of another length binds nothing, and neither does one more endpoint without it. -/
theorem leftovers_cons (request endPoint : String) (rest : List String) :
    leftovers request (endPoint :: rest) =
      (if SameLength request endPoint then differing (segments request endPoint) else []) ++
        leftovers request rest := by
  -- The filter keeps an endpoint exactly if it has the length.
  by_cases same : SameLength request endPoint
  · simp [leftovers, same]
  · simp [leftovers, same]

/-- An endpoint that does not match leaves the bindings of its attempt to the endpoints behind it. -/
theorem tryEndPoints_other {request endPoint : String} (other : ¬ Matching request endPoint)
    (rest : List String) (bindings : BindingMap) :
    tryEndPoints (stringTokens '/' request) (endPoint :: rest) bindings =
      tryEndPoints (stringTokens '/' request) rest
        (Writes.apply bindings (leftovers request [endPoint])) := by
  -- It has another length, or some segment is neither equal nor a placeholder.
  rw [leftovers_cons, tryEndPoints_cons, leftovers_nil, List.append_nil]
  by_cases same : SameLength request endPoint
  · have mismatch : ¬ (segments request endPoint).all fitsSegment = true :=
      fun all => other ⟨same, List.all_eq_true.mp all⟩
    rw [if_pos same, if_neg mismatch, if_pos same]
  · rw [if_neg same, if_neg same]
    rfl

/-- Without a match, every attempt leaves its bindings. -/
theorem tryEndPoints_none {request : String} {endPoints : List String}
    (none : ∀ endPoint ∈ endPoints, ¬ Matching request endPoint) (bindings : BindingMap) :
    tryEndPoints (stringTokens '/' request) endPoints bindings =
      (false, Writes.apply bindings (leftovers request endPoints)) := by
  -- By the endpoints, in the order they are tried.
  induction endPoints generalizing bindings with
  | nil => rfl
  | cons endPoint rest ih =>
    rw [tryEndPoints_other (none endPoint List.mem_cons_self),
      ih fun other member => none other (List.mem_cons_of_mem endPoint member), ← Writes.apply_append]
    simp [leftovers_cons request endPoint]

/-- The first match adds its differing placeholders to what the attempts before it have left. -/
theorem tryEndPoints_match {request endPoint : String} {front : List String}
    (first : FirstMatch request front endPoint) (back : List String) (bindings : BindingMap) :
    tryEndPoints (stringTokens '/' request) (front ++ endPoint :: back) bindings =
      (true, Writes.apply bindings
        (leftovers request front ++ differing (segments request endPoint))) := by
  -- By the endpoints in front of the match, none of which matches.
  obtain ⟨⟨same, all⟩, none⟩ := first
  induction front generalizing bindings with
  | nil => rw [List.nil_append, tryEndPoints_cons, if_pos same, if_pos (List.all_eq_true.mpr all), leftovers_nil,
      List.nil_append]
  | cons other rest ih =>
    rw [List.cons_append, tryEndPoints_other (none other List.mem_cons_self),
      ih _ fun next member => none next (List.mem_cons_of_mem other member), ← Writes.apply_append]
    simp [leftovers_cons request other]

/-- If some endpoint matches, one is the first. -/
theorem exists_firstMatch {request : String} {endPoints : List String}
    (some : ∃ endPoint ∈ endPoints, Matching request endPoint) :
    ∃ front endPoint back, endPoints = front ++ endPoint :: back ∧ FirstMatch request front endPoint := by
  -- By the endpoints, in the order they are tried.
  induction endPoints with
  | nil => simp at some
  | cons endPoint rest ih =>
    by_cases matching : Matching request endPoint
    · exact ⟨[], endPoint, rest, rfl, matching, by simp⟩
    · -- The first match is one of the endpoints behind this one.
      have later : ∃ endPoint ∈ rest, Matching request endPoint := by
        simpa [matching] using some
      obtain ⟨front, found, back, rfl, first, others⟩ := ih later
      exact ⟨endPoint :: front, found, back, rfl, first, by simpa [matching] using others⟩

/-- On a match, the placeholders that are bound are those that differ from their segments. -/
theorem differing_of_matching {parts : List (String × String)}
    (all : ∀ segment ∈ parts, fitsSegment segment = true) :
    differing parts = placeholders (parts.filter fun segment => segment.1 ≠ segment.2) := by
  have whole : parts.takeWhile fitsSegment = parts := List.takeWhile_eq_self_iff.mpr all
  rw [differing, whole]

/-- The placeholders of joined lists of segments. -/
theorem placeholders_append (front back : List (String × String)) :
    placeholders (front ++ back) = placeholders front ++ placeholders back := by
  simp [placeholders]

/-- A bound name is the name of a placeholder. -/
theorem mem_keys_of_differing {parts : List (String × String)}
    (all : ∀ segment ∈ parts, fitsSegment segment = true) {name : String}
    (bound : name ∈ Writes.keys (differing parts)) : name ∈ Writes.keys (placeholders parts) := by
  -- The bound placeholders are some of all placeholders.
  rw [differing_of_matching all] at bound
  simp only [Writes.keys, placeholders, List.mem_map, List.mem_filter] at bound ⊢
  obtain ⟨write, ⟨segment, ⟨⟨member, -⟩, placeholder⟩, rfl⟩, rfl⟩ := bound
  exact ⟨_, ⟨segment, ⟨member, placeholder⟩, rfl⟩, rfl⟩

/-- A name of a placeholder has a last placeholder, behind which no other has the name. -/
theorem exists_last_placeholder {parts : List (String × String)} {name : String}
    (named : name ∈ Writes.keys (placeholders parts)) :
    ∃ before item param after, parts = before ++ (item, param) :: after ∧ isPlaceholder param = true ∧
      paramName param = name ∧ name ∉ Writes.keys (placeholders after) := by
  -- By the segments; a later placeholder of the name comes before an earlier one.
  induction parts with
  | nil => simp [Writes.keys, placeholders] at named
  | cons segment rest ih =>
    obtain ⟨item, param⟩ := segment
    by_cases later : name ∈ Writes.keys (placeholders rest)
    · obtain ⟨before, item', param', after, rfl, found⟩ := ih later
      exact ⟨(item, param) :: before, item', param', after, rfl, found⟩
    · -- The name is not among the others, so it is that of the first segment.
      have own : isPlaceholder param = true ∧ paramName param = name := by
        rw [← List.singleton_append, placeholders_append, Writes.keys, List.map_append, List.mem_append] at named
        have first := named.resolve_right later
        by_cases placeholder : isPlaceholder param = true
        · simp only [placeholders, List.filter_cons, placeholder, if_true, List.filter_nil, List.map_cons,
            List.map_nil, List.mem_singleton] at first
          exact ⟨placeholder, first.symm⟩
        · simp [placeholders, placeholder] at first
      exact ⟨[], item, param, rest, rfl, own.1, own.2, later⟩

/-- The segments of a match fit, up to any of them and behind it. -/
theorem fitsSegment_split {parts before after : List (String × String)} {segment : String × String}
    (split : parts = before ++ segment :: after) (all : ∀ segment ∈ parts, fitsSegment segment = true) :
    (∀ segment ∈ before, fitsSegment segment = true) ∧ ∀ segment ∈ after, fitsSegment segment = true :=
  ⟨fun part member => all part (by simp [split, member]), fun part member => all part (by simp [split, member])⟩

/-- What a match binds, cut at one of its placeholders. -/
theorem differing_split {parts before after : List (String × String)} {item param : String}
    (split : parts = before ++ (item, param) :: after) (all : ∀ segment ∈ parts, fitsSegment segment = true)
    (placeholder : isPlaceholder param = true) :
    differing parts =
      differing before ++ (if item = param then [] else [(paramName param, item)]) ++ differing after := by
  obtain ⟨front, back⟩ := fitsSegment_split split all
  rw [differing_of_matching all, differing_of_matching front, differing_of_matching back, split,
    List.filter_append, placeholders_append, List.append_assoc]
  -- The placeholder itself is bound if it differs from its segment.
  by_cases same : item = param
  · simp [same]
  · simp [same, placeholders, placeholder]

/-- The bindings a match ends with are those of its placeholders exactly where nothing interferes. -/
theorem bindings_iff {parts : List (String × String)}
    (all : ∀ segment ∈ parts, fitsSegment segment = true) (left : List (String × String)) :
    Writes.apply (∅ : BindingMap) (left ++ differing parts) = Writes.apply ∅ (placeholders parts) ↔
      (∀ name ∈ Writes.keys left, name ∈ Writes.keys (placeholders parts)) ∧
        ∀ before text after, parts = before ++ (text, text) :: after → isPlaceholder text = true →
          paramName text ∉ Writes.keys (placeholders after) →
          Writes.last (paramName text) (left ++ differing before) = some text := by
  -- Two maps are equal if every name has the same value in both.
  rw [Writes.apply_empty_inj]
  refine ⟨fun same => ⟨fun name named => ?_, fun before text after split placeholder final => ?_⟩,
    fun ⟨names, texts⟩ name => ?_⟩
  · -- A name that is left over has a value, so that a placeholder has given it one.
    by_contra absent
    have none := (same name).trans (Writes.last_eq_none.mpr absent)
    rw [Writes.last_eq_none] at none
    exact none (by simp [Writes.keys] at named ⊢; exact Or.inl named)
  · have bound : paramName text ∉ Writes.keys (differing after) :=
      fun member => final (mem_keys_of_differing (fitsSegment_split split all).2 member)
    have value := same (paramName text)
    rw [differing_split split all placeholder, if_pos rfl, List.append_nil, ← List.append_assoc,
      Writes.last_append_of_notMem bound] at value
    rw [value, split, placeholders_append]
    have first : placeholders ((text, text) :: after) = (paramName text, text) :: placeholders after := by
      simp [placeholders, placeholder]
    rw [first, Writes.last_append_cons final]
  · by_cases named : name ∈ Writes.keys (placeholders parts)
    · -- The last placeholder of the name decides on both sides.
      obtain ⟨before, item, param, after, split, placeholder, rfl, final⟩ := exists_last_placeholder named
      have bound : paramName param ∉ Writes.keys (differing after) :=
        fun member => final (mem_keys_of_differing (fitsSegment_split split all).2 member)
      have first : placeholders ((item, param) :: after) = (paramName param, item) :: placeholders after := by
        simp [placeholders, placeholder]
      have expected : Writes.last (paramName param) (placeholders parts) = some item := by
        rw [split, placeholders_append, first, Writes.last_append_cons final]
      rw [expected, differing_split split all placeholder]
      by_cases same : item = param
      · subst same
        rw [if_pos rfl, List.append_nil, ← List.append_assoc, Writes.last_append_of_notMem bound]
        exact texts before item after split placeholder final
      · rw [if_neg same, ← List.append_assoc, Writes.last_append_of_notMem bound, ← List.append_assoc]
        exact Writes.last_append_cons (by simp [Writes.keys])
    · -- Neither the attempts nor the match have bound a name that no placeholder has.
      have absent : name ∉ Writes.keys (left ++ differing parts) := by
        intro member
        rw [Writes.keys, List.map_append, List.mem_append] at member
        rcases member with earlier | own
        · exact named (names name earlier)
        · exact named (mem_keys_of_differing all own)
      rw [Writes.last_eq_none.mpr absent, Writes.last_eq_none.mpr named]

/-- A path is routed as its endpoints say exactly where no failed attempt leaves a binding. -/
theorem routesExactly_iff (request : String) (endPoints : List String) :
    RoutesExactly request endPoints ↔ NothingLeft request endPoints := by
  -- The loop ends at the first match, or there is none and it tries all endpoints.
  by_cases some : ∃ endPoint ∈ endPoints, Matching request endPoint
  · -- The loop stops at the first match, whose bindings are compared.
    have stops : ∀ front endPoint back, endPoints = front ++ endPoint :: back →
        FirstMatch request front endPoint →
        parseBindings request endPoints = (true, Writes.apply ∅
          (leftovers request front ++ differing (segments request endPoint))) := by
      intro front endPoint back split first
      rw [parseBindings, split, tryEndPoints_match first]
    obtain ⟨front, endPoint, back, split, first⟩ := exists_firstMatch some
    have matched : (parseBindings request endPoints).1 = true := by
      rw [stops front endPoint back split first]
    refine ⟨fun ⟨_, _, exact_⟩ => ⟨fun none => ?_, fun front endPoint back split first => ?_⟩,
      fun ⟨_, clean⟩ => ⟨by simp [matched, some], by simp [matched], fun front endPoint back split first => ?_⟩⟩
    · obtain ⟨endPoint, member, matching⟩ := some
      exact absurd matching (none endPoint member)
    · have compared := exact_ front endPoint back split first
      rw [stops front endPoint back split first] at compared
      exact (bindings_iff first.1.2 _).mp compared
    · rw [stops front endPoint back split first]
      exact (bindings_iff first.1.2 _).mpr (clean front endPoint back split first)
  · have none : ∀ endPoint ∈ endPoints, ¬ Matching request endPoint := by simpa using some
    have result : parseBindings request endPoints = (false, Writes.apply ∅ (leftovers request endPoints)) :=
      tryEndPoints_none none ∅
    have excluded : ∀ front endPoint back, endPoints = front ++ endPoint :: back →
        ¬ FirstMatch request front endPoint := by
      rintro front endPoint back rfl first
      exact none endPoint (by simp) first.1
    refine ⟨fun ⟨_, empty, _⟩ => ⟨fun _ => ?_, fun front endPoint back split first => ?_⟩,
      fun ⟨clean, _⟩ => ⟨by simp [result, some], fun _ => ?_, fun front endPoint back split first => ?_⟩⟩
    · have nothing := empty (by rw [result])
      rw [result] at nothing
      exact Writes.apply_empty_eq_empty.mp nothing
    · exact absurd first (excluded front endPoint back split)
    · rw [result, clean none]
      rfl
    · exact absurd first (excluded front endPoint back split)

/-- An endpoint that fails at its last segment leaves its serial number to the endpoint that matches. -/
theorem not_routesExactly_leftover :
    ¬ RoutesExactly "/api/v1/device/24f5/log"
      ["/api/v1/device/\x7bserial\x7d/status", "/api/v1/device/\x7bid\x7d/\x7bcommand\x7d"] := by
  intro exact_
  have first : FirstMatch "/api/v1/device/24f5/log" ["/api/v1/device/\x7bserial\x7d/status"]
      "/api/v1/device/\x7bid\x7d/\x7bcommand\x7d" :=
    ⟨by decide, by
      intro other member
      rw [List.mem_singleton] at member
      rw [member]
      decide⟩
  -- The name `serial` is bound, though the match has no such placeholder.
  have bindings := exact_.2.2 _ _ [] rfl first
  rw [parseBindings, ← List.singleton_append, tryEndPoints_match first, Writes.apply_empty_inj] at bindings
  exact absurd (bindings "serial") (by decide)

end RESTAPIHandler

end Fms
