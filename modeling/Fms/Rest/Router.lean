import Mathlib.Data.List.Forall2
import Fms.Framework.RequestHandler
import Fms.Framework.Routing

/-! `RESTAPI_Router`: the class of handlers that a path leads to, on either server. -/

namespace Fms

namespace RESTAPI

open RESTAPIHandler

/-- The classes of handlers. -/
inductive Handler where
  | firmwares
  | systemConfiguration
  | firmware
  | systemCommand
  | firmwareAge
  | connectedDevices
  | connectedDevice
  | history
  | deviceReport
  | deviceInformation
  | webSocketServer
  /-- What a path is handled by that leads to no other class. -/
  | unknownRequest
  deriving DecidableEq, Repr

namespace Handler

/-- `PathName`; the class for unknown requests has none. -/
def pathName : Handler → List String
  | firmwares => ["/api/v1/firmwares"]
  | systemConfiguration => ["/api/v1/systemConfiguration"]
  | firmware => ["/api/v1/firmware/\x7bid\x7d"]
  | systemCommand => ["/api/v1/system"]
  | firmwareAge => ["/api/v1/firmwareAge"]
  | connectedDevices => ["/api/v1/connectedDevices"]
  | connectedDevice => ["/api/v1/connectedDevice/\x7bserialNumber\x7d"]
  | history => ["/api/v1/revisionHistory/\x7bserialNumber\x7d"]
  | deviceReport => ["/api/v1/deviceReport"]
  | deviceInformation => ["/api/v1/deviceInformation/\x7bserialNumber\x7d"]
  | webSocketServer => ["/api/v1/ws"]
  | unknownRequest => []

/-- The methods that the class is constructed with. -/
def methods : Handler → List String
  | firmwares => ["GET", "PUT", "OPTIONS"]
  | systemConfiguration => ["PUT", "GET", "DELETE", "OPTIONS"]
  | firmware => ["GET", "POST", "PUT", "DELETE", "OPTIONS"]
  | systemCommand => ["POST", "GET", "OPTIONS"]
  | history => ["GET", "DELETE", "OPTIONS"]
  | firmwareAge | connectedDevices | connectedDevice | deviceReport | deviceInformation | webSocketServer =>
    ["GET", "OPTIONS"]
  | unknownRequest => []

/-- What the class is constructed with, on the internal server or on the external one. -/
def profile (T : Handler) (internal : Bool) : Profile where
  methods := T.methods
  internal := internal
  alwaysAuthorize := T ≠ webSocketServer

/-- The last part of the fixed segments of the path. -/
def name : Handler → String
  | firmwares => "firmwares"
  | systemConfiguration => "systemConfiguration"
  | firmware => "firmware"
  | systemCommand => "system"
  | firmwareAge => "firmwareAge"
  | connectedDevices => "connectedDevices"
  | connectedDevice => "connectedDevice"
  | history => "revisionHistory"
  | deviceReport => "deviceReport"
  | deviceInformation => "deviceInformation"
  | webSocketServer => "ws"
  | unknownRequest => ""

/-- The part of the path that the methods of the class ask for. -/
def binding : Handler → Option String
  | firmware => some "id"
  | connectedDevice | history | deviceInformation => some "serialNumber"
  | _ => none

end Handler

/-- The classes of `RESTAPI_IntRouter`, and of `RESTAPI_ExtRouter`, which has one more. -/
def served (internal : Bool) : List Handler :=
  [.firmwares, .systemConfiguration, .firmware, .systemCommand, .firmwareAge, .connectedDevices, .connectedDevice,
    .history, .deviceReport, .deviceInformation] ++ if internal then [] else [.webSocketServer]

/-- `RESTAPI_Router` and `RESTAPI_Router_I`: every attempt clears the map, and fills it anew. -/
def router (path : String) : List Handler → BindingMap → Handler × BindingMap
  | [], bindings => (.unknownRequest, bindings)
  | T :: rest, _ =>
    match parseBindings path T.pathName with
    | (true, bindings) => (T, bindings)
    | (false, bindings) => router path rest bindings

/-- `GetBinding`. -/
def getBinding (bindings : BindingMap) (name default_ : String) : String :=
  (bindings[toLower name]?).getD default_

/-- The placeholder of a name. -/
def placeholder (name : String) : String := "\x7b" ++ name ++ "\x7d"

/-- A path leads to a class: it is that of the class, with some text where the class has a placeholder. -/
def LeadsTo (path : String) (T : Handler) (argument : Option String) : Prop :=
  argument.isSome = T.binding.isSome ∧ stringTokens '/' path = ["", "api", "v1", T.name] ++ argument.toList

/-- An endpoint matches a path segment by segment. -/
theorem matching_iff {request endPoint : String} :
    Matching request endPoint ↔
      List.Forall₂ (fun item param => isPlaceholder param = true ∨ item = param) (stringTokens '/' request)
        (stringTokens '/' endPoint) := by
  rw [List.forall₂_iff_zip]
  refine and_congr_right fun _ => ⟨fun all item param member => ?_, fun all segment member => ?_⟩
  · simpa [fitsSegment] using all (item, param) member
  · simpa [fitsSegment] using all member

/-- The segments of the path of a class. -/
theorem tokens_pathName {T : Handler} (known : T ≠ .unknownRequest) :
    ∃ endPoint, T.pathName = [endPoint] ∧
      stringTokens '/' endPoint = ["", "api", "v1", T.name] ++ (T.binding.map placeholder).toList := by
  cases T with
  | unknownRequest => exact absurd rfl known
  | _ => exact ⟨_, rfl, by decide +kernel⟩

/-- The fixed segments of an endpoint are those that a path starts with. -/
theorem forall₂_fixed {fixed items rest : List String} (noPlaceholder : ∀ item ∈ fixed, isPlaceholder item = false) :
    List.Forall₂ (fun item param => isPlaceholder param = true ∨ item = param) items (fixed ++ rest) ↔
      ∃ back, items = fixed ++ back ∧
        List.Forall₂ (fun item param => isPlaceholder param = true ∨ item = param) back rest := by
  induction fixed generalizing items with
  | nil => simp
  | cons first fixed ih =>
    obtain ⟨plain, others⟩ := List.forall_mem_cons.mp noPlaceholder
    rw [List.cons_append, List.forall₂_cons_right_iff]
    simp only [plain, Bool.false_eq_true, false_or, ih others]
    -- The first segment is the one that is fixed, and the rest starts with the others.
    constructor
    · rintro ⟨_, _, rfl, ⟨back, rfl, fit⟩, rfl⟩
      exact ⟨back, rfl, fit⟩
    · rintro ⟨back, rfl, fit⟩
      exact ⟨first, fixed ++ back, rfl, ⟨back, rfl, fit⟩, rfl⟩

/-- A placeholder is one. -/
theorem isPlaceholder_placeholder (name : String) : isPlaceholder (placeholder name) = true := by
  simp [isPlaceholder, placeholder]

/-- The name of a placeholder is bound in lower case. -/
theorem paramName_placeholder (name : String) : paramName (placeholder name) = toLower name := by
  have inner : ((placeholder name).toList.drop 1).take ((placeholder name).toList.length - 2) = name.toList := by
    simp [placeholder]
  rw [paramName, inner, String.ofList_toList]

/-- No fixed segment of a class is a placeholder. -/
theorem fixed_plain (T : Handler) : ∀ item ∈ ["", "api", "v1", T.name], isPlaceholder item = false := by
  cases T <;> decide +kernel

/-- The endpoint of a class matches the paths that lead to it. -/
theorem matching_endPoint {path endPoint : String} {T : Handler}
    (tokens : stringTokens '/' endPoint = ["", "api", "v1", T.name] ++ (T.binding.map placeholder).toList) :
    Matching path endPoint ↔ ∃ argument, LeadsTo path T argument := by
  rw [matching_iff, tokens, forall₂_fixed (fixed_plain T)]
  cases bound : T.binding with
  | none =>
    -- Nothing may follow the fixed segments.
    simp only [LeadsTo, bound, Option.map_none, Option.toList_none, List.forall₂_nil_right_iff, Option.isSome_none,
      Option.isSome_eq_false_iff, Option.isNone_iff_eq_none]
    constructor
    · rintro ⟨_, same, rfl⟩
      exact ⟨none, rfl, same⟩
    · rintro ⟨_, rfl, same⟩
      exact ⟨[], same, rfl⟩
  | some name =>
    -- One segment follows, whatever it is.
    simp only [LeadsTo, bound, Option.map_some, Option.toList_some, List.forall₂_cons_right_iff,
      List.forall₂_nil_right_iff, isPlaceholder_placeholder, true_or, true_and, Option.isSome_some]
    constructor
    · rintro ⟨_, same, value, _, rfl, rfl⟩
      exact ⟨some value, rfl, same⟩
    · rintro ⟨argument, given, same⟩
      obtain ⟨value, rfl⟩ := Option.isSome_iff_exists.mp given
      exact ⟨[value], same, value, [], rfl, rfl⟩

/-- No two classes are reached under one name. -/
theorem name_injective : ∀ T T' : Handler, T.name = T'.name → T = T' := by
  intro T T' same
  cases T <;> cases T' <;> first | rfl | exact absurd same (by decide)

/-- A path leads to one class, with one argument. -/
theorem LeadsTo.unique {path : String} {T T' : Handler} {argument argument' : Option String}
    (leads : LeadsTo path T argument) (other : LeadsTo path T' argument') : T = T' ∧ argument = argument' := by
  have same := leads.2.symm.trans other.2
  simp only [List.cons_append, List.nil_append, List.cons.injEq, true_and] at same
  exact ⟨name_injective T T' same.1, by
    cases argument <;> cases argument' <;> simp_all⟩

/-- What a path binds for the class it leads to: the argument, unless that is the placeholder itself. -/
theorem parseBindings_leads {path : String} {T : Handler} {argument : Option String} (known : T ≠ .unknownRequest)
    (leads : LeadsTo path T argument) :
    (parseBindings path T.pathName).1 = true ∧ ∀ name ∈ T.binding, ∀ value ∈ argument,
      getBinding (parseBindings path T.pathName).2 name "" = if value = placeholder name then "" else value := by
  obtain ⟨endPoint, named, tokens⟩ := tokens_pathName known
  have matching := (matching_endPoint tokens).mpr ⟨argument, leads⟩
  have bound : parseBindings path T.pathName = (true, Writes.apply ∅ (differing (segments path endPoint))) := by
    rw [named, parseBindings]
    exact @tryEndPoints_match path endPoint [] ⟨matching, fun _ inside => absurd inside List.not_mem_nil⟩ [] ∅
  rw [bound]
  refine ⟨rfl, fun name asked value given => ?_⟩
  obtain rfl : argument = some value := given
  rw [show T.binding = some name from asked] at tokens
  -- Of all segments only the last one may differ from that of the endpoint.
  have parts : segments path endPoint =
      [("", ""), ("api", "api"), ("v1", "v1"), (T.name, T.name), (value, placeholder name)] := by
    rw [segments, leads.2, tokens]
    rfl
  have last : differing (segments path endPoint) =
      if value = placeholder name then [] else [(toLower name, value)] := by
    rw [differing_of_matching matching.2, parts]
    by_cases same : value = placeholder name
    · simp [same, placeholders]
    · simp [same, placeholders, isPlaceholder_placeholder, paramName_placeholder]
  rw [last, getBinding, Writes.getElem?_apply]
  by_cases same : value = placeholder name
  · simp [same, Writes.last]
  · simp [same, Writes.last]

/-- A path that does not lead to a class does not match its endpoint. -/
theorem parseBindings_other {path : String} {T : Handler} (known : T ≠ .unknownRequest)
    (other : ∀ argument, ¬ LeadsTo path T argument) : (parseBindings path T.pathName).1 = false := by
  obtain ⟨endPoint, named, tokens⟩ := tokens_pathName known
  rw [named, parseBindings, tryEndPoints_none]
  intro candidate member
  rw [List.mem_singleton.mp member, matching_endPoint tokens]
  exact not_exists.mpr other

/-- The router finds the class that a path leads to, wherever it stands. -/
theorem router_leads {path : String} {T : Handler} {argument : Option String} (leads : LeadsTo path T argument)
    {classes : List Handler} (known : ∀ T ∈ classes, T ≠ .unknownRequest) (member : T ∈ classes)
    (bindings : BindingMap) : router path classes bindings = (T, (parseBindings path T.pathName).2) := by
  induction classes generalizing bindings with
  | nil => exact absurd member List.not_mem_nil
  | cons first rest ih =>
    obtain ⟨firstKnown, restKnown⟩ := List.forall_mem_cons.mp known
    unfold router
    by_cases here : T = first
    · -- The attempt succeeds, and the map is that of the attempt.
      subst here
      have found := (parseBindings_leads firstKnown leads).1
      generalize parseBindings path T.pathName = attempt at found ⊢
      obtain ⟨ok, bound⟩ := attempt
      subst found
      rfl
    · -- The path leads to one class only, so the attempt fails.
      have failed := parseBindings_other firstKnown fun argument' other => here (leads.unique other).1
      have later := ih restKnown ((List.mem_cons.mp member).resolve_left here)
      generalize parseBindings path first.pathName = attempt at failed ⊢
      obtain ⟨ok, bound⟩ := attempt
      subst failed
      exact later bound

/-- A path that leads to none of the classes ends at the class for unknown requests. -/
theorem router_unknown {path : String} {classes : List Handler} (known : ∀ T ∈ classes, T ≠ .unknownRequest)
    (none_ : ∀ T ∈ classes, ∀ argument, ¬ LeadsTo path T argument) (bindings : BindingMap) :
    (router path classes bindings).1 = .unknownRequest := by
  -- Every class fails in turn; what it has bound on the way does not matter.
  induction classes generalizing bindings with
  | nil => rfl
  | cons first rest ih =>
    obtain ⟨firstKnown, restKnown⟩ := List.forall_mem_cons.mp known
    obtain ⟨notFirst, notRest⟩ := List.forall_mem_cons.mp none_
    have failed := parseBindings_other firstKnown notFirst
    unfold router
    generalize parseBindings path first.pathName = attempt at failed ⊢
    obtain ⟨ok, bound⟩ := attempt
    subst failed
    exact ih restKnown notRest bound

/-- No server serves the class for unknown requests. -/
theorem served_known (internal : Bool) : ∀ T ∈ served internal, T ≠ .unknownRequest := by
  cases internal <;> decide

/--
Every path leads to at most one class, whatever order the classes stand in.

The methods of the class find the argument of the path under the name they ask for; nothing that another class has tried
to bind is left, and only an argument that is spelled like the placeholder is missed. The other paths end at the class
for unknown requests.
-/
theorem routed (internal : Bool) {classes : List Handler} (order : classes.Perm (served internal)) (path : String) :
    (∀ T ∈ served internal, ∀ argument, LeadsTo path T argument →
        (router path classes ∅).1 = T ∧ ∀ name ∈ T.binding, ∀ value ∈ argument,
          getBinding (router path classes ∅).2 name "" = if value = placeholder name then "" else value) ∧
      ((∀ T ∈ served internal, ∀ argument, ¬ LeadsTo path T argument) →
        (router path classes ∅).1 = .unknownRequest) := by
  have known : ∀ T ∈ classes, T ≠ .unknownRequest := fun T member => served_known internal T (order.mem_iff.mp member)
  constructor
  · intro T member argument leads
    rw [router_leads leads known (order.mem_iff.mpr member)]
    exact ⟨rfl, (parseBindings_leads (served_known internal T member) leads).2⟩
  · intro none_
    exact router_unknown known (fun T member => none_ T (order.mem_iff.mp member)) ∅

/-- The page of a device, with the classes in the order they are served in. -/
theorem routed_history :
    (router "/api/v1/revisionHistory/aabbccddeeff" (served false) ∅).1 = .history ∧
      getBinding (router "/api/v1/revisionHistory/aabbccddeeff" (served false) ∅).2 "serialNumber" "" =
        "aabbccddeeff" := by
  have leads : LeadsTo "/api/v1/revisionHistory/aabbccddeeff" .history (some "aabbccddeeff") :=
    ⟨rfl, by decide +kernel⟩
  obtain ⟨class_, bound⟩ := (routed false (List.Perm.refl _) _).1 .history (by decide) _ leads
  exact ⟨class_, (bound "serialNumber" rfl "aabbccddeeff" rfl).trans (if_neg (by decide +kernel))⟩

end RESTAPI

end Fms
