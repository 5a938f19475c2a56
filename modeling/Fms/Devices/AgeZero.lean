import Fms.Catalogue.Ages
import Fms.Devices.DeviceReport

/-! What an age of zero says of a firmware, and what its readers take it to say. -/

namespace Fms

namespace NewConnectionHandler

/-- What the handler logs about the firmware of a device that has connected. -/
inductive ConnectionAge where
  /-- The firmware is that much older than the latest one. -/
  | older (seconds : UInt64)
  /-- The device firmware is up to date. -/
  | upToDate
  /-- The firmware age cannot be determined. -/
  | undetermined
  deriving DecidableEq, Repr

/-- The branches of `run` that log the age computed for a connection. -/
def connectionAge : Option FirmwaresDB.FirmwareAgeDetails → ConnectionAge
  | some FA => if FA.age ≠ 0 then .older FA.age else .upToDate
  | none => .undetermined

end NewConnectionHandler

/-- The catalogue with its rows listed in another order; no query of it asks for one. -/
def Catalogue.relist (c : Catalogue) (order : List Firmware) : Catalogue :=
  { c with firmwares := c.firmwares.relist order }

namespace FirmwaresDB

/-- The catalogue has a row for a revision of a device type. -/
def Catalogued (c : Catalogue) (deviceType revision : String) : Prop :=
  ∃ row ∈ c.firmwares.rows, row.revision = revision ∧ row.deviceType = deviceType

/--
An age of zero means what its readers take it to mean.

Without the latest flag it is read as an unknown revision, and with the flag it goes along.
-/
structure ZeroMeans (type : DBType) (c : Catalogue) (deviceType revision : String)
    (details : FirmwareAgeDetails) : Prop where
  unknown : details.latest = false ∧ details.age = 0 ↔ ¬ Catalogued c deviceType revision
  latest : details.latest = true → details.age = 0
  /-- The device report counts a device among the unknown firmwares when there is no such row. -/
  counted : ∀ (report : DeviceReport) (D : DeviceConnectionInformation),
    D.deviceType = deviceType → D.revision = revision →
    ((DevicesDB.visit type c report D).unknownFirmwares =
        updateCountedMap report.unknownFirmwares revision 1 ↔
      ¬ Catalogued c deviceType revision)
  /-- The connection handler reports up to date for a latest or an unknown revision. -/
  upToDate : NewConnectionHandler.connectionAge (some details) = .upToDate →
    details.latest = true ∨ ¬ Catalogued c deviceType revision

/-- The stored firmware behind the newest entry of a device type. -/
def latestRow (c : Catalogue) (deviceType : String) : Option Firmware := do
  let newest ← c.latestFirmwareCache.findLatestFirmware deviceType
  getFirmware c newest.id

/-- The row that is looked up by revision, if there is one, is as old as the latest one. -/
def SameDate (type : DBType) (c : Catalogue) (deviceType revision : String) (latest : Firmware) : Prop :=
  ∀ found, getFirmwareByRevision type c revision deviceType = some found →
    found.imageDate = latest.imageDate

/--
The dates tell the latest revision, the other stored ones and the unknown ones apart.

The latest revision is stored with its date, and another one differs from it unless it is not stored.
-/
structure DatesApart (type : DBType) (c : Catalogue) (deviceType revision : String)
    (latest : Firmware) : Prop where
  own : revision = latest.revision →
    Catalogued c deviceType revision ∧ SameDate type c deviceType revision latest
  other : revision ≠ latest.revision →
    (SameDate type c deviceType revision latest ↔ ¬ Catalogued c deviceType revision)

/-- An operation that finds the rows listed in some order. -/
def listedStep (type : DBType) (c : Catalogue) (step : List Firmware × Operation) : Catalogue :=
  operate type (c.relist step.1) step.2

/-- Stored rows of a revision and a device type have the date of the latest row exactly when it is its revision. -/
def DatesTell (c : Catalogue) (deviceType revision : String) (latest : Firmware) : Prop :=
  ∀ row ∈ c.firmwares.rows, row.revision = revision → row.deviceType = deviceType →
    (row.imageDate = latest.imageDate ↔ revision = latest.revision)

/-- A new image shares its date with a stored one of its type exactly when it shares its revision. -/
def Distinguishes (c : Catalogue) : List Firmware × Operation → Prop
  | (_, .add _ F) => ∀ row ∈ c.firmwares.rows, row.deviceType = F.deviceType →
      (row.imageDate = F.imageDate ↔ row.revision = F.revision)
  | (_, .put ..) | (_, .delete _) | (_, .removeOld ..) | (_, .prune _) | (_, .restart) => True

/-- Rows of one device type share their dates exactly when they share their revisions. -/
def Distinguished (c : Catalogue) : Prop :=
  ∀ left ∈ seen c, ∀ right ∈ seen c, left.deviceType = right.deviceType →
    (left.timeStamp = right.timeStamp ↔ left.revision = right.revision)

variable {type : DBType} {c : Catalogue} {deviceType revision : String} {details : FirmwareAgeDetails}
  {latest : Firmware}

/-- Counting a device changes the map it is counted in. -/
theorem updateCountedMap_ne (M : CountedMap) (S : String) : updateCountedMap M S 1 ≠ M := by
  -- All counters together have grown by one.
  intro same
  have grown := Tally.total_add M S 1
  unfold updateCountedMap at same
  rw [same] at grown
  have one : (0 : UInt64) = 1 := by
    rw [← UInt64.add_right_inj (Tally.total M), UInt64.add_zero]
    exact grown
  exact absurd one (by decide)

/-- A device is counted as unknown exactly when its age is zero and its flag is not set. -/
theorem counted_iff (computed : computeFirmwareAge type c deviceType revision = some details)
    (report : DeviceReport) {D : DeviceConnectionInformation} (ofType : D.deviceType = deviceType)
    (onRevision : D.revision = revision) :
    (DevicesDB.visit type c report D).unknownFirmwares =
        updateCountedMap report.unknownFirmwares revision 1 ↔
      details.latest = false ∧ details.age = 0 := by
  subst ofType onRevision
  have standing : DevicesDB.standing type c D = .unknownFirmware ↔
      details.latest = false ∧ details.age = 0 := by
    rw [DevicesDB.standing, computed]
    cases flag : details.latest with
    | true => simp [flag]
    | false => by_cases none_ : details.age = 0 <;> simp [flag, none_]
  rw [← standing, DevicesDB.visit_eq]
  -- The map is written in that case only, and writing it shows.
  by_cases unknown : DevicesDB.standing type c D = .unknownFirmware
  · simp [unknown]
  · simp [unknown, (updateCountedMap_ne report.unknownFirmwares D.revision).symm]

/-- An age is computed against the stored firmware behind the newest entry of the type. -/
theorem latestRow_of_computed
    (computed : computeFirmwareAge type c deviceType revision = some details) :
    ∃ latest, latestRow c deviceType = some latest ∧ latest ∈ c.firmwares.rows ∧
      (details.latest = true ↔ revision = latest.revision) ∧
      (details.age = 0 ↔ SameDate type c deviceType revision latest) := by
  simp only [computeFirmwareAge, Option.bind_eq_bind, Option.pure_def, Option.bind_eq_some_iff,
    Option.some.injEq] at computed
  obtain ⟨newest, cached, latest, fetched, rfl⟩ := computed
  refine ⟨latest, by simp [latestRow, cached, fetched], (KeyedTable.lookup_eq_some.mp fetched).1,
    by simp, ?_⟩
  unfold SameDate
  cases found : getFirmwareByRevision type c revision deviceType with
  | none => simp
  | some row =>
    -- The difference of two dates is zero when they are equal.
    simp [UInt64.sub_eq_iff_eq_add, eq_comm]

/-- Zero means what it is read as exactly when the dates keep the three kinds of revisions apart. -/
theorem zeroMeans_iff (computed : computeFirmwareAge type c deviceType revision = some details)
    (behind : latestRow c deviceType = some latest) :
    ZeroMeans type c deviceType revision details ↔ DatesApart type c deviceType revision latest := by
  obtain ⟨row, same, _, flag, zero⟩ := latestRow_of_computed computed
  obtain rfl : row = latest := Option.some.inj (same.symm.trans behind)
  have unflagged : details.latest = false ↔ revision ≠ row.revision := by
    rw [← Bool.not_eq_true, flag]
  constructor
  · intro means
    -- The latest revision is no unknown one, so it is stored.
    refine ⟨fun own => ⟨?_, zero.mp (means.latest (flag.mpr own))⟩, fun other => ?_⟩
    · by_contra absent
      exact unflagged.mp (means.unknown.mpr absent).1 own
    · rw [← means.unknown, ← zero]
      exact ⟨fun none_ => ⟨unflagged.mpr other, none_⟩, And.right⟩
  · intro apart
    have unknown : details.latest = false ∧ details.age = 0 ↔ ¬ Catalogued c deviceType revision := by
      rw [unflagged, zero]
      constructor
      · rintro ⟨other, date⟩
        exact (apart.other other).mp date
      · intro absent
        have other : revision ≠ row.revision := fun own => absent (apart.own own).1
        exact ⟨other, (apart.other other).mpr absent⟩
    -- The two readers follow from the meaning of zero.
    refine ⟨unknown, fun set => zero.mpr (apart.own (flag.mp set)).2, ?_, ?_⟩
    · intro report D ofType onRevision
      rw [counted_iff computed report ofType onRevision, unknown]
    · intro logged
      have none_ : details.age = 0 := by
        by_contra older
        simp [NewConnectionHandler.connectionAge, older] at logged
      cases set : details.latest with
      | true => exact Or.inl rfl
      | false => exact Or.inr (unknown.mp ⟨set, none_⟩)

/-- For texts without quotes the dates are compared with those of the first row of the revision. -/
theorem datesApart_iff (dated : Dated c) (behind : latestRow c deviceType = some latest)
    (plainRevision : Sql.Plain type.dialect revision)
    (plainType : Sql.Plain type.dialect deviceType) :
    DatesApart type c deviceType revision latest ↔
      ∀ row, c.firmwares.rows.find? (fun row =>
          decide (row.revision = revision) && decide (row.deviceType = deviceType)) = some row →
        (row.imageDate = latest.imageDate ↔ revision = latest.revision) := by
  simp only [latestRow, Option.bind_eq_bind, Option.bind_eq_some_iff] at behind
  obtain ⟨newest, cached, fetched⟩ := behind
  obtain ⟨stored, named⟩ := KeyedTable.lookup_eq_some.mp fetched
  obtain ⟨ofType, _⟩ := dated.names deviceType newest cached (addition latest)
    (List.mem_map_of_mem stored) named
  have lookup := getFirmwareByRevision_eq plainRevision plainType c
  -- A row of the revision is found exactly when there is one.
  have present : Catalogued c deviceType revision ↔
      ∃ row, getFirmwareByRevision type c revision deviceType = some row := by
    rw [lookup, ← Option.isSome_iff_exists, List.find?_isSome]
    simp [Catalogued]
  rw [← lookup]
  constructor
  · intro apart row found
    constructor
    · intro date
      by_contra other
      have same : SameDate type c deviceType revision latest := by
        intro again twice
        obtain rfl : row = again := Option.some.inj (found.symm.trans twice)
        exact date
      exact (apart.other other).mp same (present.mpr ⟨row, found⟩)
    · intro own
      exact (apart.own own).2 row found
  · intro dates
    refine ⟨fun own => ⟨⟨latest, stored, own.symm, ofType⟩, fun row found => (dates row found).mpr own⟩,
      fun other => ⟨?_, ?_⟩⟩
    · intro same catalogued
      obtain ⟨row, found⟩ := present.mp catalogued
      exact other ((dates row found).mp (same row found))
    · intro absent row found
      exact absurd (present.mpr ⟨row, found⟩) absent

/-- What the cache would be told of the rows does not depend on their order. -/
theorem mem_seen_relist (c : Catalogue) (order : List Firmware) (a : LatestFirmwareCache.Addition) :
    a ∈ seen (c.relist order) ↔ a ∈ seen c :=
  ((c.firmwares.perm_relist order).map addition).mem_iff

/-- Another order of the rows keeps the entries in agreement with them. -/
theorem dated_relist (dated : Dated c) (order : List Firmware) : Dated (c.relist order) :=
  dated.mono fun a member => (mem_seen_relist c order a).mp member

/-- Another order of the rows brings in no ids. -/
theorem within_relist {ids : List String} (within : Within ids c) (order : List Firmware) :
    Within ids (c.relist order) := by
  intro id absent
  obtain ⟨rows, entries⟩ := within id absent
  exact ⟨fun a member => rows a ((mem_seen_relist c order a).mp member), entries⟩

/-- In a run whose ids are all new, the entries agree with the rows throughout, in whatever order they are listed. -/
theorem dated_listed {steps : List (List Firmware × Operation)} (fresh : FreshIds c (steps.map Prod.snd)) :
    ∀ reached ∈ Transition.states (listedStep type) (restart type c) steps, Dated reached := by
  refine dated_run (fun step => generated step.2) (fun c step dated unused => ?_)
    (fun ids c step within => ?_) (dated_restart type c) (within_restart type c) ?_
  · -- The operation comes after the rows have been listed.
    refine dated_operate (dated_relist dated step.1) fun id taken => ?_
    obtain ⟨rows, entries⟩ := unused id taken
    exact ⟨fun a member => rows a ((mem_seen_relist c step.1 a).mp member), entries⟩
  · exact within_operate (within_relist within step.1) step.2
  · rw [FreshIds, List.flatMap_map] at fresh
    exact fresh

/-- An operation that meets its condition keeps dates and revisions in step. -/
theorem distinguished_operate (before : Distinguished c) {step : List Firmware × Operation}
    (met : Distinguishes c step) : Distinguished (listedStep type c step) := by
  obtain ⟨order, op⟩ := step
  have listed : ∀ a, a ∈ seen (c.relist order) ↔ a ∈ seen c := mem_seen_relist c order
  -- Fewer rows, or the same ones, stay in step.
  have fewer (within : ∀ a ∈ seen (operate type (c.relist order) op), a ∈ seen (c.relist order)) :
      Distinguished (operate type (c.relist order) op) :=
    fun left inLeft right inRight =>
      before left ((listed left).mp (within left inLeft)) right ((listed right).mp (within right inRight))
  show Distinguished (operate type (c.relist order) op)
  cases op with
  | add ctx F =>
    have old (a : LatestFirmwareCache.Addition) (member : a ∈ seen c) (alike : a.deviceType = F.deviceType) :
        a.timeStamp = F.imageDate ↔ a.revision = F.revision := by
      obtain ⟨row, stored, rfl⟩ := List.mem_map.mp member
      exact met row stored alike
    have rows (a : LatestFirmwareCache.Addition)
        (member : a ∈ seen (operate type (c.relist order) (.add ctx F))) :
        a ∈ seen c ∨ a = addition (stored ctx F) := by
      rcases List.mem_append.mp (seen_add type (c.relist order) ctx F a member) with old | new
      · exact .inl ((listed a).mp old)
      · exact .inr (List.mem_singleton.mp new)
    intro left inLeft right inRight alike
    -- A pair is of two old rows, of the new row and an old one, or of the new row twice.
    rcases rows left inLeft with oldLeft | rfl
    · rcases rows right inRight with oldRight | rfl
      · exact before left oldLeft right oldRight alike
      · exact old left oldLeft alike
    · rcases rows right inRight with oldRight | rfl
      · have compared := old right oldRight alike.symm
        exact ⟨fun date => (compared.mp date.symm).symm, fun same => (compared.mpr same.symm).symm⟩
      · exact Iff.of_eq (by simp)
  | put now email uuid edit =>
    refine fewer fun a member => ?_
    rwa [seen, operate, (additions_doPut now email (c.relist order) uuid edit).2] at member
  | delete uuid =>
    refine fewer fun a member => ?_
    rw [seen, (operate_deletion type (c.relist order) (Or.inl ⟨uuid, rfl⟩)).2] at member
    exact (List.filter_sublist.map addition).subset member
  | removeOld now maxAge =>
    refine fewer fun a member => ?_
    rw [seen, (operate_deletion type (c.relist order) (Or.inr (Or.inl ⟨now, maxAge, rfl⟩))).2] at member
    exact (List.filter_sublist.map addition).subset member
  | prune bucket =>
    refine fewer fun a member => ?_
    rw [seen, (operate_deletion type (c.relist order) (Or.inr (Or.inr ⟨bucket, rfl⟩))).2] at member
    exact (List.filter_sublist.map addition).subset member
  | restart => exact fewer fun a member => member

/-- An age is computed where there is a latest row. -/
theorem exists_computed (behind : latestRow c deviceType = some latest) (type : DBType) (revision : String) :
    ∃ details, computeFirmwareAge type c deviceType revision = some details := by
  simp only [latestRow, Option.bind_eq_bind, Option.bind_eq_some_iff] at behind
  obtain ⟨newest, cached, fetched⟩ := behind
  exact ⟨_, by rw [computeFirmwareAge, cached, Option.bind_eq_bind, Option.bind_some, fetched]; rfl⟩

/-- The latest row does not depend on the order of the rows. -/
theorem latestRow_relist (c : Catalogue) (order : List Firmware) (deviceType : String) :
    latestRow (c.relist order) deviceType = latestRow c deviceType := by
  -- It is looked up by its id.
  have fetched : ∀ id, getFirmware (c.relist order) id = getFirmware c id :=
    c.firmwares.lookup_relist order
  simp only [latestRow, fetched]
  rfl

/-- In whatever order the rows are listed, zero means what it is read as exactly when every row's date tells. -/
theorem zeroMeans_listed_iff (dated : Dated c) (behind : latestRow c deviceType = some latest)
    (plainRevision : Sql.Plain type.dialect revision) (plainType : Sql.Plain type.dialect deviceType) :
    (∀ order details, computeFirmwareAge type (c.relist order) deviceType revision = some details →
        ZeroMeans type (c.relist order) deviceType revision details) ↔
      DatesTell c deviceType revision latest := by
  have one (order : List Firmware) {details : FirmwareAgeDetails}
      (computed : computeFirmwareAge type (c.relist order) deviceType revision = some details) :=
    (zeroMeans_iff computed ((latestRow_relist c order deviceType).trans behind)).trans
      (datesApart_iff (dated_relist dated order) ((latestRow_relist c order deviceType).trans behind)
        plainRevision plainType)
  constructor
  · intro means row stored ofRevision ofType
    -- The row may be the first one of its revision and type that is listed.
    obtain ⟨order, rest, first⟩ := KeyedTable.exists_relist_cons stored
    obtain ⟨details, computed⟩ := exists_computed ((latestRow_relist c order deviceType).trans behind) type revision
    have rows : (c.relist order).firmwares.rows = row :: rest := first
    refine (one order computed).mp (means order details computed) row ?_
    rw [rows]
    exact List.find?_cons_of_pos (by simp [ofRevision, ofType])
  · intro tells order details computed
    refine (one order computed).mpr fun row found => ?_
    -- Whichever row comes first is a stored one.
    have selected := List.find?_some found
    simp only [Bool.and_eq_true, decide_eq_true_eq] at selected
    have stored := (c.firmwares.perm_relist order).subset (List.mem_of_find?_eq_some found)
    exact tells row stored selected.1 selected.2

/--
Zero means what its readers take it to mean, in whatever order the rows are listed, exactly when the dates tell
the latest revision from the other stored ones.

The first part holds in every state of every run for texts without quotes. The condition stays true when every new
image shares its date with a stored one of its type exactly when it shares its revision.
-/
theorem ageZero_means_iff (type : DBType) (c : Catalogue) (steps : List (List Firmware × Operation))
    (fresh : FreshIds c (steps.map Prod.snd)) (deviceType revision : String)
    (plainRevision : Sql.Plain type.dialect revision) (plainType : Sql.Plain type.dialect deviceType) :
    (∀ reached ∈ Transition.states (listedStep type) (restart type c) steps,
      (∀ order details, computeFirmwareAge type (reached.relist order) deviceType revision = some details →
          ZeroMeans type (reached.relist order) deviceType revision details) ↔
        ∀ latest, latestRow reached deviceType = some latest →
          DatesTell reached deviceType revision latest) ∧
      (Distinguished c → Transition.Along (listedStep type) Distinguishes (restart type c) steps →
        ∀ reached ∈ Transition.states (listedStep type) (restart type c) steps,
          ∀ order details, computeFirmwareAge type (reached.relist order) deviceType revision = some details →
            ZeroMeans type (reached.relist order) deviceType revision details) := by
  have exact_ : ∀ reached ∈ Transition.states (listedStep type) (restart type c) steps,
      ((∀ order details, computeFirmwareAge type (reached.relist order) deviceType revision = some details →
          ZeroMeans type (reached.relist order) deviceType revision details) ↔
        ∀ latest, latestRow reached deviceType = some latest →
          DatesTell reached deviceType revision latest) := by
    intro reached member
    have dated := dated_listed fresh reached member
    cases behind : latestRow reached deviceType with
    | none =>
      -- Without a latest row no age is computed.
      refine iff_of_true (fun order details computed => ?_) nofun
      obtain ⟨latest, found, _⟩ := latestRow_of_computed computed
      rw [latestRow_relist, behind] at found
      contradiction
    | some latest =>
      rw [zeroMeans_listed_iff dated behind plainRevision plainType]
      exact ⟨fun tells other same => Option.some.inj same ▸ tells, fun tells => tells latest rfl⟩
  refine ⟨exact_, fun start along reached member => (exact_ reached member).mpr fun latest behind row listed ofRevision
    ofType => ?_⟩
  have restarted : Distinguished (restart type c) := start
  have distinguished := Transition.invariant_along Distinguished
    (fun _ _ before met => distinguished_operate before met) restarted along reached member
  -- Both rows are stored under the type, so their dates and revisions are in step.
  simp only [latestRow, Option.bind_eq_bind, Option.bind_eq_some_iff] at behind
  obtain ⟨newest, cached, fetched⟩ := behind
  obtain ⟨stored, named⟩ := KeyedTable.lookup_eq_some.mp fetched
  obtain ⟨alike, _⟩ := (dated_listed fresh reached member).names deviceType newest cached (addition latest)
    (List.mem_map_of_mem stored) named
  rw [← ofRevision]
  exact distinguished (addition row) (List.mem_map_of_mem listed) (addition latest)
    (List.mem_map_of_mem stored) (ofType.trans alike.symm)

/-- Two images of one access point model, each listed as it was stored. -/
def twoDates (second : UInt64) : List (List Firmware × Operation) :=
  [([], .add { uuid := "a" } { deviceType := "eap101", revision := "r1", imageDate := 50 }),
    ([], .add { uuid := "b" } { deviceType := "eap101", revision := "r2", imageDate := second })]

/-- With different dates, the age of the older revision is not the one of an unknown one. -/
theorem ageZero_means_apart : ∃ details,
    computeFirmwareAge .sqlite (((twoDates 80).foldl (listedStep .sqlite) (restart .sqlite {})).relist []) "eap101"
      "r1" = some details ∧
    ZeroMeans .sqlite (((twoDates 80).foldl (listedStep .sqlite) (restart .sqlite {})).relist []) "eap101" "r1"
      details := by
  have answered : (computeFirmwareAge .sqlite (((twoDates 80).foldl (listedStep .sqlite) (restart .sqlite {})).relist
      []) "eap101" "r1").isSome = true := by
    decide +kernel
  obtain ⟨details, computed⟩ := Option.isSome_iff_exists.mp answered
  have last : (twoDates 80).foldl (listedStep .sqlite) (restart .sqlite {}) ∈
      Transition.states (listedStep .sqlite) (restart .sqlite {}) (twoDates 80) :=
    Transition.last_mem_states _ _
  refine ⟨details, computed, (ageZero_means_iff .sqlite {} (twoDates 80) (by decide +kernel) "eap101" "r1"
    (by decide) (by decide)).2 ?_ ?_ _ last [] details computed⟩
  · intro left absent
    exact absurd absent List.not_mem_nil
  · -- The second image has a new date and a new revision.
    refine ⟨fun row stored => absurd stored List.not_mem_nil, ?_, trivial⟩
    have rows : (listedStep .sqlite (restart .sqlite {}) ([],
        .add { uuid := "a" } { deviceType := "eap101", revision := "r1", imageDate := 50 })).firmwares.rows =
        [stored { uuid := "a" } { deviceType := "eap101", revision := "r1", imageDate := 50 }] := by decide +kernel
    intro row listed _
    rw [rows] at listed
    rw [List.mem_singleton.mp listed]
    decide

/-- A stored revision that is not the latest one has an age of zero, as if it were unknown. -/
theorem ageZero_of_stored :
    ¬ ∀ (type : DBType) (c : Catalogue) (steps : List (List Firmware × Operation)),
      ∀ reached ∈ Transition.states (listedStep type) (restart type c) steps,
      ∀ (order : List Firmware) (deviceType revision : String) (details : FirmwareAgeDetails),
      computeFirmwareAge type (reached.relist order) deviceType revision = some details →
      ZeroMeans type (reached.relist order) deviceType revision details := by
  intro means
  -- Both images are stored with one date, and the second one is the latest.
  have computed : computeFirmwareAge .sqlite
      (((twoDates 50).foldl (listedStep .sqlite) (restart .sqlite {})).relist []) "eap101" "r1" =
      some ⟨"b", "", 50, "r2", "", 0, false⟩ := by decide +kernel
  have zero := (means .sqlite {} (twoDates 50) _ (Transition.last_mem_states _ (twoDates 50)) [] "eap101" "r1" _
    computed).unknown.mp ⟨rfl, rfl⟩
  refine zero ⟨{ id := "a", deviceType := "eap101", revision := "r1", imageDate := 50 }, ?_, rfl, rfl⟩
  decide +kernel

end FirmwaresDB

end Fms
