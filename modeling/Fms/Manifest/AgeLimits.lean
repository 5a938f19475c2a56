import Fms.Catalogue.FirmwaresLaws
import Fms.Manifest.Compute

/-! The age limits of a refresh, and the integers they stand for. -/

namespace Fms

/-- `MicroService::ConfigGetInt`, for the value that the configuration holds. -/
def configGetInt (value : Int) : UInt64 := UInt64.ofInt value

/-- `MaxAge_`, as `ManifestCreator::Start` computes it from `firmwaredb.maxage`. -/
def maxAgeOf (maxage : Int) : UInt64 := configGetInt maxage * 24 * 60 * 60

/-- What the body of the loop of `ComputeManifest` counts an entry as. -/
inductive ManifestVerdict where
  | accepted
  /-- Too old. -/
  | rejected
  | badFormat
  | missingJson
  /-- An exception is logged, and nothing is counted. -/
  | threw
  deriving DecidableEq, Repr

/-- The counter that the body of the loop of `ComputeManifest` increments. -/
def verdict (poco : Poco) (limit : UInt64) (name : String) (entry : S3BucketEntry) : ManifestVerdict :=
  match poco.parseObject entry.s3ContentManifest with
  | none => .threw
  | some parsedContent =>
    if hasFields parsedContent then
      match poco.toUInt64 (parsedContent.get "timestamp") with
      | none => .threw
      | some timestamp =>
        if limit < timestamp then
          match poco.toString (parsedContent.get "compatible"),
              poco.toString (parsedContent.get "revision"), poco.toString (parsedContent.get "image") with
          | some _, some _, some image => if name ++ "-upgrade.bin" ≠ image then .badFormat else .accepted
          | _, _, _ => .threw
        else .rejected
    else .missingJson

/-- The time stamp of a manifest text, when it is a manifest that has one. -/
def manifestTime (poco : Poco) (content : String) : Option UInt64 := do
  let parsedContent ← poco.parseObject content
  if hasFields parsedContent then poco.toUInt64 (parsedContent.get "timestamp") else none

/-- On a table and every bucket, ages in whole days are compared as with integers that never wrap. -/
structure AgeLimitsExact (type : DBType) (now : UInt64) (maxage : Int) (c : Catalogue) : Prop where
  removed : ∀ row ∈ c.firmwares.rows,
    (row ∉ (FirmwaresDB.removeOldFirmware type now (maxAgeOf maxage) c).firmwares.rows ↔
      (row.imageDate.toNat : Int) + maxage * 86400 < now.toNat)
  rejected : ∀ (poco : Poco) (bucket : S3BucketContent) (name : String) (entry : S3BucketEntry),
    bucket[name]? = some entry →
    (verdict poco (now - maxAgeOf maxage) name entry = .rejected ↔
      ∃ timestamp, manifestTime poco entry.s3ContentManifest = some timestamp ∧
        (timestamp.toNat : Int) + maxage * 86400 ≤ now.toNat)

variable {poco : Poco} {limit now : UInt64} {maxage : Int} {name : String} {entry : S3BucketEntry}

/-- An entry is counted as accepted exactly when its manifest text is acceptable. -/
theorem accepted_iff :
    verdict poco limit name entry = .accepted ↔ Acceptable poco limit name entry.s3ContentManifest := by
  constructor
  · intro accepted
    -- Every exit but one counts the entry as something else, or as nothing.
    unfold verdict at accepted
    split at accepted
    · contradiction
    · rename_i parsedContent parsed
      split at accepted
      · rename_i has
        split at accepted
        · contradiction
        · rename_i timestamp stamped
          split at accepted
          · rename_i young
            split at accepted
            · rename_i compatible revision image first second third
              split at accepted
              · contradiction
              · rename_i named
                exact ⟨parsedContent, ⟨timestamp, compatible, revision, image⟩, parsed, has,
                  readFields_eq_some.mpr ⟨stamped, first, second, third⟩, young,
                  (not_not.mp named).symm⟩
            · contradiction
          · contradiction
      · contradiction
  · rintro ⟨parsedContent, fields, parsed, has, converted, young, named⟩
    obtain ⟨timestamp, compatible, revision, image⟩ := readFields_eq_some.mp converted
    simp [verdict, parsed, has, timestamp, compatible, revision, image, young, named]

/-- An entry is too old exactly when its manifest has a time stamp that is not above the limit. -/
theorem rejected_iff :
    verdict poco limit name entry = .rejected ↔
      ∃ timestamp, manifestTime poco entry.s3ContentManifest = some timestamp ∧ timestamp ≤ limit := by
  -- The check of the age is the only one that counts an entry as too old.
  unfold verdict manifestTime
  cases poco.parseObject entry.s3ContentManifest with
  | none => simp
  | some parsedContent =>
    by_cases has : hasFields parsedContent = true
    · simp only [has, if_true, Option.bind_eq_bind, Option.bind_some]
      cases poco.toUInt64 (parsedContent.get "timestamp") with
      | none => simp
      | some timestamp =>
        by_cases young : limit < timestamp
        · -- No exit behind the check of the age counts the entry as too old.
          have late : ¬ timestamp ≤ limit := UInt64.not_le.mpr young
          simp only [young, if_true, Option.some.injEq, exists_eq_left', late, iff_false]
          repeat' split
          all_goals simp
        · simp [young, UInt64.not_lt.mp young]
    · simp [has]

/-- The conversion of an integer keeps it modulo the width of the clock. -/
theorem toNat_ofInt (value : Int) :
    ((UInt64.ofInt value).toNat : Int) = value % 18446744073709551616 := by
  -- The width of the clock is 2^64, and the conversion takes the remainder by it.
  have conversion : (UInt64.ofInt value).toNat =
      (value % 18446744073709551616).toNat % 18446744073709551616 := UInt64.toNat_ofNat'
  rw [conversion]
  omega

/-- The limit is the clock less the age in seconds, modulo the width of the clock. -/
theorem toNat_limit (now : UInt64) (maxage : Int) :
    ((now - maxAgeOf maxage).toNat : Int) =
      ((now.toNat : Int) - maxage * 86400) % 18446744073709551616 := by
  have seconds : maxAgeOf maxage = UInt64.ofInt (maxage * 86400) := by
    have factors : maxage * 86400 = maxage * 24 * 60 * 60 := by omega
    rw [factors, UInt64.ofInt_mul, UInt64.ofInt_mul, UInt64.ofInt_mul]
    rfl
  have age := toNat_ofInt (maxage * 86400)
  have bound := (UInt64.ofInt (maxage * 86400)).toNat_lt
  -- The subtraction adds the width before it takes the remainder.
  rw [seconds, UInt64.toNat_sub]
  omega

/--
The limit does not fall below zero, and it has not wrapped around either.

One wrapped limit does no harm: nothing is above the largest number there is, as nothing is above the true limit.
-/
def LimitFits (now : UInt64) (maxage : Int) : Prop :=
  0 ≤ (now.toNat : Int) - maxage * 86400 ∧
    ((now.toNat : Int) - maxage * 86400 < 18446744073709551616 ∨
      ((now.toNat : Int) - maxage * 86400) % 18446744073709551616 = 18446744073709551615)

/-- A `bigint` column holds the numbers below 2^63 as they are, and a negative one for any other. -/
theorem bigint_eq (value : UInt64) :
    bigint value =
      if value.toNat < 9223372036854775808 then (value.toNat : Int)
      else (value.toNat : Int) - 18446744073709551616 := by
  -- The conversion to a signed number is the one of the bits.
  have bits : bigint value = value.toBitVec.toInt := rfl
  have number : value.toBitVec.toNat = value.toNat := rfl
  rw [bits, BitVec.toInt_eq_toNat_cond, number]
  split <;> split <;> omega

/-- Where the limit fits, the removal takes a row exactly if it is too old, or its date has turned negative. -/
theorem not_recent_iff (fits : LimitFits now maxage) (date : UInt64) :
    ¬ FirmwaresDB.Recent (now - maxAgeOf maxage) date ↔
      (date.toNat : Int) + maxage * 86400 < now.toNat ∨ 9223372036854775808 ≤ date.toNat := by
  have limit := toNat_limit now maxage
  have bound := date.toNat_lt
  obtain ⟨positive, below | largest⟩ := fits
  · -- In this range the remainder is the number itself.
    rw [Int.emod_eq_of_lt positive below] at limit
    rw [FirmwaresDB.Recent, bigint_eq]
    split <;> omega
  · rw [FirmwaresDB.Recent, bigint_eq]
    split <;> omega

/-- Where the limit fits, the check of a manifest compares as integers do. -/
theorem le_limit_iff (fits : LimitFits now maxage) (timestamp : UInt64) :
    timestamp ≤ now - maxAgeOf maxage ↔ (timestamp.toNat : Int) + maxage * 86400 ≤ now.toNat := by
  have limit := toNat_limit now maxage
  have bound := timestamp.toNat_lt
  rw [UInt64.le_iff_toNat_le]
  obtain ⟨positive, below | largest⟩ := fits
  · rw [Int.emod_eq_of_lt positive below] at limit
    omega
  · omega

/-- The removal drops the rows whose dates are not recent. -/
theorem not_mem_removeOldFirmware {type : DBType} {c : Catalogue} {row : Firmware}
    (stored : row ∈ c.firmwares.rows) (maxAge : UInt64) :
    row ∉ (FirmwaresDB.removeOldFirmware type now maxAge c).firmwares.rows ↔
      ¬ FirmwaresDB.Recent (now - maxAge) row.imageDate := by
  -- The rows kept are the recent ones among the stored.
  rw [FirmwaresDB.rows_removeOldFirmware, List.mem_filter, not_and, decide_eq_true_iff]
  exact ⟨fun removed => removed stored, fun old _ => old⟩

/-- A manifest text without content. -/
def stampedText : String := "\x7b\x7d"

/-- A manifest of nothing but its time stamp. -/
def stampedManifest (timestamp : UInt64) : JsonObject :=
  [("image", .string ""), ("compatible", .string ""), ("revision", .string ""),
    ("timestamp", .int timestamp.toNat)]

/-- The library that reads the text as that manifest. -/
def stampedPoco (timestamp : UInt64) : Poco :=
  Poco.onDocuments [(stampedText, .object (stampedManifest timestamp))]

/-- The text is parsed as the manifest. -/
theorem parseObject_stampedPoco (timestamp : UInt64) :
    (stampedPoco timestamp).parseObject stampedText = some (stampedManifest timestamp) := by
  simp [stampedPoco, Poco.onDocuments, Poco.parseObject, Var.extractObject]

/-- Every number of 64 bits is one that the library converts. -/
theorem toUInt64_stampedPoco (timestamp : UInt64) :
    (stampedPoco timestamp).toUInt64 (.int timestamp.toNat) = some timestamp := by
  have bound := timestamp.toNat_lt
  have same : UInt64.ofInt timestamp.toNat = timestamp := by
    apply UInt64.toNat_inj.mp
    have conversion := toNat_ofInt timestamp.toNat
    omega
  -- The number is in range, and the conversion keeps it.
  have inRange : 0 ≤ (timestamp.toNat : Int) ∧ (timestamp.toNat : Int) < 18446744073709551616 := by omega
  simp only [stampedPoco, Poco.onDocuments, inRange, and_self, if_true, same]

/-- That manifest has its time stamp. -/
theorem manifestTime_stampedPoco (timestamp : UInt64) :
    manifestTime (stampedPoco timestamp) stampedText = some timestamp := by
  have has : hasFields (stampedManifest timestamp) = true := by
    simp [hasFields, JsonObject.has, stampedManifest]
  have stamp : (stampedManifest timestamp).get "timestamp" = .int timestamp.toNat := by
    simp [JsonObject.get, stampedManifest]
  -- All four fields are there, and the last one is converted.
  rw [manifestTime, parseObject_stampedPoco, Option.bind_eq_bind, Option.bind_some, if_pos has, stamp]
  exact toUInt64_stampedPoco timestamp

/-- Exact age limits reject a manifest of any time stamp exactly if it is too old. -/
theorem AgeLimitsExact.timestamp {type : DBType} {c : Catalogue} (exact_ : AgeLimitsExact type now maxage c)
    (timestamp : UInt64) :
    timestamp ≤ now - maxAgeOf maxage ↔ (timestamp.toNat : Int) + maxage * 86400 ≤ now.toNat := by
  have stamped := manifestTime_stampedPoco timestamp
  have rejected := exact_.rejected (stampedPoco timestamp)
    ((∅ : S3BucketContent).insert "r1" { s3ContentManifest := stampedText }) "r1" _
    Std.ExtTreeMap.getElem?_insert_self
  rw [rejected_iff] at rejected
  -- The only time stamp of the manifest is the given one.
  simpa only [stamped, Option.some.injEq, exists_eq_left'] using rejected

/-- Exact age limits fit. -/
theorem AgeLimitsExact.limitFits {type : DBType} {c : Catalogue} (exact_ : AgeLimitsExact type now maxage c) :
    LimitFits now maxage := by
  have limit := toNat_limit now maxage
  have bound := (now - maxAgeOf maxage).toNat_lt
  -- The oldest manifest is rejected in any case, and the newest one by the largest limit only.
  have oldest := exact_.timestamp 0
  have newest := exact_.timestamp 18446744073709551615
  have zero : (0 : UInt64).toNat = 0 := rfl
  have largest : (18446744073709551615 : UInt64).toNat = 18446744073709551615 := rfl
  rw [UInt64.le_iff_toNat_le, zero] at oldest
  rw [UInt64.le_iff_toNat_le, largest] at newest
  unfold LimitFits
  omega

/--
On a table, the age limits are exact if and only if the limit fits and every stored date from 2^63 on is too old.
-/
theorem ageLimitsExact_iff (type : DBType) (now : UInt64) (maxage : Int) (c : Catalogue) :
    AgeLimitsExact type now maxage c ↔
      LimitFits now maxage ∧ ∀ row ∈ c.firmwares.rows, 9223372036854775808 ≤ row.imageDate.toNat →
        (row.imageDate.toNat : Int) + maxage * 86400 < now.toNat := by
  constructor
  · intro exact_
    have fits := exact_.limitFits
    refine ⟨fits, fun row stored negative => ?_⟩
    -- A row with a negative date is removed in any case.
    have removed := exact_.removed row stored
    rw [not_mem_removeOldFirmware stored, not_recent_iff fits] at removed
    exact removed.mp (Or.inr negative)
  · rintro ⟨fits, old⟩
    constructor
    · intro row stored
      rw [not_mem_removeOldFirmware stored, not_recent_iff fits]
      exact ⟨fun removed => removed.elim id (old row stored), Or.inl⟩
    · intro poco bucket name entry _
      rw [rejected_iff]
      exact exists_congr fun timestamp => and_congr_right fun _ => le_limit_iff fits timestamp

/-- A row with an image of the second before. -/
def youngRow : Firmware where
  id := "a"
  imageDate := 1699999999

/-- When more days are allowed than the clock has counted, even a young image is removed. -/
theorem removes_young_row :
    ¬ ∀ (type : DBType) (now : UInt64) (maxage : Int) (c : Catalogue), AgeLimitsExact type now maxage c := by
  intro exact_
  have removed := (exact_ .sqlite 1700000000 30000 { firmwares := KeyedTable.single youngRow }).removed
    youngRow (List.mem_singleton.mpr rfl)
  rw [not_mem_removeOldFirmware (List.mem_singleton.mpr rfl)] at removed
  -- The limit has wrapped around, so it lies above every date of this era.
  have old := removed.mp (by decide)
  exact absurd old (by decide)

end Fms
