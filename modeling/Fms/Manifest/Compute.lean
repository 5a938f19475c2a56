import Fms.Manifest.Creator
import Fms.Manifest.BucketLaws

/-! `ComputeManifest` accepts an entry by its own manifest text alone. -/

namespace Fms

/-- A manifest text that makes the entry of a release valid. -/
def Acceptable (poco : Poco) (limit : UInt64) (name content : String) : Prop :=
  ∃ parsedContent fields, poco.parseObject content = some parsedContent ∧
    hasFields parsedContent = true ∧ readFields poco parsedContent = some fields ∧
    limit < fields.timestamp ∧ fields.image = name ++ "-upgrade.bin"

variable {poco : Poco} {limit : UInt64} {name : String} {entry : S3BucketEntry}

/-- The conversions of the four fields succeed together exactly when each of them does. -/
theorem readFields_eq_some {parsedContent : JsonObject} {fields : ManifestFields} :
    readFields poco parsedContent = some fields ↔
      poco.toUInt64 (parsedContent.get "timestamp") = some fields.timestamp ∧
        poco.toString (parsedContent.get "compatible") = some fields.compatible ∧
        poco.toString (parsedContent.get "revision") = some fields.revision ∧
        poco.toString (parsedContent.get "image") = some fields.image := by
  -- The four conversions are made one after the other, and the first failure ends them.
  simp only [readFields, Option.bind_eq_bind, Option.bind_eq_some_iff, Option.pure_def,
    Option.some.injEq]
  constructor
  · intro found
    obtain ⟨timestamp, first, compatible, second, revision, third, image, fourth, rfl⟩ := found
    exact ⟨first, second, third, fourth⟩
  · intro found
    obtain ⟨first, second, third, fourth⟩ := found
    exact ⟨_, first, _, second, _, third, _, fourth, rfl⟩

/-- An accepted manifest writes its fields into the entry. -/
theorem computeEntry_of_fields (entry : S3BucketEntry) {parsedContent : JsonObject} {fields : ManifestFields}
    (parsed : poco.parseObject entry.s3ContentManifest = some parsedContent)
    (has : hasFields parsedContent = true) (converted : readFields poco parsedContent = some fields)
    (young : limit < fields.timestamp) (named : fields.image = name ++ "-upgrade.bin") :
    computeEntry poco limit name entry = { entry with
      valid := true
      timestamp := fields.timestamp
      compatible := fields.compatible
      revision := fields.revision
      image := fields.image } := by
  -- With all fields in order, the loop body takes its last branch.
  obtain ⟨timestamp, compatible, revision, image⟩ := readFields_eq_some.mp converted
  simp [computeEntry, parsed, has, timestamp, compatible, revision, image, young, named]

/-- An entry that is not yet valid becomes valid only through an acceptable manifest. -/
theorem acceptable_of_valid (fresh : entry.valid = false)
    (valid : (computeEntry poco limit name entry).valid = true) :
    Acceptable poco limit name entry.s3ContentManifest := by
  -- Every exit but the last one leaves the entry as invalid as it was.
  unfold computeEntry at valid
  split at valid
  · simp [fresh] at valid
  · rename_i parsedContent parsed
    split at valid
    · rename_i has
      split at valid
      · simp [fresh] at valid
      · rename_i timestamp first
        simp only at valid
        split at valid
        · rename_i young
          split at valid
          · simp [fresh] at valid
          · rename_i compatible second
            split at valid
            · simp [fresh] at valid
            · rename_i revision third
              split at valid
              · simp [fresh] at valid
              · rename_i image fourth
                split at valid
                · simp at valid
                · rename_i named
                  refine ⟨parsedContent, ⟨timestamp, compatible, revision, image⟩, parsed, has, ?_,
                    young, (not_not.mp named).symm⟩
                  exact readFields_eq_some.mpr ⟨first, second, third, fourth⟩
        · simp at valid
    · simp at valid

/-- An entry that is not yet valid becomes valid exactly through an acceptable manifest. -/
theorem computeEntry_valid (fresh : entry.valid = false) :
    (computeEntry poco limit name entry).valid = true ↔
      Acceptable poco limit name entry.s3ContentManifest := by
  constructor
  · exact acceptable_of_valid fresh
  · -- The fields that make the manifest acceptable are the ones that are written.
    intro acceptable
    obtain ⟨parsedContent, fields, parsed, has, converted, young, named⟩ := acceptable
    rw [computeEntry_of_fields entry parsed has converted young named]

/-- Computing an entry leaves alone what the image object has said. -/
theorem imagePart_computeEntry (poco : Poco) (limit : UInt64) (name : String)
    (entry : S3BucketEntry) :
    (computeEntry poco limit name entry).imagePart = entry.imagePart := by
  -- No exit writes the time stamp, the size or the address.
  simp only [computeEntry]
  repeat' split
  all_goals rfl

/-- Computing an entry keeps it in or out of the staging builds. -/
theorem isStaging_computeEntry (poco : Poco) (limit : UInt64) (name : String)
    (entry : S3BucketEntry) :
    isStaging (computeEntry poco limit name entry) = isStaging entry := by
  -- Staging builds are told by their address alone.
  have kept := congrArg ImagePart.uri (imagePart_computeEntry poco limit name entry)
  simp only [S3BucketEntry.imagePart] at kept
  rw [isStaging, isStaging, kept]

/-- The entry of a release is computed from the entry of that release. -/
theorem getElem?_computeManifest (poco : Poco) (limit : UInt64) (bucket : S3BucketContent)
    (r : String) :
    (computeManifest poco limit bucket)[r]? = bucket[r]?.map (computeEntry poco limit r) := by
  rw [computeManifest, Std.ExtTreeMap.getElem?_map]

/-- Removing the staging builds keeps the other entries as they are. -/
theorem getElem?_removeStaging {bucket : S3BucketContent} {r : String} {entry : S3BucketEntry} :
    (removeStaging bucket)[r]? = some entry ↔ bucket[r]? = some entry ∧ isStaging entry = false := by
  rw [removeStaging, Std.ExtTreeMap.getElem?_filter', Option.filter_eq_some_iff, Bool.not_eq_true']

/-- A release stays in the map exactly when its entry is no staging build. -/
theorem contains_removeStaging {bucket : S3BucketContent} {r : String} :
    (removeStaging bucket).contains r = true ↔
      ∃ entry, bucket[r]? = some entry ∧ isStaging entry = false := by
  -- The filter looks at the entry, so the release needs one.
  rw [Std.ExtTreeMap.contains_eq_isSome_getElem?, Option.isSome_iff_exists]
  exact exists_congr fun entry => getElem?_removeStaging

end Fms
