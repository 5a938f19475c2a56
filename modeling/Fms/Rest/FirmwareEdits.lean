import Fms.Rest.FirmwareHandler

/-! What a change of a firmware touches: its description, and notes behind those that are there. -/

namespace Fms.FirmwareHandler

open FieldFromJson (Convertible all all_of_returns all_of_throws scalar scalar_of_convertible
  scalar_of_not_convertible)

/-- The note objects of a document. -/
def noteObjects (Obj : JsonObject) : List JsonObject :=
  match Obj.get "notes" with
  | .array elements => elements.filterMap Var.extractObject
  | _ => []

/-- The text of a note object. -/
def noteText (poco : Poco) (inner : JsonObject) : String :=
  if inner.has "note" && !(inner.get "note").isNull then (poco.toString (inner.get "note")).getD "" else ""

/-- The objects of an array before the first element that is none. -/
def leadingObjects : List Var → List JsonObject
  | .object inner :: rest => inner :: leadingObjects rest
  | _ => []

/-- The members that a note reads before its text can be converted. -/
def Readable (poco : Poco) (inner : JsonObject) : Prop :=
  Convertible "created" poco.toUInt64 inner ∧ Convertible "createdBy" poco.toString inner

instance (poco : Poco) (inner : JsonObject) : Decidable (Readable poco inner) :=
  inferInstanceAs (Decidable ((_ → _) ∧ (_ → _)))

/-- Two values that the field readers cannot tell apart. -/
structure Alike (poco : Poco) (left right : Var) : Prop where
  isNull : left.isNull = right.isNull
  toString : poco.toString left = poco.toString right
  toUInt64 : poco.toUInt64 left = poco.toUInt64 right

/-- Two elements of which neither is an object, or two objects with members that read alike. -/
def AlikeElements (poco : Poco) : Var → Var → Prop
  | .object left, .object right => ∀ name, JsonObject.has left name = JsonObject.has right name ∧
      Alike poco (JsonObject.get left name) (JsonObject.get right name)
  | .object _, _ | _, .object _ => False
  | _, _ => True

/-- The library writes an array to a text from which it reads an array with elements that read alike. -/
def Rereads (poco : Poco) (elements : List Var) : Prop :=
  ∃ text again, poco.toString (.array elements) = some text ∧ text ≠ "" ∧
    poco.parse text = some (.array again) ∧ List.Forall₂ (AlikeElements poco) elements again

/--
What a change may do: it rewrites the description if the document has one, and appends notes.

Each appended note has the text of the document's note object at its place, the user's e-mail and the time of
the request. Nothing else of the row, no other row and nothing of the cache changes.
-/
structure TouchesOnly (poco : Poco) (ctx : PutContext) (UUID : String) (Obj : JsonObject) (row : Firmware)
    (before after : Catalogue) : Prop where
  others : ∀ id, id ≠ UUID → FirmwaresDB.getFirmware after id = FirmwaresDB.getFirmware before id
  cache : after.latestFirmwareCache = before.latestFirmwareCache
  row : ∃ description added,
    FirmwaresDB.getFirmware after UUID = some { row with description, notes := row.notes ++ added } ∧
      (Obj.has "description" = false → description = row.description) ∧
      ∃ chosen, chosen <+: noteObjects Obj ∧
        added = chosen.map fun inner => ⟨ctx.now, ctx.email, noteText poco inner⟩

/--
The notes of a document from which a change takes no other text.

In an array, each object before the first element that is none has a time and an author that can be converted,
or no text; the text of another value is not that of an array that starts with an object.
-/
def NotesReadable (poco : Poco) (Obj : JsonObject) : Prop :=
  Obj.has "notes" → match Obj.get "notes" with
    | .array elements => ∀ inner ∈ leadingObjects elements, Readable poco inner ∨ noteText poco inner = ""
    | value => ∀ text ∈ poco.toString value, RestApiUtils.toObjectArray poco {} (NoteInfo.fromJson poco) text = []

variable {poco : Poco} {condense : List Var → String} {ctx : PutContext} {c : Catalogue}

/-- The step that reads the text of a note without one leaves the text of the object. -/
theorem note_step (poco : Poco) (inner : JsonObject) {value : NoteInfo} (blank : value.note = "") :
   (FieldFromJson.string poco "note" (fun v (note : NoteInfo) => { note with note := v }) inner value).2.note =
      noteText poco inner := by
  -- A value that is missing, null or not convertible leaves the text blank.
  rw [FieldFromJson.string, scalar, noteText]
  split
  · cases poco.toString (inner.get "note") with
    | none => exact blank
    | some text => rfl
  · exact blank

/-- A note gets its text if the members before it are readable, and otherwise it has none. -/
theorem note_fromJson (poco : Poco) (inner : JsonObject) :
    (NoteInfo.fromJson poco inner {}).2.note = if Readable poco inner then noteText poco inner else "" := by
  -- The text is read last, so it is reached only when neither step before it throws.
  have last : ∀ value : NoteInfo, value.note = "" → (FieldFromJson.all [FieldFromJson.scalar "note" poco.toString
      fun v (note : NoteInfo) => { note with note := v }] inner value).2.note = noteText poco inner := by
    intro value blank
    rw [← note_step poco inner blank, all, FieldFromJson.string]
    split <;> simp_all [all]
  rw [NoteInfo.fromJson, FieldFromJson.uint64, FieldFromJson.string, FieldFromJson.string]
  by_cases created : Convertible "created" poco.toUInt64 inner
  · -- The time leaves the text blank, and so does the author.
    obtain ⟨start, first, blank⟩ : ∃ start : NoteInfo, FieldFromJson.scalar "created" poco.toUInt64
        (fun v (note : NoteInfo) => { note with created := v }) inner {} = (true, start) ∧ start.note = "" := by
      rcases scalar_of_convertible created (fun v (note : NoteInfo) => { note with created := v }) {} with
        skipped | ⟨read, stored⟩
      · exact ⟨_, skipped, rfl⟩
      · exact ⟨_, stored, rfl⟩
    rw [all_of_returns first]
    by_cases createdBy : Convertible "createdBy" poco.toString inner
    · rw [if_pos ⟨created, createdBy⟩]
      rcases scalar_of_convertible createdBy (fun v (note : NoteInfo) => { note with createdBy := v }) start with
        skipped | ⟨read, stored⟩
      · rw [all_of_returns skipped, last start blank]
      · rw [all_of_returns stored]
        exact last _ blank
    · rw [if_neg fun readable => createdBy readable.2, all_of_throws (scalar_of_not_convertible createdBy _ start),
        blank]
  · rw [if_neg fun readable => created readable.1, all_of_throws (scalar_of_not_convertible created _ ({} : NoteInfo))]
/-- The elements of an array that are read are the objects before the first element that is none. -/
theorem elements_eq (read : JsonObject → NoteInfo) (elements : List Var) :
    (FieldFromJson.elements (fun element => element.extractObject.map read) elements).2 =
      (leadingObjects elements).map read := by
  -- Reading stops at the first element that is no object.
  induction elements with
  | nil => rfl
  | cons element rest ih =>
    cases element with
    | object inner =>
      rw [leadingObjects, List.map_cons, ← ih]
      rfl
    | _ => rfl

/-- The objects that lead an array are among its objects, as the first of them. -/
theorem leadingObjects_leads (elements : List Var) :
    leadingObjects elements <+: elements.filterMap Var.extractObject := by
  -- What stands behind an element that is no object is left out.
  induction elements with
  | nil => exact List.nil_prefix
  | cons element rest ih =>
    cases element with
    | object inner => simpa [leadingObjects, Var.extractObject] using ih
    | _ => exact List.nil_prefix

/-- Objects with members that read alike are read as notes with the same text. -/
theorem note_of_alike {left right : JsonObject}
    (alike : ∀ name, left.has name = right.has name ∧ Alike poco (left.get name) (right.get name)) :
    (NoteInfo.fromJson poco left {}).2.note = (NoteInfo.fromJson poco right {}).2.note := by
  -- Whether the steps are reached, and what the last one reads, depends on three members.
  obtain ⟨hasCreated, created⟩ := alike "created"
  obtain ⟨hasAuthor, author⟩ := alike "createdBy"
  obtain ⟨hasNote, note⟩ := alike "note"
  have texts : noteText poco left = noteText poco right := by
    rw [noteText, noteText, hasNote, note.isNull, note.toString]
  have readable : Readable poco left ↔ Readable poco right := by
    rw [Readable, Readable, Convertible, Convertible, Convertible, Convertible, hasCreated, created.isNull,
      created.toUInt64, hasAuthor, author.isNull, author.toString]
  rw [note_fromJson, note_fromJson, texts]
  by_cases fine : Readable poco left
  · rw [if_pos fine, if_pos (readable.mp fine)]
  · rw [if_neg fine, if_neg fun other => fine (readable.mpr other)]

/-- Arrays with elements that read alike lead with notes of the same texts. -/
theorem notes_of_alike {elements again : List Var} (alike : List.Forall₂ (AlikeElements poco) elements again) :
    (leadingObjects elements).map (fun inner => (NoteInfo.fromJson poco inner {}).2.note) =
      (leadingObjects again).map fun inner => (NoteInfo.fromJson poco inner {}).2.note := by
  -- Two alike elements are both objects, or both end the leading ones.
  induction alike with
  | nil => rfl
  | @cons left right _ _ first _ ih =>
    cases left with
    | object inner =>
      cases right with
      | object other => rw [leadingObjects, leadingObjects, List.map_cons, List.map_cons, ih, note_of_alike first]
      | _ => exact absurd first id
    | _ =>
      cases right with
      | object other => exact absurd first id
      | _ => rfl

/-- A stored row is read back from its columns. -/
theorem readRow_eq (converts : poco.Converts) {row : Firmware}
    (readsBack : poco.ReadsBack condense (FieldToJson.array NoteInfo.toJson row.notes)) :
    readRow poco condense row = row :=
  (FirmwaresDB.carries converts row readsBack).tuple emptyFirmwareTuple {}

/-- A change that succeeds has found the row, and has written the merged record over it. -/
theorem doPut_of_success {UUID : String} {Obj : JsonObject}
    (succeeded : ¬ (doPut poco condense ctx c UUID Obj).1.IsError) :
    ∃ row F, FirmwaresDB.getFirmware c UUID = some row ∧ merge poco ctx Obj (readRow poco condense row) = some F ∧
      (doPut poco condense ctx c UUID Obj).2 = { c with firmwares := c.firmwares.replace F } := by
  -- Each way out before the end is an error.
  by_cases named : UUID = ""
  · exact absurd (by simp [doPut, named]) succeeded
  · cases found : FirmwaresDB.getFirmware c UUID with
    | none => exact absurd (by simp [doPut, named, found]) succeeded
    | some row =>
      rw [doPut_of_row named found] at succeeded ⊢
      cases taken : merge poco ctx Obj (readRow poco condense row) with
      | none => simp [taken] at succeeded
      | some F =>
        cases executed : ctx.executed with
        | false => simp [taken, executed] at succeeded
        | true => exact ⟨row, F, rfl, taken, by simp⟩

/-- What a merge writes over a record: the description taken, and the notes taken behind its own. -/
theorem merge_eq_some {Obj : JsonObject} {F merged : Firmware} (taken : merge poco ctx Obj F = some merged) :
    ∃ description added, takeDescription poco Obj F = some description ∧ takeNotes poco ctx Obj = some added ∧
      merged = { F with description, notes := F.notes ++ added } := by
  -- Both steps have come through.
  simp only [merge, Option.bind_eq_bind, Option.bind_eq_some_iff] at taken
  obtain ⟨description, first, added, second, written⟩ := taken
  exact ⟨description, added, first, second, (Option.some.inj written).symm⟩

/-- Two fronts of a list of objects give notes with given texts exactly if they are one and the texts agree. -/
theorem front_iff {leading objects : List JsonObject} (leads : leading <+: objects) (text other : JsonObject → String)
    (now : UInt64) (email : String) :
    (∃ chosen, chosen <+: objects ∧ (leading.map fun inner => (⟨now, email, text inner⟩ : NoteInfo)) =
        chosen.map fun inner => ⟨now, email, other inner⟩) ↔
      ∀ inner ∈ leading, text inner = other inner := by
  constructor
  · rintro ⟨chosen, front, same⟩
    -- Both are fronts of one length.
    have lengths : leading.length = chosen.length := by simpa using congrArg List.length same
    obtain rfl : leading = chosen :=
      (List.prefix_of_prefix_length_le leads front lengths.le).eq_of_length lengths
    intro inner member
    exact congrArg NoteInfo.note (List.map_inj_left.mp same inner member)
  · intro agree
    refine ⟨leading, leads, List.map_congr_left fun inner member => ?_⟩
    rw [agree inner member]

/-- A note object is read with its text exactly if the members before it are readable or it has none. -/
theorem note_eq_noteText_iff (inner : JsonObject) :
    (NoteInfo.fromJson poco inner {}).2.note = noteText poco inner ↔
      Readable poco inner ∨ noteText poco inner = "" := by
  -- A note that is not readable is read as a blank one.
  rw [note_fromJson]
  by_cases readable : Readable poco inner
  · rw [if_pos readable]
    exact iff_of_true rfl (Or.inl readable)
  · rw [if_neg readable, or_iff_right readable]
    exact eq_comm

/-- The notes taken from an array have the texts of its objects exactly if these are readable. -/
theorem takeNotes_array_iff {Obj : JsonObject} {elements : List Var} (has : Obj.has "notes" = true)
    (get : Obj.get "notes" = .array elements) {added : List NoteInfo} (taken : takeNotes poco ctx Obj = some added)
    (rereads : Rereads poco elements) :
    (∃ chosen, chosen <+: noteObjects Obj ∧
        added = chosen.map fun inner => ⟨ctx.now, ctx.email, noteText poco inner⟩) ↔
      ∀ inner ∈ leadingObjects elements, Readable poco inner ∨ noteText poco inner = "" := by
  obtain ⟨text, again, written, nonempty, parsed, alike⟩ := rereads
  -- The library reads its own text of the array again.
  have read : RestApiUtils.toObjectArray poco {} (NoteInfo.fromJson poco) text =
      (leadingObjects again).map fun inner => (NoteInfo.fromJson poco inner {}).2 := by
    rw [RestApiUtils.toObjectArray, if_neg nonempty, parsed]
    exact elements_eq _ again
  have same := congrArg (List.map fun note => (⟨ctx.now, ctx.email, note⟩ : NoteInfo)) (notes_of_alike alike)
  rw [List.map_map, List.map_map] at same
  have stamped : added = (leadingObjects elements).map fun inner =>
      ⟨ctx.now, ctx.email, (NoteInfo.fromJson poco inner {}).2.note⟩ := by
    rw [takeNotes, if_pos has, get, written, Option.map_some, read, List.map_map] at taken
    exact (Option.some.inj taken).symm.trans same.symm
  rw [stamped, noteObjects, get, front_iff (leadingObjects_leads elements)]
  exact forall₂_congr fun inner _ => note_eq_noteText_iff inner

/-- A value that is no array has no note objects, so nothing may be read from its text. -/
theorem takeNotes_other_iff {Obj : JsonObject} (has : Obj.has "notes" = true) (none_ : noteObjects Obj = [])
    {added : List NoteInfo} (taken : takeNotes poco ctx Obj = some added) :
    (∃ chosen, chosen <+: noteObjects Obj ∧
        added = chosen.map fun inner => ⟨ctx.now, ctx.email, noteText poco inner⟩) ↔
      ∀ text ∈ poco.toString (Obj.get "notes"),
        RestApiUtils.toObjectArray poco {} (NoteInfo.fromJson poco) text = [] := by
  rw [takeNotes, if_pos has, Option.map_eq_some_iff] at taken
  obtain ⟨text, written, rfl⟩ := taken
  rw [none_, written]
  constructor
  · -- No note of the document can have been chosen.
    rintro ⟨chosen, front, same⟩ other member
    obtain rfl := Option.some.inj member
    rw [List.prefix_nil.mp front, List.map_nil, List.map_eq_nil_iff] at same
    exact same
  · intro nothing
    exact ⟨[], List.nil_prefix, by rw [nothing text rfl, List.map_nil, List.map_nil]⟩

/-- Notes taken have the texts of the note objects of the document, in order, exactly if these are readable. -/
theorem takeNotes_iff {Obj : JsonObject} {added : List NoteInfo} (taken : takeNotes poco ctx Obj = some added)
    (rereads : ∀ elements, Obj.get "notes" = .array elements → Rereads poco elements) :
    (∃ chosen, chosen <+: noteObjects Obj ∧
        added = chosen.map fun inner => ⟨ctx.now, ctx.email, noteText poco inner⟩) ↔
      NotesReadable poco Obj := by
  by_cases has : Obj.has "notes" = true
  · rw [NotesReadable, forall_prop_of_true has]
    -- An array has notes in it, and any other value has none.
    cases get : Obj.get "notes" with
    | array elements => exact takeNotes_array_iff has get taken (rereads elements get)
    | _ =>
      have none_ : noteObjects Obj = [] := by rw [noteObjects, get]
      rw [takeNotes_other_iff has none_ taken, get]
  · -- A document without notes adds none.
    refine iff_of_true ⟨[], List.nil_prefix, ?_⟩ fun present => absurd present has
    rw [takeNotes, if_neg has] at taken
    exact (Option.some.inj taken).symm

/-- A change that succeeds touches nothing else exactly if the notes of its document are readable. -/
theorem doPut_touchesOnly_iff (poco : Poco) (converts : poco.Converts) (condense : List Var → String)
    (ctx : PutContext) (c : Catalogue) (UUID : String) (Obj : JsonObject) (row : Firmware)
    (found : FirmwaresDB.getFirmware c UUID = some row)
    (readsBack : poco.ReadsBack condense (FieldToJson.array NoteInfo.toJson row.notes))
    (rereads : ∀ elements, Obj.get "notes" = .array elements → Rereads poco elements)
    (succeeded : ¬ (doPut poco condense ctx c UUID Obj).1.IsError) :
    TouchesOnly poco ctx UUID Obj row c (doPut poco condense ctx c UUID Obj).2 ↔ NotesReadable poco Obj := by
  obtain ⟨row_, F, found_, taken, after⟩ := doPut_of_success succeeded
  obtain rfl : row = row_ := Option.some.inj (found.symm.trans found_)
  rw [readRow_eq converts readsBack] at taken
  obtain ⟨description, added, first, second, rfl⟩ := merge_eq_some taken
  rw [after, ← takeNotes_iff second rereads]
  have named : row.id = UUID := (KeyedTable.lookup_eq_some.mp found).2
  let merged : Firmware := { row with description, notes := row.notes ++ added }
  -- The row is replaced under its own id, and no other one is.
  have lookups : ∀ id, (c.firmwares.replace merged).lookup id =
      if id = row.id then some merged else c.firmwares.lookup id :=
    KeyedTable.lookup_replace (List.mem_map.mpr ⟨row, (KeyedTable.lookup_eq_some.mp found).1, rfl⟩)
  have written : FirmwaresDB.getFirmware { c with firmwares := c.firmwares.replace merged } UUID = some merged :=
    (lookups UUID).trans (if_pos named.symm)
  constructor
  · -- The row says which notes have been appended.
    intro touches
    obtain ⟨_, added_, other, _, chosen, front, texts⟩ := touches.row
    have same := congrArg Firmware.notes (Option.some.inj (written.symm.trans other))
    exact ⟨chosen, front, (List.append_cancel_left same).trans texts⟩
  · rintro ⟨chosen, front, texts⟩
    refine ⟨fun id differs => (lookups id).trans (if_neg fun same => differs (same.trans named)), rfl,
      description, added, written, fun absent => ?_, chosen, front, texts⟩
    rw [takeDescription, if_neg (by simp [absent])] at first
    exact (Option.some.inj first).symm

/-- What a change takes from a document, if none of its steps throws. -/
def editOf (poco : Poco) (ctx : PutContext) (Obj : JsonObject) : FirmwaresDB.FirmwareEdit where
  wellFormed := ctx.executed && (merge poco ctx Obj {}).isSome
  description := if Obj.has "description" then poco.toString (Obj.get "description") else none
  notes := (takeNotes poco ctx Obj).map (List.map NoteInfo.note)

/-- Notes that are taken are stamped with the user and the time, so their texts tell them. -/
theorem stamp_of_takeNotes {Obj : JsonObject} {added : List NoteInfo} (taken : takeNotes poco ctx Obj = some added) :
    added.map (fun note => (⟨ctx.now, ctx.email, note.note⟩ : NoteInfo)) = added := by
  -- Every note gets the author and the time of the request.
  rw [takeNotes] at taken
  split at taken
  · obtain ⟨text, _, rfl⟩ := Option.map_eq_some_iff.mp taken
    rw [List.map_map]
    rfl
  · rw [← Option.some.inj taken, List.map_nil]

/-- The handler changes the catalogue as the operation on it does. -/
theorem doPut_operation (converts : poco.Converts) {UUID : String} (readsBack : ∀ row,
      FirmwaresDB.getFirmware c UUID = some row →
        poco.ReadsBack condense (FieldToJson.array NoteInfo.toJson row.notes)) (Obj : JsonObject) :
    (doPut poco condense ctx c UUID Obj).2 =
      FirmwaresDB.doPut ctx.now ctx.email c UUID (editOf poco ctx Obj) := by
  rw [FirmwaresDB.doPut]
  by_cases named : UUID = ""
  · simp [doPut, named]
  · cases found : FirmwaresDB.getFirmware c UUID with
    | none => simp [doPut, named, found]
    | some row =>
      rw [doPut_of_row named found, readRow_eq converts (readsBack row found), if_neg named]
      cases taken : merge poco ctx Obj row with
      | none =>
        -- Whether a step throws does not depend on the record.
        have refused : merge poco ctx Obj {} = none :=
          (merge_eq_none_iff ctx Obj {}).mpr ((merge_eq_none_iff ctx Obj row).mp taken)
        simp [editOf, refused]
      | some F =>
        have fine : (merge poco ctx Obj {}).isSome = true := by
          rw [Option.isSome_iff_ne_none, ne_eq, merge_eq_none_iff ctx Obj {}, ← merge_eq_none_iff ctx Obj row, taken]
          exact Option.some_ne_none F
        obtain ⟨description, added, first, second, rfl⟩ := merge_eq_some taken
        cases executed : ctx.executed with
        | false => simp [editOf, executed]
        | true =>
          have named : row.id = UUID := (KeyedTable.lookup_eq_some.mp found).2
          have edit : editOf poco ctx Obj =
              ⟨true, (editOf poco ctx Obj).description, some (added.map NoteInfo.note)⟩ := by
            simp [editOf, executed, fine, second]
          have described : (editOf poco ctx Obj).description.getD row.description = description := by
            rw [editOf, ← Option.getD_some (a := description) (b := row.description), ← first, takeDescription]
            split <;> rfl
          rw [edit]
          simp only [Bool.not_true, Bool.false_eq_true, if_false, if_true, described, Option.getD_some, List.map_map]
          -- The record written has the id of the row.
          subst named
          have stamped : added.map ((fun note => (⟨ctx.now, ctx.email, note⟩ : NoteInfo)) ∘ NoteInfo.note) = added :=
            stamp_of_takeNotes second
          rw [stamped]
          exact (congrArg Prod.snd (FirmwaresDB.updateFirmware_id c { row with
            description, notes := row.notes ++ added })).symm

/-- The library on a document with one array of notes, and its text. -/
def notesLibrary (text : String) (elements : List Var) : Poco :=
  { Poco.onDocuments [("[]", .array []), (text, .array elements)] with
    toString := fun
      | .array _ => some text
      | value => (Poco.onDocuments []).toString value }

/-- The library on such a document gives back the values that were set. -/
theorem converts_notesLibrary (text : String) (elements : List Var) : (notesLibrary text elements).Converts where
  uint64 value := by
  -- The library differs from the one of known documents in its texts only.
    have same : (notesLibrary text elements).toUInt64 = (Poco.onDocuments []).toUInt64 := rfl
    rw [same]
    exact (Poco.converts_onDocuments []).uint64 value
  string _ := rfl
  bool _ := rfl

/-- A catalogue with one firmware without notes. -/
def withoutNotes : Catalogue where
  firmwares := KeyedTable.single { id := "f1", deviceType := "eap101", description := "first" }

/-- A note with a text is appended as it is. -/
theorem doPut_touchesOnly_one_note :
    let elements : List Var := [.object [("note", .string "hello")]]
    let poco := notesLibrary "[\x7b\"note\":\"hello\"\x7d]" elements
    let Obj : JsonObject := [("notes", .array elements), ("owner", .string "me")]
    TouchesOnly poco ⟨7, "admin", true⟩ "f1" Obj { id := "f1", deviceType := "eap101", description := "first" }
      withoutNotes (doPut poco (fun _ => "[]") ⟨7, "admin", true⟩ withoutNotes "f1" Obj).2 := by
  intro elements poco Obj
  refine (doPut_touchesOnly_iff poco (converts_notesLibrary _ _) (fun _ => "[]") ⟨7, "admin", true⟩ withoutNotes "f1"
    Obj _ rfl ⟨rfl, rfl, rfl⟩ ?_ (by decide)).mpr ?_
  · rintro _ ⟨⟩
    exact ⟨_, elements, rfl, by decide, rfl, .cons (fun name => ⟨rfl, rfl, rfl, rfl⟩) .nil⟩
  · -- The note has neither a time nor an author to be converted.
    intro _ inner member
    obtain rfl := List.mem_singleton.mp member
    exact Or.inl (by decide)

/-- A note whose time is no number is appended without its text. -/
theorem doPut_touchesOnly_fails :
    let elements : List Var := [.object [("created", .string "never"), ("note", .string "hello")]]
    let poco := notesLibrary "[\x7b\"created\":\"never\",\"note\":\"hello\"\x7d]" elements
    let Obj : JsonObject := [("notes", .array elements)]
    ¬ TouchesOnly poco ⟨7, "admin", true⟩ "f1" Obj { id := "f1", deviceType := "eap101", description := "first" }
      withoutNotes (doPut poco (fun _ => "[]") ⟨7, "admin", true⟩ withoutNotes "f1" Obj).2 := by
  intro elements poco Obj touches
  obtain ⟨description, added, stored, _, chosen, front, texts⟩ := touches.row
  -- The time cannot be converted, so the note is appended without its text.
  have notes : added = [⟨7, "admin", ""⟩] :=
    (congrArg Firmware.notes (Option.some.inj stored)).symm.trans (by decide)
  have leads : [[("created", .string "never"), ("note", .string "hello")]] <+: noteObjects Obj := List.prefix_rfl
  have agree := (front_iff leads (fun _ => "") (noteText poco) 7 "admin").mp ⟨chosen, front, notes.symm.trans texts⟩
  exact absurd (agree _ List.mem_cons_self) (by decide)

end Fms.FirmwareHandler
