import Fms.Catalogue.CacheCoherence
import Fms.Catalogue.LatestFlag
import Fms.Relation.Interleaving

/-! Additions and changes of firmwares, statement by statement, and what they overwrite of each other. -/

namespace Fms.FirmwaresDB

/-- What a request to change a firmware writes into the row it has read. -/
structure Change where
  description : Option String := none
  /-- The notes to append. -/
  notes : List NoteInfo := []
  deriving DecidableEq, Repr

/-- The row `DoPut` writes over the one it has read. -/
def Change.apply (change : Change) (F : Firmware) : Firmware :=
  { F with
    description := change.description.getD F.description
    notes := F.notes ++ change.notes }

/-- The change a body asks for, at a time and for the user with an e-mail address. -/
def FirmwareEdit.change (now : UInt64) (email : String) (edit : FirmwareEdit) : Change where
  description := edit.description
  notes := (edit.notes.getD []).map fun note => ⟨now, email, note⟩

/-- Where a thread stands in a request, with what it has read of the table. -/
inductive Phase where
  | idle
  /-- `AddFirmware` has told the cache, and looks for the flagged rows of the type. -/
  | selecting (ctx : AddContext) (F : Firmware)
  /-- `AddFirmware` takes the flag from the rest of the rows it has read, and then inserts its record. -/
  | clearing (ctx : AddContext) (F : Firmware) (rest : List Firmware)
  /-- `DoPut` has read a row. -/
  | writing (uuid : String) (F : Firmware) (change : Change)

/-- What a thread is told to do. -/
inductive Turn where
  /-- Begin an `AddFirmware`. -/
  | add (ctx : AddContext) (F : Firmware)
  /-- Begin a request to change a firmware. -/
  | put (now : UInt64) (email uuid : String) (edit : FirmwareEdit)
  /-- Execute the next statement. -/
  | next

/-- A request that has been answered with success. -/
inductive Answer where
  | added (F : Firmware)
  | changed (uuid : String) (change : Change)
  deriving DecidableEq, Repr

/-- The catalogue, and the requests answered with success so far. -/
structure Served where
  catalogue : Catalogue
  answers : List Answer := []

/-- One statement or locked operation of a thread; a turn that does not fit its phase changes nothing. -/
@[grind =]
def act (type : DBType) : Phase → Served → Turn → Phase × Served
  | .idle, s, .add ctx F =>
    let F := { F with id := ctx.uuid }
    let (added, cache) :=
      s.catalogue.latestFirmwareCache.addToCache F.deviceType F.revision F.id F.imageDate
    let s := { s with catalogue.latestFirmwareCache := cache }
    if added then (.selecting ctx { F with latest := true }, s)
    else (.clearing ctx { F with latest := false } [], s)
  | .idle, s, .put now email uuid edit =>
    if uuid = "" then (.idle, s)
    else
      match getFirmware s.catalogue uuid with
      | none => (.idle, s)
      | some F => if !edit.wellFormed then (.idle, s) else (.writing uuid F (edit.change now email), s)
  | .selecting ctx F, s, .next =>
    match Orm.getRecords type s.catalogue.firmwares 0 200 (latestClause F.deviceType) with
    | some Fs => (.clearing ctx F Fs, s)
    | none => (.clearing ctx F [], s)
  | .clearing ctx F (row :: rest), s, .next =>
    (.clearing ctx F rest,
      { s with catalogue.firmwares := clearLatest s.catalogue.firmwares row })
  | .clearing ctx F [], s, .next =>
    let (created, firmwares) := Orm.createRecord ctx.executed s.catalogue.firmwares F
    (.idle, {
      catalogue := { s.catalogue with firmwares }
      answers := if created then s.answers ++ [.added F] else s.answers })
  | .writing uuid F change, s, .next =>
    let (updated, catalogue) := updateFirmware s.catalogue uuid (change.apply F)
    (.idle, {
      catalogue := catalogue
      answers := if updated then s.answers ++ [.changed uuid change] else s.answers })
  | phase, s, _ => (phase, s)

/-- Threads over the catalogue. -/
abbrev System (ι : Type) := Interleaving ι Served Phase

/--
A turn of a thread that overwrites only what the thread has seen.

A row is written as a whole only while the table still holds it as the thread has read it.
-/
def Seen : Phase → Served → Turn → Prop
  | .clearing _ _ (row :: _), s, .next => row ∈ s.catalogue.firmwares.rows
  | .writing _ F _, s, .next => F ∈ s.catalogue.firmwares.rows
  | _, _, _ => True

/-- No turn writes a row from a copy that has become stale. -/
def NotStale {ι : Type} (s : System ι) (turn : ι × Turn) : Prop :=
  Seen (s.threads turn.1) s.shared turn.2

/-- No change of a firmware is written from a copy that has become stale. -/
def PutNotStale {ι : Type} (s : System ι) (turn : ι × Turn) : Prop :=
  match s.threads turn.1, turn.2 with
  | .writing _ F _, .next => F ∈ s.shared.catalogue.firmwares.rows
  | _, _ => True

/-- The type an addition has looked for the flagged rows of, until its record is inserted. -/
def Phase.pendingType : Phase → Option String
  | .clearing _ F _ => some F.deviceType
  | _ => none

/--
An addition that does not overlap another one of its type.

It looks for the flagged rows while no other addition is between its own look and its insertion. The
device type is plain, since the clause that finds the rows quotes it unescaped.
-/
def SelectsAlone {ι : Type} (type : DBType) (s : System ι) (turn : ι × Turn) : Prop :=
  match s.threads turn.1, turn.2 with
  | .selecting _ F, .next => Sql.Plain type.dialect F.deviceType ∧
    ∀ other, (s.threads other).pendingType ≠ some F.deviceType
  | _, _ => True

/-- The fields of a row that no operation changes. -/
def settled (F : Firmware) : Firmware :=
  { F with latest := false, description := "", notes := [] }

/-- Every acknowledged insertion is present, up to its flag, its description and its notes. -/
def InsertionsPresent (s : Served) : Prop :=
  ∀ F, .added F ∈ s.answers → settled F ∈ s.catalogue.firmwares.rows.map settled

/-- The description an answer has left in a firmware. -/
def describes (uuid : String) : Answer → Option String
  | .changed id change => if id = uuid then change.description else none
  | .added _ => none

/--
Every acknowledged change is present.

Its notes are, and so is the description of the last change of a firmware that had one.
-/
def ChangesPresent (s : Served) : Prop :=
  (∀ uuid change, .changed uuid change ∈ s.answers →
      ∃ row ∈ s.catalogue.firmwares.rows, row.id = uuid ∧ ∀ note ∈ change.notes, note ∈ row.notes) ∧
    ∀ uuid description, (s.answers.filterMap (describes uuid)).getLast? = some description →
      ∃ row ∈ s.catalogue.firmwares.rows, row.id = uuid ∧ row.description = description

instance (p : Phase) (s : Served) (turn : Turn) : Decidable (Seen p s turn) := by
  unfold Seen
  split <;> infer_instance

instance {ι : Type} (s : System ι) (turn : ι × Turn) : Decidable (NotStale s turn) :=
  inferInstanceAs (Decidable (Seen _ _ _))

instance {ι : Type} (s : System ι) (turn : ι × Turn) : Decidable (PutNotStale s turn) := by
  unfold PutNotStale
  split <;> infer_instance

/-- No type has two flagged rows. -/
def FlagsUnique (s : Served) : Prop :=
  ∀ t, (flaggedOfType s.catalogue.firmwares.rows t).length ≤ 1

/-- A thread that has read a row addresses it by its id. -/
def Addressed : Phase → Prop
  | .writing uuid F _ => F.id = uuid
  | _ => True

/-- Everything a turn can do, to the thread and to what is served. -/
inductive Does (type : DBType) : Phase → Served → Turn → Phase → Served → Prop where
  /-- The turn does not fit, the request is refused, or the insertion fails. -/
  | quiet {p p' : Phase} {s : Served} {turn : Turn} (rests : p' = p ∨ p' = .idle) :
    Does type p s turn p' s
  | began {s : Served} {ctx : AddContext} {F F' : Firmware} (cache : LatestFirmwareCache) :
    Does type .idle s (.add ctx F) (.selecting ctx F')
      { s with catalogue.latestFirmwareCache := cache }
  | read {s : Served} {now : UInt64} {email uuid : String} {edit : FirmwareEdit} {F : Firmware}
      (change : Change) (named : F.id = uuid) (stored : F ∈ s.catalogue.firmwares.rows) :
    Does type .idle s (.put now email uuid edit) (.writing uuid F change) s
  | selected {s : Served} {ctx : AddContext} {F : Firmware} :
    Does type (.selecting ctx F) s .next
      (.clearing ctx F (superseded type s.catalogue F.deviceType)) s
  | cleared {s : Served} {ctx : AddContext} {F row : Firmware} {rest : List Firmware} :
    Does type (.clearing ctx F (row :: rest)) s .next (.clearing ctx F rest)
      { s with catalogue.firmwares := s.catalogue.firmwares.replace { row with latest := false } }
  | created {s : Served} {ctx : AddContext} {F : Firmware} (grown : FirmwaresTable)
      (rows : grown.rows = s.catalogue.firmwares.rows ++ [F]) :
    Does type (.clearing ctx F []) s .next .idle
      { catalogue := { s.catalogue with firmwares := grown }
        answers := s.answers ++ [.added F] }
  | written {s : Served} {F : Firmware} {change : Change} :
    Does type (.writing F.id F change) s .next .idle
      { catalogue :=
          { s.catalogue with firmwares := s.catalogue.firmwares.replace (change.apply F) }
        answers := s.answers ++ [.changed F.id change] }

variable {type : DBType}

/-- The thread that looks for the flagged rows of a type finds the ones an addition reads. -/
theorem act_selecting (type : DBType) (ctx : AddContext) (F : Firmware) (s : Served) :
    act type (.selecting ctx F) s .next =
      (.clearing ctx F (superseded type s.catalogue F.deviceType), s) := by
  -- A select statement that throws leaves nothing to unflag, like one that finds no row.
  simp only [act, superseded]
  cases Orm.getRecords type s.catalogue.firmwares 0 200 (latestClause F.deviceType) <;> rfl

/-- A turn does one of these things. -/
theorem act_does (type : DBType) {p : Phase} (addressed : Addressed p) (s : Served) (turn : Turn) :
    Does type p s turn (act type p s turn).1 (act type p s turn).2 := by
  -- A turn is read in the phase of its thread.
  cases p with
  | idle =>
    cases turn with
    | add ctx F =>
      -- The cache accepts every addition.
      simp only [act, LatestFirmwareCache.addToCache_fst, if_true]
      exact .began _
    | put now email uuid edit =>
      simp only [act]
      split
      · exact .quiet (Or.inl rfl)
      · cases found : getFirmware s.catalogue uuid with
        | none => exact .quiet (Or.inl rfl)
        | some F =>
          -- The row is found by its id, so the thread addresses it by the same one.
          obtain ⟨stored, named⟩ := KeyedTable.lookup_eq_some.mp found
          simp only
          split
          · exact .quiet (Or.inl rfl)
          · exact .read _ named stored
    | next => exact .quiet (Or.inl rfl)
  | selecting ctx F =>
    cases turn with
    | next =>
      rw [act_selecting]
      exact .selected
    | _ => exact .quiet (Or.inl rfl)
  | clearing ctx F rest =>
    cases turn with
    | next =>
      cases rest with
      | cons row rest =>
        have write := Orm.updateRecord_key s.catalogue.firmwares { row with latest := false }
        rw [firmwaresSchema_key] at write
        simp only [act, clearLatest, write]
        exact .cleared
      | nil =>
        simp only [act]
        -- A refused insertion is not answered with success.
        rcases Orm.createRecord_cases ctx.executed s.catalogue.firmwares F with
          ⟨done, rows, _⟩ | refused
        · rw [done]
          exact .created _ rows
        · rw [refused]
          exact .quiet (Or.inr rfl)
    | _ => cases rest <;> exact .quiet (Or.inl rfl)
  | writing uuid F change =>
    cases turn with
    | next =>
      have named : F.id = uuid := addressed
      -- The row is written back under the id it was read by.
      subst named
      have write := updateFirmware_id s.catalogue (change.apply F)
      have same : (change.apply F).id = F.id := rfl
      rw [same] at write
      simp only [act, write, if_true]
      exact .written
    | _ => exact .quiet (Or.inl rfl)

/-- Without interruption, an addition unflags the rest of its rows and inserts its record. -/
theorem alone_clearing (type : DBType) (ctx : AddContext) (F : Firmware) (rest : List Firmware)
    (s : Served) :
    Interleaving.alone (act type) (.clearing ctx F rest, s)
        (List.replicate (rest.length + 1) .next) =
      (.idle, {
        catalogue := { s.catalogue with
          firmwares := (Orm.createRecord ctx.executed
            (rest.foldl clearLatest s.catalogue.firmwares) F).2 }
        answers := if (Orm.createRecord ctx.executed
            (rest.foldl clearLatest s.catalogue.firmwares) F).1 then s.answers ++ [.added F]
          else s.answers }) := by
  -- Every turn takes one row from the rest, and the last one inserts the record.
  induction rest generalizing s with
  | nil => rfl
  | cons row rest ih => exact ih _

/-- Without interruption, the statements of an addition do what the addition does. -/
theorem alone_add (type : DBType) (ctx : AddContext) (F : Firmware) (s : Served) :
    let outcome := addFirmware type ctx s.catalogue F
    Interleaving.alone (act type) (.idle, s) (.add ctx F :: .next ::
        List.replicate ((superseded type s.catalogue F.deviceType).length + 1) .next) =
      (.idle, {
        catalogue := outcome.2.2
        answers := if outcome.1 then s.answers ++ [.added outcome.2.1] else s.answers }) := by
  intro outcome
  have added : act type .idle s (.add ctx F) = (.selecting ctx (stored ctx F),
      { s with catalogue.latestFirmwareCache :=
          s.catalogue.latestFirmwareCache.add (addition (stored ctx F)) }) := by
    simp only [act, LatestFirmwareCache.addToCache_fst, if_true]
    rfl
  -- The sequential addition reads the same rows after the same change of the cache.
  have outcome_eq : outcome = _ := addFirmware_eq type ctx s.catalogue F
  rw [Interleaving.alone_cons, added, Interleaving.alone_cons, act_selecting, outcome_eq]
  exact alone_clearing type ctx (stored ctx F) (superseded type s.catalogue F.deviceType) _

/-- Without interruption, the statements of a change do what the request does. -/
theorem alone_put (type : DBType) (now : UInt64) (email uuid : String) (edit : FirmwareEdit)
    (s : Served) :
    (Interleaving.alone (act type) (.idle, s) [.put now email uuid edit, .next]).1 = .idle ∧
      (Interleaving.alone (act type) (.idle, s) [.put now email uuid edit, .next]).2.catalogue =
        doPut now email s.catalogue uuid edit := by
  -- The statement that reads the row decides how the request is answered.
  simp only [Interleaving.alone, List.foldl_cons, List.foldl_nil, act, doPut]
  by_cases unnamed : uuid = ""
  · simp only [if_pos unnamed, and_self]
  · simp only [if_neg unnamed]
    cases getFirmware s.catalogue uuid with
    | none => exact ⟨rfl, rfl⟩
    | some F => cases edit.wellFormed <;> exact ⟨rfl, rfl⟩

/-- Enough turns in a row take an idle thread through an addition, and two take it through a change. -/
theorem catalogue_uninterrupted {ι : Type} [DecidableEq ι] {threads : System ι} {thread : ι}
    (idle : threads.threads thread = .idle) (type : DBType) (ctx : AddContext) (F : Firmware)
    (now : UInt64) (email uuid : String) (edit : FirmwareEdit) :
    (((.add ctx F :: .next :: List.replicate
          ((superseded type threads.shared.catalogue F.deviceType).length + 1) .next).map
        fun input => (thread, input)).foldl (Interleaving.step (act type)) threads).shared.catalogue =
        (addFirmware type ctx threads.shared.catalogue F).2.2 ∧
      (([.put now email uuid edit, .next].map fun input => (thread, input)).foldl
        (Interleaving.step (act type)) threads).shared.catalogue =
          doPut now email threads.shared.catalogue uuid edit := by
  -- Turns of one thread only are that thread on its own.
  constructor
  · rw [(Interleaving.uninterrupted threads thread _).1, idle, alone_add]
  · rw [(Interleaving.uninterrupted threads thread _).1, idle]
    exact (alone_put type now email uuid edit threads.shared).2

variable {ι : Type} [DecidableEq ι] {p p' : Phase} {s s' : Served} {turn : Turn}

/-- What every turn keeps, of the thread itself and of the others, holds after a step of the threads. -/
theorem holds_of_does {invariant : Served → Prop} {assertion : Phase → Served → Prop}
    {apart : Phase → Phase → Prop} {threads : System ι} {turn : ι × Turn}
    (holds : Interleaving.Holds invariant assertion apart threads)
    (addressed : Addressed (threads.threads turn.1))
    (own : ∀ {p' s'}, Does type (threads.threads turn.1) threads.shared turn.2 p' s' →
      invariant s' ∧ assertion p' s')
    (stable : ∀ {p' s'}, Does type (threads.threads turn.1) threads.shared turn.2 p' s' →
      ∀ other, other ≠ turn.1 → assertion (threads.threads other) threads.shared →
        assertion (threads.threads other) s')
    (separate : ∀ {p' s'}, Does type (threads.threads turn.1) threads.shared turn.2 p' s' →
      ∀ other, other ≠ turn.1 →
        apart p' (threads.threads other) ∧ apart (threads.threads other) p') :
    Interleaving.Holds invariant assertion apart (Interleaving.step (act type) threads turn) := by
  -- What the turn does has been listed once, so the rule for a step applies to the list.
  have does := act_does type addressed threads.shared turn.2
  exact Interleaving.Holds.step holds (own does) (stable does) (separate does)

/-- The rows a thread holds copies of are stored, up to their flags, descriptions and notes. -/
def Known : Phase → Served → Prop
  | .clearing _ _ rest, s =>
    ∀ row ∈ rest, settled row ∈ s.catalogue.firmwares.rows.map settled
  | .writing uuid F _, s => F.id = uuid ∧ settled F ∈ s.catalogue.firmwares.rows.map settled
  | _, _ => True

/-- A thread that knows its rows addresses them. -/
theorem Known.addressed (known : Known p s) : Addressed p := by
  cases p with
  | writing uuid F change => exact known.1
  | _ => trivial

/-- Writing a known row changes no settled field. -/
theorem settled_replace {t : FirmwaresTable} {F G : Firmware}
    (known : settled F ∈ t.rows.map settled) (same : settled G = settled F) :
    (t.replace G).rows.map settled = t.rows.map settled := by
  obtain ⟨old, stored, alike⟩ := List.mem_map.mp known
  rw [KeyedTable.replace, List.map_map]
  refine List.map_congr_left fun row present => ?_
  -- Writing changes the row with the id of the new one, and no other.
  by_cases addressed : firmwaresSchema.key row = firmwaresSchema.key G
  · -- The id names one row only, so the known row is the one written over.
    have ids := congrArg Firmware.id (alike.trans same.symm)
    have one : row = old := KeyedTable.eq_of_key present stored (addressed.trans ids.symm)
    simp only [Function.comp, if_pos addressed]
    rw [same, one, alike]
  · simp only [Function.comp, if_neg addressed]

/-- The settled fields of the stored rows only grow. -/
theorem settled_grow (does : Does type p s turn p' s') (known : Known p s) :
    ∃ new, s'.catalogue.firmwares.rows.map settled =
      s.catalogue.firmwares.rows.map settled ++ new := by
  -- Only an insertion adds a row, and the two kinds of writes keep the settled fields.
  cases does with
  | quiet | began | read | selected => exact ⟨[], (List.append_nil _).symm⟩
  | @cleared _ ctx F row rest =>
    have unchanged := settled_replace (G := { row with latest := false })
      (known row (List.mem_cons_self ..)) rfl
    exact ⟨[], by rw [List.append_nil]; exact unchanged⟩
  | @created _ ctx F grown rows =>
    exact ⟨[settled F], by rw [rows, List.map_append, List.map_singleton]⟩
  | @written _ F change =>
    have unchanged := settled_replace (G := change.apply F) known.2 rfl
    exact ⟨[], by rw [List.append_nil]; exact unchanged⟩

/-- What a thread knows stays known. -/
theorem known_of_grow {q : Phase} {new : List Firmware}
    (grown : s'.catalogue.firmwares.rows.map settled =
      s.catalogue.firmwares.rows.map settled ++ new) (known : Known q s) : Known q s' := by
  -- A longer list still contains what a thread has read from the shorter one.
  cases q with
  | clearing ctx F rest =>
    intro row member
    rw [grown]
    exact List.mem_append_left _ (known row member)
  | writing uuid F change =>
    refine ⟨known.1, ?_⟩
    rw [grown]
    exact List.mem_append_left _ known.2
  | _ => trivial

/-- After its turn a thread knows the rows it holds copies of. -/
theorem known_after (does : Does type p s turn p' s') (known : Known p s) : Known p' s' := by
  obtain ⟨new, grown⟩ := settled_grow does known
  -- Two turns read rows, which are stored when they are read.
  cases does with
  | quiet rests =>
    rcases rests with rfl | rfl
    · exact known
    · trivial
  | began | created | written => trivial
  | read change named stored => exact ⟨named, List.mem_map_of_mem stored⟩
  | @selected _ ctx F =>
    intro row member
    exact List.mem_map_of_mem ((superseded_sublist type s.catalogue F.deviceType).subset member)
  | @cleared _ ctx F row rest =>
    have tail : Known (.clearing ctx F rest) s :=
      fun later member => known later (List.mem_cons_of_mem _ member)
    exact known_of_grow grown tail

/-- A turn loses no acknowledged insertion. -/
theorem insertionsPresent_after (does : Does type p s turn p' s') (known : Known p s)
    (present : InsertionsPresent s) : InsertionsPresent s' := by
  obtain ⟨new, grown⟩ := settled_grow does known
  have kept : ∀ F, .added F ∈ s.answers → settled F ∈ s'.catalogue.firmwares.rows.map settled := by
    intro F acknowledged
    rw [grown]
    exact List.mem_append_left _ (present F acknowledged)
  -- An answer is either an old one or the one this turn has given.
  cases does with
  | quiet | began | read | selected | cleared => exact kept
  | created table rows =>
    intro G acknowledged
    rcases List.mem_append.mp acknowledged with before | now
    · exact kept G before
    · -- The answer just given is about the row just inserted.
      cases List.mem_singleton.mp now
      rw [rows]
      exact List.mem_map_of_mem (List.mem_append_right _ (List.mem_singleton.mpr rfl))
  | written =>
    intro G acknowledged
    rcases List.mem_append.mp acknowledged with before | now
    · exact kept G before
    · exact absurd (List.mem_singleton.mp now) (by simp)

/-- Writing over a stored row keeps the others, and puts the new row in its place. -/
theorem mem_replace_of_seen {t : FirmwaresTable} {F G : Firmware} (seen : F ∈ t.rows)
    (same : G.id = F.id) {row : Firmware} :
    row ∈ (t.replace G).rows ↔ row ∈ t.rows ∧ row ≠ F ∨ row = G := by
  rw [KeyedTable.mem_replace]
  have addressed : firmwaresSchema.key G ∈ t.rows.map firmwaresSchema.key :=
    List.mem_map.mpr ⟨F, seen, same.symm⟩
  have other (present : row ∈ t.rows) : firmwaresSchema.key row ≠ firmwaresSchema.key G ↔ row ≠ F := by
    -- The id of the row written over is its own, so it alone is left out.
    constructor
    · rintro apart rfl
      exact apart same.symm
    · intro apart alike
      exact apart (KeyedTable.eq_of_key present seen (alike.trans same))
  constructor
  · rintro (⟨present, apart⟩ | ⟨alike, _⟩)
    · exact Or.inl ⟨present, (other present).mp apart⟩
    · exact Or.inr alike
  · rintro (⟨present, apart⟩ | alike)
    · exact Or.inl ⟨present, (other present).mpr apart⟩
    · exact Or.inr ⟨alike, addressed⟩

/-- A property of the row with an id survives a write that keeps it for the row written over. -/
theorem exists_of_replace {t : FirmwaresTable} {F G : Firmware} (seen : F ∈ t.rows)
    (same : G.id = F.id) {uuid : String} {property : Firmware → Prop}
    (kept : F.id = uuid → property F → property G)
    (before : ∃ row ∈ t.rows, row.id = uuid ∧ property row) :
    ∃ row ∈ (t.replace G).rows, row.id = uuid ∧ property row := by
  obtain ⟨row, stored, named, holds⟩ := before
  -- The row with the id is the one written over, or it is untouched.
  by_cases replaced : row = F
  · subst replaced
    exact ⟨G, (mem_replace_of_seen seen same).mpr (Or.inr rfl), same.trans named, kept named holds⟩
  · exact ⟨row, (mem_replace_of_seen seen same).mpr (Or.inl ⟨stored, replaced⟩), named, holds⟩

/-- After its turn a thread addresses the row it has read by its id. -/
theorem addressed_after (does : Does type p s turn p' s') (addressed : Addressed p) :
    Addressed p' := by
  -- Only the reading of a row begins to address one.
  cases does with
  | quiet rests =>
    rcases rests with rfl | rfl
    · exact addressed
    · trivial
  | read change named stored => exact named
  | _ => trivial

/-- A turn that overwrites only what it has seen loses no acknowledged change. -/
theorem changesPresent_after (does : Does type p s turn p' s') (seen : Seen p s turn)
    (present : ChangesPresent s) : ChangesPresent s' := by
  obtain ⟨notes, descriptions⟩ := present
  -- A write is harmless where it starts from the stored row and keeps what has been acknowledged.
  cases does with
  | quiet | began | read | selected => exact ⟨notes, descriptions⟩
  | @cleared _ ctx F row rest =>
    -- Taking the flag from a row keeps its notes and its description.
    refine ⟨fun uuid change acknowledged => ?_, fun uuid description last => ?_⟩
    · exact exists_of_replace (G := { row with latest := false }) seen rfl (fun _ holds => holds)
        (notes uuid change acknowledged)
    · exact exists_of_replace (G := { row with latest := false }) seen rfl (fun _ holds => holds)
        (descriptions uuid description last)
  | @created _ ctx F grown rows =>
    refine ⟨fun uuid change acknowledged => ?_, fun uuid description last => ?_⟩
    · -- An inserted row stands behind the old ones.
      obtain ⟨row, stored, holds⟩ := notes uuid change (by simpa using acknowledged)
      exact ⟨row, by rw [rows]; exact List.mem_append_left _ stored, holds⟩
    · obtain ⟨row, stored, holds⟩ := descriptions uuid description (by simpa [describes] using last)
      exact ⟨row, by rw [rows]; exact List.mem_append_left _ stored, holds⟩
  | @written _ F change =>
    have write {row : Firmware} : row ∈ (s.catalogue.firmwares.replace (change.apply F)).rows ↔
        row ∈ s.catalogue.firmwares.rows ∧ row ≠ F ∨ row = change.apply F :=
      mem_replace_of_seen (G := change.apply F) seen rfl
    refine ⟨fun uuid asked acknowledged => ?_, fun uuid description last => ?_⟩
    · -- The notes of an older change are in the row that was read.
      rcases List.mem_append.mp acknowledged with before | now
      · refine exists_of_replace (G := change.apply F) seen rfl (fun _ holds note member => ?_)
          (notes uuid asked before)
        exact List.mem_append_left _ (holds note member)
      · -- The notes just acknowledged are at the end of the row just written.
        obtain ⟨rfl, rfl⟩ := Answer.changed.inj (List.mem_singleton.mp now)
        exact ⟨asked.apply F, write.mpr (Or.inr rfl), rfl, fun note member =>
          List.mem_append_right _ member⟩
    · simp only [List.filterMap_append, List.filterMap_cons, List.filterMap_nil, describes] at last
      -- The last description of a firmware may be the one this turn has written.
      by_cases own : F.id = uuid
      · cases asked : change.description with
        | none =>
          simp only [own, if_true, asked, List.append_nil] at last
          refine exists_of_replace (G := change.apply F) seen rfl (fun _ holds => ?_)
            (descriptions uuid description last)
          simp only [Change.apply, asked, Option.getD_none]
          exact holds
        | some text =>
          simp only [own, if_true, asked, List.getLast?_append, List.getLast?_singleton,
            Option.some_or, Option.some.injEq] at last
          refine ⟨change.apply F, write.mpr (Or.inr rfl), own, ?_⟩
          simp only [Change.apply, asked, Option.getD_some]
          exact last
      · simp only [own, if_false, List.append_nil] at last
        exact exists_of_replace (G := change.apply F) seen rfl (fun same => absurd same own)
          (descriptions uuid description last)

/-- Two flagged rows of one type are one row. -/
def FlagsAlone (s : Served) : Prop :=
  ∀ left ∈ s.catalogue.firmwares.rows, ∀ right ∈ s.catalogue.firmwares.rows,
    left.latest = true → right.latest = true → left.deviceType = right.deviceType → left = right

/-- A type has at most one flagged row exactly when two of them are one row. -/
theorem flagsUnique_iff (s : Served) : FlagsUnique s ↔ FlagsAlone s := by
  have member {t : String} {row : Firmware} : row ∈ flaggedOfType s.catalogue.firmwares.rows t ↔
      row ∈ s.catalogue.firmwares.rows ∧ row.deviceType = t ∧ row.latest = true := by
    simp only [flaggedOfType, List.mem_filter, Bool.and_eq_true, decide_eq_true_eq]
  constructor
  · intro unique left inLeft right inRight flaggedLeft flaggedRight same
    -- Both rows are in the list of the flagged rows of their type, which has one entry.
    have few := unique right.deviceType
    have first := member.mpr ⟨inLeft, same, flaggedLeft⟩
    have second := member.mpr ⟨inRight, rfl, flaggedRight⟩
    cases flagged : flaggedOfType s.catalogue.firmwares.rows right.deviceType with
    | nil =>
      rw [flagged] at first
      exact absurd first List.not_mem_nil
    | cons only rest =>
      rw [flagged] at few first second
      have none_ : rest = [] := by simpa using few
      rw [none_] at first second
      exact (List.mem_singleton.mp first).trans (List.mem_singleton.mp second).symm
  · intro alone t
    by_contra many
    -- Two entries of the list would be one row, but no row is listed twice.
    have once : (flaggedOfType s.catalogue.firmwares.rows t).Nodup :=
      List.Nodup.of_map Firmware.id
        ((List.filter_sublist.map Firmware.id).nodup s.catalogue.firmwares.distinct)
    cases flagged : flaggedOfType s.catalogue.firmwares.rows t with
    | nil => simp [flagged] at many
    | cons left rest =>
      cases rest with
      | nil => simp [flagged] at many
      | cons right rest =>
        rw [flagged] at once
        obtain ⟨inLeft, typeLeft, flagLeft⟩ := member.mp (by rw [flagged]; simp : left ∈ _)
        obtain ⟨inRight, typeRight, flagRight⟩ := member.mp (by rw [flagged]; simp : right ∈ _)
        have one := alone left inLeft right inRight flagLeft flagRight
          (typeLeft.trans typeRight.symm)
        rw [one] at once
        exact absurd once (by simp)

/--
What a thread may rely on while it adds a firmware.

The flagged rows of its type are among the rows it has still to unflag.
-/
def Covers : Phase → Served → Prop
  | .clearing _ F rest, s => ∀ row ∈ s.catalogue.firmwares.rows, row.latest = true →
    row.deviceType = F.deviceType → row.id ∈ rest.map Firmware.id
  | .writing uuid F _, _ => F.id = uuid
  | _, _ => True

/-- A thread that covers its type addresses its rows. -/
theorem Covers.addressed (covers : Covers p s) : Addressed p := by
  cases p with
  | writing uuid F change => exact covers
  | _ => trivial

/-- Two additions that have looked for the flagged rows are of different types. -/
def Separate (p q : Phase) : Prop :=
  ∀ t, p.pendingType = some t → q.pendingType ≠ some t

/-- A flagged row after a turn was flagged before, at the same place and of the same type, or was inserted. -/
theorem flagged_after (does : Does type p s turn p' s')
    (seen : ∀ uuid F change, p = .writing uuid F change → turn = .next →
      F ∈ s.catalogue.firmwares.rows) {row : Firmware}
    (stored : row ∈ s'.catalogue.firmwares.rows) (flagged : row.latest = true) :
    (∃ before ∈ s.catalogue.firmwares.rows, before.id = row.id ∧ before.latest = true ∧
        before.deviceType = row.deviceType) ∨
      ∃ ctx F, p = .clearing ctx F [] ∧ row = F := by
  -- Writing a row never sets a flag that the stored row did not have.
  cases does with
  | quiet | began | read | selected => exact Or.inl ⟨row, stored, rfl, flagged, rfl⟩
  | cleared =>
    rcases KeyedTable.mem_replace.mp stored with ⟨before, _⟩ | ⟨rfl, _⟩
    · exact Or.inl ⟨row, before, rfl, flagged, rfl⟩
    · contradiction
  | @created _ ctx F grown rows =>
    rw [rows] at stored
    rcases List.mem_append.mp stored with before | now
    · exact Or.inl ⟨row, before, rfl, flagged, rfl⟩
    · exact Or.inr ⟨ctx, F, rfl, List.mem_singleton.mp now⟩
  | @written _ F change =>
    rcases KeyedTable.mem_replace.mp stored with ⟨before, _⟩ | ⟨rfl, _⟩
    · exact Or.inl ⟨row, before, rfl, flagged, rfl⟩
    · exact Or.inl ⟨F, seen F.id F change rfl rfl, rfl, flagged, rfl⟩

/-- A turn makes no second row of a type flagged. -/
theorem flagsAlone_after (does : Does type p s turn p' s')
    (seen : ∀ uuid F change, p = .writing uuid F change → turn = .next →
      F ∈ s.catalogue.firmwares.rows)
    (covers : Covers p s) (alone : FlagsAlone s) : FlagsAlone s' := by
  intro left inLeft right inRight flaggedLeft flaggedRight same
  -- The inserted row is alone, since no row of its type was flagged any more.
  have empty {ctx : AddContext} {F : Firmware} (point : p = .clearing ctx F [])
      {row : Firmware} (stored : row ∈ s.catalogue.firmwares.rows) (flagged : row.latest = true) :
      row.deviceType ≠ F.deviceType := by
    intro ofType
    subst point
    exact absurd (covers row stored flagged ofType) List.not_mem_nil
  -- Two rows flagged before were one row before, and an inserted one met no other.
  rcases flagged_after does seen inLeft flaggedLeft with
    ⟨before, stored, named, flagged, typed⟩ | ⟨ctx, F, point, rfl⟩
  · rcases flagged_after does seen inRight flaggedRight with
      ⟨other, stored', named', flagged', typed'⟩ | ⟨ctx, F, point, rfl⟩
    · have one := alone before stored other stored' flagged flagged'
        (typed.trans (same.trans typed'.symm))
      exact KeyedTable.eq_of_key inLeft inRight (named.symm.trans (one ▸ named'))
    · exact absurd (typed.trans same) (empty point stored flagged)
  · rcases flagged_after does seen inRight flaggedRight with
      ⟨other, stored', _, flagged', typed'⟩ | ⟨ctx', F', point', rfl⟩
    · exact absurd (typed'.trans same.symm) (empty point stored' flagged')
    · rw [point] at point'
      cases point'
      rfl

/-- A turn leaves the flagged rows of another addition among those it has still to unflag. -/
theorem covers_stable (does : Does type p s turn p' s')
    (seen : ∀ uuid F change, p = .writing uuid F change → turn = .next →
      F ∈ s.catalogue.firmwares.rows) {q : Phase}
    (apart : Separate p q) (covers : Covers q s) : Covers q s' := by
  -- The flag of another type's record is no flag of this type.
  cases q with
  | clearing ctx N rest =>
    intro row stored flagged ofType
    rcases flagged_after does seen stored flagged with
      ⟨before, inTable, named, wasFlagged, typed⟩ | ⟨_, F, point, rfl⟩
    · exact named ▸ covers before inTable wasFlagged (typed.trans ofType)
    · subst point
      exact absurd (congrArg some ofType.symm) (apart _ rfl)
  | writing uuid F change => exact covers
  | _ => trivial

/-- After its turn an addition still covers the flagged rows of its type. -/
theorem covers_after (does : Does type p s turn p' s') (covers : Covers p s) (alone : FlagsAlone s)
    (plain : ∀ ctx F, p = .selecting ctx F → turn = .next → Sql.Plain type.dialect F.deviceType) :
    Covers p' s' := by
  cases does with
  | quiet rests =>
    rcases rests with rfl | rfl
    · exact covers
    · trivial
  | began | created | written => trivial
  | read change named stored => exact named
  | @selected _ ctx F =>
    intro row stored flagged ofType
    -- With a plain type, the rows read are all the flagged rows of the type.
    rw [superseded_eq (plain ctx F rfl rfl) ((flagsUnique_iff s).mpr alone F.deviceType)]
    refine List.mem_map_of_mem ?_
    simp only [flaggedOfType, List.mem_filter, Bool.and_eq_true, decide_eq_true_eq]
    exact ⟨stored, ofType, flagged⟩
  | @cleared _ ctx F old rest =>
    intro row stored flagged ofType
    -- The row just written has no flag, so what is still flagged is among the rest.
    rcases KeyedTable.mem_replace.mp stored with ⟨before, another⟩ | ⟨rfl, _⟩
    · have read := covers row before flagged ofType
      rw [List.map_cons, List.mem_cons] at read
      rcases read with first | later
      · exact absurd first another
      · exact later
    · contradiction

/-- Being of different types is mutual. -/
theorem Separate.symm {q : Phase} (apart : Separate p q) : Separate q p :=
  fun t left right => apart t right left

/-- A turn leaves its thread apart from another one, unless it looks for rows of the other's type. -/
theorem separate_after (does : Does type p s turn p' s') {q : Phase} (apart : Separate p q)
    (admits : ∀ ctx F, p = .selecting ctx F → turn = .next →
      q.pendingType ≠ some F.deviceType) : Separate p' q := by
  -- Only the look for the flagged rows gives a thread a pending type.
  cases does with
  | quiet rests =>
    rcases rests with rfl | rfl
    · exact apart
    · exact fun t pending => nomatch pending
  | began | read | created | written => exact fun t pending => nomatch pending
  | @selected _ ctx F =>
    intro t pending
    cases pending
    exact admits ctx F rfl rfl
  | cleared => exact apart

variable {threads : System ι} {turns : List (ι × Turn)}

/-- Every interleaving keeps the acknowledged insertions. -/
theorem insertionsPresent_states (type : DBType) (c : Catalogue) (turns : List (ι × Turn)) :
    ∀ reached ∈ Transition.states (Interleaving.step (act type))
      (Interleaving.start ⟨c, []⟩ .idle) turns, InsertionsPresent reached.shared := by
  -- The assertion is that every thread knows the rows it holds copies of.
  have kept : ∀ (threads : System ι) (turn : ι × Turn),
      Interleaving.Holds InsertionsPresent Known (fun _ _ => True) threads → True →
      Interleaving.Holds InsertionsPresent Known (fun _ _ => True)
        (Interleaving.step (act type) threads turn) := by
    intro threads turn holds _
    have known := holds.assertion turn.1
    refine holds_of_does holds known.addressed ?_ ?_ fun _ _ _ => ⟨trivial, trivial⟩
    · intro p' s' does
      exact ⟨insertionsPresent_after does known holds.invariant, known_after does known⟩
    · intro p' s' does other _ knows
      obtain ⟨new, grown⟩ := settled_grow does known
      exact known_of_grow grown knows
  have start : Interleaving.Holds InsertionsPresent Known (fun _ _ => True)
      (Interleaving.start (ι := ι) ⟨c, []⟩ .idle) :=
    Interleaving.holds_start (fun F acknowledged => absurd acknowledged List.not_mem_nil) trivial
      trivial
  intro reached member
  exact (Interleaving.holds_along kept start
    (Transition.along_true _ _ _) reached member).invariant

/-- An interleaving without stale writes keeps the acknowledged changes. -/
theorem changesPresent_states (type : DBType) (c : Catalogue)
    (notStale : Transition.Along (Interleaving.step (act type)) NotStale
      (Interleaving.start ⟨c, []⟩ .idle) turns) :
    ∀ reached ∈ Transition.states (Interleaving.step (act type))
      (Interleaving.start ⟨c, []⟩ .idle) turns, ChangesPresent reached.shared := by
  -- The guard is about the thread itself, so the others need only address their rows.
  have kept : ∀ (threads : System ι) (turn : ι × Turn),
      Interleaving.Holds ChangesPresent (fun p _ => Addressed p) (fun _ _ => True) threads →
      NotStale threads turn →
      Interleaving.Holds ChangesPresent (fun p _ => Addressed p) (fun _ _ => True)
        (Interleaving.step (act type) threads turn) := by
    intro threads turn holds seen
    have addressed := holds.assertion turn.1
    refine holds_of_does holds addressed ?_ (fun _ _ _ own => own) fun _ _ _ => ⟨trivial, trivial⟩
    intro p' s' does
    exact ⟨changesPresent_after does seen holds.invariant, addressed_after does addressed⟩
  have initial : ChangesPresent ⟨c, []⟩ :=
    ⟨fun _ _ acknowledged => absurd acknowledged List.not_mem_nil, fun _ _ last => by simp at last⟩
  have start : Interleaving.Holds ChangesPresent (fun p _ => Addressed p) (fun _ _ => True)
      (Interleaving.start (ι := ι) ⟨c, []⟩ .idle) :=
    Interleaving.holds_start initial trivial trivial
  intro reached member
  exact (Interleaving.holds_along kept start notStale reached member).invariant

/-- An interleaving without stale changes and overlapping additions keeps the flags unique. -/
theorem flagsUnique_states (type : DBType) (c : Catalogue) (unique : FlagsUnique ⟨c, []⟩)
    (permitted : Transition.Along (Interleaving.step (act type))
      (fun threads turn => PutNotStale threads turn ∧ SelectsAlone type threads turn)
      (Interleaving.start ⟨c, []⟩ .idle) turns) :
    ∀ reached ∈ Transition.states (Interleaving.step (act type))
      (Interleaving.start ⟨c, []⟩ .idle) turns, FlagsUnique reached.shared := by
  -- The assertion is that an addition covers its type, which needs the others to be of another one.
  have kept : ∀ (threads : System ι) (turn : ι × Turn),
      Interleaving.Holds FlagsAlone Covers Separate threads →
      PutNotStale threads turn ∧ SelectsAlone type threads turn →
      Interleaving.Holds FlagsAlone Covers Separate
        (Interleaving.step (act type) threads turn) := by
    intro threads turn holds ⟨seen, selectsAlone⟩
    have covers := holds.assertion turn.1
    have looks : ∀ ctx F, threads.threads turn.1 = .selecting ctx F → turn.2 = .next →
        Sql.Plain type.dialect F.deviceType ∧
          ∀ other, (threads.threads other).pendingType ≠ some F.deviceType := by
      intro ctx F point input
      simpa only [SelectsAlone, point, input] using selectsAlone
    have fresh : ∀ uuid F change, threads.threads turn.1 = .writing uuid F change →
        turn.2 = .next → F ∈ threads.shared.catalogue.firmwares.rows := by
      intro uuid F change point input
      simpa only [PutNotStale, point, input] using seen
    -- The three parts: what the turn establishes, what it leaves alone, and what keeps them apart.
    refine holds_of_does holds covers.addressed ?_ ?_ ?_
    · intro p' s' does
      exact ⟨flagsAlone_after does fresh covers holds.invariant,
        covers_after does covers holds.invariant fun ctx F point input =>
          (looks ctx F point input).1⟩
    · intro p' s' does other apart own
      exact covers_stable does fresh (holds.apart _ _ (Ne.symm apart)) own
    · intro p' s' does other apart
      have separate := separate_after does (holds.apart _ _ (Ne.symm apart))
        fun ctx F point input => (looks ctx F point input).2 other
      exact ⟨separate, separate.symm⟩
  have start : Interleaving.Holds FlagsAlone Covers Separate
      (Interleaving.start (ι := ι) ⟨c, []⟩ .idle) :=
    Interleaving.holds_start ((flagsUnique_iff _).mp unique) trivial fun t pending => nomatch pending
  intro reached member
  exact (flagsUnique_iff reached.shared).mpr
    (Interleaving.holds_along kept start permitted reached member).invariant

/--
What an interleaving of additions and changes keeps, in all of its states.

Acknowledged insertions are always present. Acknowledged changes are when no row is written from a stale
copy. A type has at most one flagged row when no change is written from a stale copy and no addition
overlaps another one of its type.
-/
theorem catalogue_states (ι : Type) [DecidableEq ι] (type : DBType) (c : Catalogue)
    (unique : FlagsUnique ⟨c, []⟩) (turns : List (ι × Turn)) :
    (∀ reached ∈ Transition.states (Interleaving.step (act type))
        (Interleaving.start ⟨c, []⟩ .idle) turns, InsertionsPresent reached.shared) ∧
      (Transition.Along (Interleaving.step (act type)) NotStale
          (Interleaving.start ⟨c, []⟩ .idle) turns →
        ∀ reached ∈ Transition.states (Interleaving.step (act type))
          (Interleaving.start ⟨c, []⟩ .idle) turns, ChangesPresent reached.shared) ∧
      (Transition.Along (Interleaving.step (act type))
          (fun threads turn => PutNotStale threads turn ∧ SelectsAlone type threads turn)
          (Interleaving.start ⟨c, []⟩ .idle) turns →
        ∀ reached ∈ Transition.states (Interleaving.step (act type))
          (Interleaving.start ⟨c, []⟩ .idle) turns, FlagsUnique reached.shared) := by
  -- Each part is an invariant of its own, with its own assertion at the threads.
  refine ⟨insertionsPresent_states type c turns, fun notStale => ?_, fun permitted => ?_⟩
  · exact changesPresent_states type c notStale
  · exact flagsUnique_states type c unique permitted

/-- The manifest thread, and a thread that serves requests. -/
inductive Thread where
  | manifest | request
  deriving DecidableEq

/-- Whether a thread is between two requests. -/
def Phase.isIdle : Phase → Bool
  | .idle => true
  | _ => false

/-- A catalogue with one flagged row. -/
def oneFlagged : Catalogue where
  firmwares := .single { id := "a", deviceType := "edgecore_eap101", latest := true }

/-- A type has at most one flagged row in it. -/
theorem flagsUnique_oneFlagged : FlagsUnique ⟨oneFlagged, []⟩ := by
  -- There is one row, and it is equal to itself.
  refine (flagsUnique_iff _).mpr fun left inLeft right inRight _ _ _ => ?_
  exact (List.mem_singleton.mp inLeft).trans (List.mem_singleton.mp inRight).symm

/-- A description is changed before an addition reads the row. -/
def changeThenAdd : List (Thread × Turn) :=
  [(.request, .put 0 "" "a" { description := some "stable" }), (.request, .next),
    (.manifest, .add { uuid := "b" } { deviceType := "edgecore_eap101" }), (.manifest, .next),
    (.manifest, .next), (.manifest, .next)]

/-- Two additions of one type look for its flagged rows before either has inserted its record. -/
def twoAdditions : List (Thread × Turn) :=
  [(.manifest, .add { uuid := "b" } { deviceType := "edgecore_eap101" }),
    (.request, .add { uuid := "c" } { deviceType := "edgecore_eap101" }),
    (.manifest, .next), (.request, .next), (.manifest, .next), (.request, .next),
    (.manifest, .next), (.request, .next)]

/-- A description is changed after an addition has read the row, and before it writes it. -/
def changeAmidAddition : List (Thread × Turn) :=
  [(.manifest, .add { uuid := "b" } { deviceType := "edgecore_eap101" }), (.manifest, .next),
    (.request, .put 0 "" "a" { description := some "stable" }), (.request, .next),
    (.manifest, .next), (.manifest, .next)]

/-- What the requests of an interleaving wanted is there once all of them have been answered. -/
def Consistent (c : Catalogue) (turns : List (Thread × Turn)) : Prop :=
  ∀ reached ∈ Transition.states (Interleaving.step (act .sqlite))
      (Interleaving.start ⟨c, []⟩ .idle) turns,
    (∀ thread, (reached.threads thread).isIdle = true) →
      FlagsUnique reached.shared ∧ ChangesPresent reached.shared ∧ InsertionsPresent reached.shared

/-- What holds of both threads can be checked. -/
instance decidableForallThread (property : Thread → Prop) [decide_ : ∀ thread, Decidable (property thread)] :
    Decidable (∀ thread, property thread) :=
  decidable_of_iff (property .manifest ∧ property .request)
    ⟨fun both thread => by cases thread <;> simp [both], fun all => ⟨all _, all _⟩⟩

instance (type : DBType) (s : System Thread) (turn : Thread × Turn) :
    Decidable (SelectsAlone type s turn) := by
  unfold SelectsAlone
  split <;> infer_instance

/-- A change followed by an addition keeps both. -/
theorem consistent_changeThenAdd : Consistent oneFlagged changeThenAdd := by
  obtain ⟨insertions, changes, flags⟩ :=
    catalogue_states Thread .sqlite oneFlagged flagsUnique_oneFlagged changeThenAdd
  have notStale : Transition.Along (Interleaving.step (act .sqlite)) NotStale
      (Interleaving.start ⟨oneFlagged, []⟩ .idle) changeThenAdd := by decide +kernel
  have permitted : Transition.Along (Interleaving.step (act .sqlite))
      (fun threads turn => PutNotStale threads turn ∧ SelectsAlone .sqlite threads turn)
      (Interleaving.start ⟨oneFlagged, []⟩ .idle) changeThenAdd := by decide +kernel
  -- The guards are checked along the run, and the three parts apply to its states.
  intro reached member _
  exact ⟨flags permitted reached member, changes notStale reached member,
    insertions reached member⟩

/-- Two overlapping additions leave two flagged rows, and an addition undoes a change it has not seen. -/
theorem inconsistent_interleavings :
    ¬ Consistent oneFlagged twoAdditions ∧ ¬ Consistent oneFlagged changeAmidAddition := by
  constructor
  · intro consistent
    obtain ⟨unique, _⟩ := consistent _ (Transition.last_mem_states _ twoAdditions) (by decide +kernel)
    -- Both additions have inserted a flagged row.
    have two : (flaggedOfType (twoAdditions.foldl (Interleaving.step (act .sqlite))
        (Interleaving.start ⟨oneFlagged, []⟩ .idle)).shared.catalogue.firmwares.rows
          "edgecore_eap101").length = 2 := by decide +kernel
    have few := unique "edgecore_eap101"
    omega
  · intro consistent
    obtain ⟨_, changes, _⟩ :=
      consistent _ (Transition.last_mem_states _ changeAmidAddition) (by decide +kernel)
    -- The addition has written the row as it was before the change.
    have lost : ∀ row ∈ (changeAmidAddition.foldl (Interleaving.step (act .sqlite))
        (Interleaving.start ⟨oneFlagged, []⟩ .idle)).shared.catalogue.firmwares.rows,
        row.id = "a" → row.description ≠ "stable" := by decide +kernel
    obtain ⟨row, stored, named, described⟩ := changes.2 "a" "stable" (by decide +kernel)
    exact lost row stored named described

end Fms.FirmwaresDB
