import Fms.Catalogue.CacheCoherence
import Fms.Devices.DevicesDb
import Fms.Framework.Answers

/-! The requests that delete a row, and whether their answers say what has happened. -/

namespace Fms

namespace Orm

variable {ρ : Type} {schema : Schema ρ}

/-- `DeleteRecord` on the primary key, where the database may fail to execute the statement. -/
def attemptDeleteRecord (executed : Bool) (t : schema.Table) (value : String) : Bool × schema.Table :=
  if executed then deleteRecord t value else (false, t)

/-- What a deletion leaves is what has another key, once the statement is executed. -/
theorem rows_attemptDeleteRecord (executed : Bool) (t : schema.Table) (value : String) :
    (attemptDeleteRecord executed t value).2.rows =
      t.rows.filter fun row => !(executed && decide (schema.key row = value)) := by
  -- A statement that is not executed deletes nothing.
  cases executed with
  | true => rfl
  | false => simp [attemptDeleteRecord]

/-- A deletion leaves all rows exactly when it is not executed or no row has the key. -/
theorem attemptDeleteRecord_unchanged_iff (executed : Bool) (t : schema.Table) (value : String) :
    (attemptDeleteRecord executed t value).2.rows = t.rows ↔
      executed = false ∨ ∀ row ∈ t.rows, schema.key row ≠ value := by
  rw [rows_attemptDeleteRecord, List.filter_eq_self]
  cases executed <;> simp

end Orm

/--
An answer to a deletion says what has happened, and no other row is gone.

It is `OK` for a matching row that was there and has been removed, and an error where nothing was removed.
-/
structure Truthful {ρ : Type} (Matches : ρ → Prop) (before after : List ρ) (answer : Answer) : Prop where
  ok_iff : answer = .ok ↔ ∃ row ∈ before, Matches row ∧ row ∉ after
  error_iff : answer.IsError ↔ after = before
  others : ∀ row ∈ before, ¬ Matches row → row ∈ after

/-- Where nothing has been removed, an answer says so exactly when it is an error. -/
theorem truthful_unchanged_iff {ρ : Type} {Matches : ρ → Prop} {rows : List ρ} {answer : Answer} :
    Truthful Matches rows rows answer ↔ answer.IsError := by
  constructor
  · intro truthful
    exact truthful.error_iff.mpr rfl
  · -- Nothing is gone, so the answer must not say so.
    intro error
    refine ⟨⟨?_, ?_⟩, ⟨fun _ => rfl, fun _ => error⟩, fun row member _ => member⟩
    · rintro rfl
      exact absurd error (by decide)
    · rintro ⟨row, member, _, removed⟩
      exact absurd member removed

namespace HistoryHandler

/-- `RESTAPI_historyHandler::DoDelete`, for the serial number of the path and the parameter `id`. -/
def doDelete (executed : Bool) (history : HistoryTable) (serialNumber id : String) : Answer × HistoryTable :=
  if serialNumber = "" ∨ id = "" then (.badRequest Errors.idOrSerialEmpty, history)
  else
    match Orm.attemptDeleteRecord executed history id with
    | (false, history) => (.ok, history)
    | (true, history) => (.notFound, history)

/--
The answer is right only where there is nothing to do.

The test of what `DeleteHistory` returns is the wrong way round, and that is whether the statement was executed.
-/
theorem doDelete_truthful_iff (executed : Bool) (history : HistoryTable) (serialNumber id : String) :
    Truthful (fun row => row.serialNumber = serialNumber ∧ row.id = id) history.rows
        (doDelete executed history serialNumber id).2.rows (doDelete executed history serialNumber id).1 ↔
      serialNumber = "" ∨ id = "" ∨ executed = true ∧ ∀ row ∈ history.rows, row.id ≠ id := by
  -- Without both parameters the handler refuses before it deletes anything.
  by_cases empty : serialNumber = "" ∨ id = ""
  · rw [doDelete, if_pos empty, truthful_unchanged_iff, ← or_assoc]
    exact ⟨fun _ => Or.inl empty, fun _ => Answer.isError_badRequest _⟩
  · rw [← or_assoc, or_iff_right empty, doDelete, if_neg empty]
    cases executed with
    | false =>
      -- The statement has failed, and the answer is `OK`.
      change Truthful _ history.rows history.rows .ok ↔ _
      rw [truthful_unchanged_iff]
      simp
    | true =>
      -- The answer is an error, so it is right only where no row is gone.
      have unchanged := Orm.attemptDeleteRecord_unchanged_iff true history id
      change Truthful _ history.rows (Orm.attemptDeleteRecord true history id).2.rows .notFound ↔ _
      constructor
      · intro truthful
        have none_ := unchanged.mp (truthful.error_iff.mp Answer.isError_notFound)
        exact ⟨rfl, none_.resolve_left nofun⟩
      · rintro ⟨_, absent⟩
        rw [unchanged.mpr (Or.inr absent), truthful_unchanged_iff]
        exact Answer.isError_notFound

end HistoryHandler

namespace FirmwareHandler

/-- `RESTAPI_firmwareHandler::DoDelete`, for the id of the path. -/
def doDelete (executed : Bool) (firmwares : FirmwaresTable) (uuid : String) : Answer × FirmwaresTable :=
  if uuid = "" then (.badRequest Errors.missingUUID, firmwares)
  else
    match Orm.attemptDeleteRecord executed firmwares uuid with
    | (true, firmwares) => (.ok, firmwares)
    | (false, firmwares) => (.badRequest Errors.couldNotBeDeleted, firmwares)

/-- The answer is right unless a statement that is executed finds no row. -/
theorem doDelete_truthful_iff (executed : Bool) (firmwares : FirmwaresTable) (uuid : String) :
    Truthful (fun row => row.id = uuid) firmwares.rows (doDelete executed firmwares uuid).2.rows
        (doDelete executed firmwares uuid).1 ↔
      uuid = "" ∨ executed = false ∨ ∃ row ∈ firmwares.rows, row.id = uuid := by
  by_cases empty : uuid = ""
  · rw [doDelete, if_pos empty, truthful_unchanged_iff]
    exact ⟨fun _ => Or.inl empty, fun _ => Answer.isError_badRequest _⟩
  · rw [or_iff_right empty, doDelete, if_neg empty]
    cases executed with
    | false =>
      change Truthful _ firmwares.rows firmwares.rows (.badRequest Errors.couldNotBeDeleted) ↔ _
      rw [truthful_unchanged_iff]
      exact ⟨fun _ => Or.inl rfl, fun _ => Answer.isError_badRequest _⟩
    | true =>
      have rows := Orm.rows_attemptDeleteRecord true firmwares uuid
      rw [or_iff_right nofun]
      change Truthful _ firmwares.rows (Orm.attemptDeleteRecord true firmwares uuid).2.rows .ok ↔ _
      constructor
      · intro truthful
        obtain ⟨row, member, same, _⟩ := truthful.ok_iff.mp rfl
        exact ⟨row, member, same⟩
      · -- The row is found and removed, and it is the only one that the statement selects.
        rintro ⟨row, member, same⟩
        have gone : row ∉ (Orm.attemptDeleteRecord true firmwares uuid).2.rows := by simp [rows, same]
        refine ⟨⟨fun _ => ⟨row, member, same, gone⟩, fun _ => rfl⟩, ⟨?_, ?_⟩, ?_⟩
        · intro error
          exact absurd error Answer.isError_ok
        · intro kept
          exact absurd (kept ▸ member) gone
        · intro other stored differs
          rw [rows]
          exact List.mem_filter.mpr ⟨stored, by simp [differs]⟩

/-- A deletion that is executed changes the catalogue as the operation on it does. -/
theorem doDelete_executed (c : Catalogue) (uuid : String) :
    (doDelete true c.firmwares uuid).2 = (FirmwaresDB.doDelete c uuid).firmwares := by
  rw [doDelete, FirmwaresDB.doDelete]
  split <;> rfl

end FirmwareHandler

/-- Exactly where the two requests that delete a row answer truthfully and leave the other rows alone. -/
theorem deletions_truthful_iff (executed : Bool) (history : HistoryTable) (serialNumber id : String)
    (firmwares : FirmwaresTable) (uuid : String) :
    (Truthful (fun row => row.serialNumber = serialNumber ∧ row.id = id) history.rows
          (HistoryHandler.doDelete executed history serialNumber id).2.rows
          (HistoryHandler.doDelete executed history serialNumber id).1 ↔
        serialNumber = "" ∨ id = "" ∨ executed = true ∧ ∀ row ∈ history.rows, row.id ≠ id) ∧
      (Truthful (fun row => row.id = uuid) firmwares.rows
          (FirmwareHandler.doDelete executed firmwares uuid).2.rows
          (FirmwareHandler.doDelete executed firmwares uuid).1 ↔
        uuid = "" ∨ executed = false ∨ ∃ row ∈ firmwares.rows, row.id = uuid) :=
  ⟨HistoryHandler.doDelete_truthful_iff executed history serialNumber id,
    FirmwareHandler.doDelete_truthful_iff executed firmwares uuid⟩

/-- The entry is removed, and the answer is that it does not exist. -/
theorem deletions_truthful_fails :
    let history : HistoryTable := .single { id := "1", serialNumber := "aabbccddeeff" }
    ¬ Truthful (fun row => row.serialNumber = "aabbccddeeff" ∧ row.id = "1") history.rows
      (HistoryHandler.doDelete true history "aabbccddeeff" "1").2.rows
      (HistoryHandler.doDelete true history "aabbccddeeff" "1").1 := by
  -- The row is gone, and the answer is that it was not found.
  intro history truthful
  have refuses : (HistoryHandler.doDelete true history "aabbccddeeff" "1").1 = .notFound := rfl
  have removed : (HistoryHandler.doDelete true history "aabbccddeeff" "1").2.rows = [] := by decide
  have unchanged := truthful.error_iff.mp (by rw [refuses]; exact Answer.isError_notFound)
  rw [removed] at unchanged
  cases unchanged

end Fms
