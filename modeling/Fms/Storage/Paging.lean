import Fms.Relation.Paging
import Fms.Relation.Run
import Fms.Storage.Records
import Mathlib.Data.List.Sort

/-! `Iterate` over a table that other threads change between its page queries. -/

namespace Fms

/-- An order of the texts a primary key can be, as a database lists them. -/
structure KeyOrder where
  le : String → String → Bool
  total : ∀ left right, le left right = true ∨ le right left = true
  trans : ∀ first second third, le first second = true → le second third = true → le first third = true
  antisymm : ∀ left right, le left right = true → le right left = true → left = right

/-- The order of texts by their characters. -/
def KeyOrder.byCharacters : KeyOrder where
  le left right := (compare left right).isLE
  total left right := by
    by_cases le : (compare left right).isLE
    · exact Or.inl le
    · have behind : compare right left = .lt := Std.OrientedCmp.lt_of_not_isLE (by simpa using le)
      exact Or.inr (by simp [behind])
  trans _ _ _ := Std.TransOrd.isLE_trans
  antisymm _ _ le ge := Std.LawfulEqCmp.eq_of_compare (Std.OrientedCmp.isLE_antisymm le ge)

variable {ρ : Type} {schema : Schema ρ}

/-- A row comes before another one in the order of their keys. -/
def KeyOrder.Before (order : KeyOrder) (schema : Schema ρ) (left right : ρ) : Prop :=
  order.le (schema.key left) (schema.key right) = true ∧ schema.key left ≠ schema.key right

/-- The order of two rows can be read off their keys. -/
instance KeyOrder.decidableBefore (order : KeyOrder) (schema : Schema ρ) :
    DecidableRel (order.Before schema) := fun _ _ => inferInstanceAs (Decidable (_ ∧ _))

/-- A table whose rows are listed in the order of their keys. -/
def KeyOrder.listed (order : KeyOrder) (t : schema.Table) : schema.Table where
  rows := t.rows.insertionSort fun left right => order.le (schema.key left) (schema.key right) = true
  distinct := ((List.perm_insertionSort _ t.rows).map schema.key).nodup_iff.mpr t.distinct

/-- `Iterate` between two page queries, and the table it reads. -/
structure Iteration (schema : Schema ρ) where
  table : schema.Table
  /-- `Offset`. -/
  offset : Nat := 0
  /-- Whether the call has returned. -/
  done : Bool := false
  /-- The records the callback has been given, which it has always accepted. -/
  passed : List ρ := []

/-- What can happen while the iteration goes on. -/
inductive IterationTurn (ρ : Type) where
  /-- The next page query, with the calls of the callback that follow it. -/
  | page
  /-- Another thread inserts a record. -/
  | insert (executed : Bool) (record : ρ)
  /-- Another thread deletes the record with a key. -/
  | delete (value : String)
  /-- Another thread deletes the records a clause selects. -/
  | deleteWhere (whereText : String)

namespace Iteration

variable (type : DBType) (order : KeyOrder) (whereText : String)

/-- One round of the loop of `Iterate`. -/
def page (s : Iteration schema) : Iteration schema :=
  if s.done then s
  else
    match Orm.getRecords type (order.listed s.table) s.offset 50 whereText with
    | none => { s with done := true }
    | some records =>
      if records.length < 50 then { s with passed := s.passed ++ records, done := true }
      else { s with passed := s.passed ++ records, offset := s.offset + 50 }

/-- The iteration and the table after a turn. -/
@[grind =]
def step (s : Iteration schema) : IterationTurn ρ → Iteration schema
  | .page => s.page type order whereText
  | .insert executed record => { s with table := (Orm.createRecord executed s.table record).2 }
  | .delete value => { s with table := (Orm.deleteRecord s.table value).2 }
  | .deleteWhere text => { s with table := (Orm.deleteRecords type s.table text).2 }

/-- The rows of a table that the where clause selects. -/
def matches_ (t : schema.Table) : List ρ :=
  (Orm.matching type t whereText).getD []

/-- How many of the selected rows come before a row. -/
def rank (row : ρ) (t : schema.Table) : Nat :=
  Paging.rank (order.Before schema) row (matches_ type whereText t)

/-- The ranks of a row at the page queries of a run. -/
@[grind =]
def ranks (row : ρ) (s : Iteration schema) : List (IterationTurn ρ) → List Nat
  | [] => []
  | turn :: rest =>
    let later := ranks row (step type order whereText s turn) rest
    match turn with
    | .page => if s.done then later else rank type order whereText row s.table :: later
    | _ => later

/-- A turn does not put selected rows before a row. -/
def NotRaised (row : ρ) (s : Iteration schema) (turn : IterationTurn ρ) : Prop :=
  rank type order whereText row (step type order whereText s turn).table ≤
    rank type order whereText row s.table

/-- The ranks before and after a turn can be compared. -/
instance decidableNotRaised (row : ρ) (s : Iteration schema) (turn : IterationTurn ρ) :
    Decidable (NotRaised type order whereText row s turn) := inferInstanceAs (Decidable (_ ≤ _))

/-- A turn does not take away selected rows before a row. -/
def NotLowered (row : ρ) (s : Iteration schema) (turn : IterationTurn ρ) : Prop :=
  rank type order whereText row s.table ≤
    rank type order whereText row (step type order whereText s turn).table

/-- The ranks before and after a turn can be compared. -/
instance decidableNotLowered (row : ρ) (s : Iteration schema) (turn : IterationTurn ρ) :
    Decidable (NotLowered type order whereText row s turn) := inferInstanceAs (Decidable (_ ≤ _))

end Iteration

variable {type : DBType} {order : KeyOrder} {whereText : String}

/-- The order of the keys has no cycles. -/
theorem KeyOrder.before_asymm (left right : ρ) (before : order.Before schema left right) :
    ¬ order.Before schema right left := by
  rintro ⟨behind, _⟩
  exact before.2 (order.antisymm _ _ before.1 behind)

/-- The listed rows are the stored ones. -/
theorem KeyOrder.listed_perm (order : KeyOrder) (t : schema.Table) :
    (order.listed t).rows.Perm t.rows :=
  List.perm_insertionSort _ t.rows

/-- The listed rows are strictly ordered by their keys. -/
theorem KeyOrder.listed_sorted (order : KeyOrder) (t : schema.Table) :
    (order.listed t).rows.Pairwise (order.Before schema) := by
  have total : Std.Total fun left right : ρ =>
      order.le (schema.key left) (schema.key right) = true := ⟨fun _ _ => order.total _ _⟩
  have trans : IsTrans ρ fun left right =>
      order.le (schema.key left) (schema.key right) = true := ⟨fun _ _ _ => order.trans _ _ _⟩
  have sorted := List.pairwise_insertionSort
    (fun left right : ρ => order.le (schema.key left) (schema.key right) = true) t.rows
  -- No two rows share a key.
  have distinct : (order.listed t).rows.Pairwise fun left right => schema.key left ≠ schema.key right :=
    List.pairwise_map.mp (order.listed t).distinct
  exact sorted.and distinct

/-- A where clause is a condition on the rows of every table, or fails on all of them. -/
theorem Orm.matching_cases (schema : Schema ρ) (type : DBType) (whereText : String) :
    (∃ condition : ρ → Bool, ∀ t : schema.Table,
        Orm.matching type t whereText = some (t.rows.filter condition)) ∨
      ∀ t : schema.Table, Orm.matching type t whereText = none := by
  -- Whether a clause can be read depends on its text and the columns, not on the rows.
  unfold Orm.matching
  by_cases empty : whereText = ""
  · exact Or.inl ⟨fun _ => true, fun t => by simp [empty]⟩
  · cases denotes : Sql.whereClause type.dialect schema.columns whereText with
    | none => exact Or.inr fun t => by simp [empty]
    | some condition => exact Or.inl ⟨condition, fun t => by simp [empty, KeyedTable.select]⟩

namespace Iteration

/-- A page holds a selected row once if its rank lies within the page, and else not at all. -/
theorem count_getRecords [DecidableEq ρ] (order : KeyOrder) {t : schema.Table} {row : ρ}
    (selected : row ∈ matches_ type whereText t) (offset size : Nat) :
    ((Orm.getRecords type (order.listed t) offset size whereText).getD []).count row =
      if Paging.Within offset size (rank type order whereText row t) then 1 else 0 := by
  rcases Orm.matching_cases schema type whereText with ⟨condition, all⟩ | none_
  · have perm : ((order.listed t).rows.filter condition).Perm (t.rows.filter condition) :=
      (order.listed_perm t).filter condition
    have sorted := (order.listed_sorted t).filter condition
    have member : row ∈ (order.listed t).rows.filter condition := by
      rw [perm.mem_iff]
      simpa [matches_, all] using selected
    have page := Paging.count_page sorted order.before_asymm member offset size
    rw [Paging.rank_perm perm] at page
    -- A page without records is a failure, and holds no row either.
    have records : (Orm.getRecords type (order.listed t) offset size whereText).getD [] =
        (((order.listed t).rows.filter condition).drop offset).take size := by
      simp only [Orm.getRecords, all, Option.bind_eq_bind, Option.bind_some]
      split
      · rename_i empty
        rw [List.isEmpty_iff.mp empty]
        rfl
      · rfl
    rw [records, page]
    simp [rank, matches_, all]
  · simp [matches_, none_] at selected

/-- A page that is not full ends behind every selected row. -/
theorem rank_lt_of_short {t : schema.Table} {row : ρ} (selected : row ∈ matches_ type whereText t)
    {offset size : Nat}
    (short : ((Orm.getRecords type (order.listed t) offset size whereText).getD []).length < size) :
    rank type order whereText row t < offset + size := by
  rcases Orm.matching_cases schema type whereText with ⟨condition, all⟩ | none_
  · have listed : row ∈ t.rows.filter condition := by simpa [matches_, all] using selected
    have below : Paging.rank (order.Before schema) row (t.rows.filter condition) <
        (t.rows.filter condition).length :=
      Paging.rank_lt_length (fun self => order.before_asymm row row self self) listed
    have length : ((order.listed t).rows.filter condition).length = (t.rows.filter condition).length :=
      ((order.listed_perm t).filter condition).length_eq
    -- The page is what is left behind the offset, cut at its size.
    have records : ((Orm.getRecords type (order.listed t) offset size whereText).getD []).length =
        min size ((t.rows.filter condition).length - offset) := by
      simp only [Orm.getRecords, all, Option.bind_eq_bind, Option.bind_some]
      split
      · rename_i empty
        have none_ := congrArg List.length (List.isEmpty_iff.mp empty)
        simp only [List.length_take, List.length_drop, length, List.length_nil] at none_
        simpa using none_.symm
      · simp [length]
    have ranked : rank type order whereText row t =
        Paging.rank (order.Before schema) row (t.rows.filter condition) := by
      simp [rank, matches_, all]
    omega
  · simp [matches_, none_] at selected

variable {s : Iteration schema} {row : ρ}

/-- A page query is a round of the loop. -/
theorem step_page : step type order whereText s .page = s.page type order whereText := rfl

/-- What a round does: it hands over a page, and returns when the page is not full. -/
theorem page_cases (type : DBType) (order : KeyOrder) (whereText : String) (running : s.done = false) :
    (s.page type order whereText).table = s.table ∧
      (s.page type order whereText).passed = s.passed ++
        (Orm.getRecords type (order.listed s.table) s.offset 50 whereText).getD [] ∧
      (((s.page type order whereText).done = true ∧
          ((Orm.getRecords type (order.listed s.table) s.offset 50 whereText).getD []).length < 50) ∨
        ((s.page type order whereText).done = false ∧
          (s.page type order whereText).offset = s.offset + 50)) := by
  -- A failing query and a short page both end the call; only a full page moves the offset.
  unfold page
  rw [running]
  cases Orm.getRecords type (order.listed s.table) s.offset 50 whereText with
  | none => simp
  | some records =>
    by_cases short : records.length < 50
    · simp [short]
    · simp [short]

/-- An iteration that has returned asks for nothing more. -/
theorem ranks_of_done (returned : s.done = true) (turns : List (IterationTurn ρ)) :
    ranks type order whereText row s turns = [] := by
  -- No turn takes back that the call has returned.
  induction turns generalizing s with
  | nil => rfl
  | cons turn rest ih =>
    have still : (step type order whereText s turn).done = true := by
      cases turn with
      | page => simp [step, page, returned]
      | insert executed record => exact returned
      | delete value => exact returned
      | deleteWhere text => exact returned
    cases turn with
    | page => simp [ranks, returned, ih still]
    | insert executed record => exact ih still
    | delete value => exact ih still
    | deleteWhere text => exact ih still

/-- A page query looks at one rank; what the next one looks at lies behind the offset it leaves. -/
theorem hits_page (running : s.done = false) (rest : List (IterationTurn ρ)) :
    Paging.hits 50 s.offset (ranks type order whereText row s (.page :: rest)) =
      (if Paging.Within s.offset 50 (rank type order whereText row s.table) then 1 else 0) +
        Paging.hits 50 (step type order whereText s .page).offset
          (ranks type order whereText row (step type order whereText s .page) rest) := by
  obtain ⟨_, _, outcome⟩ := page_cases type order whereText running
  simp only [ranks, running, Bool.false_eq_true, if_false, Paging.hits, step_page]
  -- After the last page there are no more ranks, so the offset no longer matters.
  rcases outcome with ⟨returned, _⟩ | ⟨_, offset⟩
  · rw [ranks_of_done returned]
    rfl
  · rw [offset]

/-- A selected row is passed on once for each page query that finds its rank within the page. -/
theorem count_passed [DecidableEq ρ] (turns : List (IterationTurn ρ))
    (stays : ∀ reached ∈ Transition.states (step type order whereText) s turns,
      row ∈ matches_ type whereText reached.table) :
    (turns.foldl (step type order whereText) s).passed.count row =
      s.passed.count row + Paging.hits 50 s.offset (ranks type order whereText row s turns) := by
  -- By the turns; only a page query passes rows on, and the others leave the offset.
  induction turns generalizing s with
  | nil => simp [ranks, Paging.hits]
  | cons turn rest ih =>
    have now : row ∈ matches_ type whereText s.table := stays s (Transition.first_mem_states s _)
    have later := ih fun reached member => stays reached (List.mem_cons_of_mem s member)
    rw [List.foldl_cons, later]
    cases turn with
    | insert executed record => rfl
    | delete value => rfl
    | deleteWhere text => rfl
    | page =>
      cases running : s.done with
      | true => simp [step, page, ranks, running]
      | false =>
        obtain ⟨_, passed, _⟩ := page_cases type order whereText running
        have page := count_getRecords order now s.offset 50
        rw [hits_page running, step_page, passed, List.count_append, page, Nat.add_assoc]

/-- A row that has fallen behind the offset is not met again while nothing is put before it. -/
theorem hits_of_passed (turns : List (IterationTurn ρ))
    (notRaised : Transition.Along (step type order whereText) (NotRaised type order whereText row) s
      turns) (behind : rank type order whereText row s.table < s.offset) :
    Paging.hits 50 s.offset (ranks type order whereText row s turns) = 0 := by
  -- By the turns; the rank does not grow, and the offset does not shrink.
  induction turns generalizing s with
  | nil => rfl
  | cons turn rest ih =>
    obtain ⟨kept, rest_⟩ := notRaised
    have below : rank type order whereText row (step type order whereText s turn).table < s.offset :=
      Nat.lt_of_le_of_lt kept behind
    cases turn with
    | insert executed record => exact ih rest_ below
    | delete value => exact ih rest_ below
    | deleteWhere text => exact ih rest_ below
    | page =>
      cases running : s.done with
      | true =>
        rw [ranks_of_done running]
        rfl
      | false =>
        obtain ⟨_, _, outcome⟩ := page_cases type order whereText running
        -- The row lies before the page, which therefore does not hold it.
        have missed : ¬ Paging.Within s.offset 50 (rank type order whereText row s.table) :=
          fun inside => absurd inside.1 (by omega)
        rw [hits_page running, if_neg missed, Nat.zero_add]
        rw [step_page] at rest_ below ⊢
        rcases outcome with ⟨returned, _⟩ | ⟨_, offset⟩
        · rw [ranks_of_done returned]
          rfl
        · exact ih rest_ (by omega)

/-- While nothing is put before a row it is met at most once. -/
theorem hits_le_one (turns : List (IterationTurn ρ))
    (notRaised : Transition.Along (step type order whereText) (NotRaised type order whereText row) s
      turns) :
    Paging.hits 50 s.offset (ranks type order whereText row s turns) ≤ 1 := by
  -- By the turns, up to the first page that holds the row.
  induction turns generalizing s with
  | nil => simp [ranks, Paging.hits]
  | cons turn rest ih =>
    obtain ⟨kept, rest_⟩ := notRaised
    cases turn with
    | insert executed record => exact ih rest_
    | delete value => exact ih rest_
    | deleteWhere text => exact ih rest_
    | page =>
      cases running : s.done with
      | true => simp [ranks_of_done running, Paging.hits]
      | false =>
        rw [hits_page running]
        by_cases inside : Paging.Within s.offset 50 (rank type order whereText row s.table)
        · -- The next page, if there is one, begins behind the row.
          have past : Paging.hits 50 (step type order whereText s .page).offset
              (ranks type order whereText row (step type order whereText s .page) rest) = 0 := by
            obtain ⟨_, _, outcome⟩ := page_cases type order whereText running
            rcases outcome with ⟨returned, _⟩ | ⟨_, offset⟩
            · rw [step_page, ranks_of_done returned]
              rfl
            · have below := inside.2
              unfold NotRaised at kept
              rw [step_page] at rest_ kept ⊢
              exact hits_of_passed rest rest_ (by omega)
          rw [if_pos inside, past]
        · rw [if_neg inside, Nat.zero_add]
          exact ih rest_

/-- While nothing is taken from before a row that has not been met yet, the iteration meets it. -/
theorem one_le_hits (turns : List (IterationTurn ρ))
    (stays : ∀ reached ∈ Transition.states (step type order whereText) s turns,
      row ∈ matches_ type whereText reached.table)
    (notLowered : Transition.Along (step type order whereText) (NotLowered type order whereText row) s
      turns)
    (ahead : s.offset ≤ rank type order whereText row s.table) (running : s.done = false)
    (returned : (turns.foldl (step type order whereText) s).done = true) :
    1 ≤ Paging.hits 50 s.offset (ranks type order whereText row s turns) := by
  induction turns generalizing s with
  | nil =>
    -- Before the call has returned it has met nothing, and it has not returned yet.
    rw [List.foldl_nil, running] at returned
    contradiction
  | cons turn rest ih =>
    have now : row ∈ matches_ type whereText s.table := stays s (Transition.first_mem_states s _)
    have later := fun reached member => stays reached (List.mem_cons_of_mem s member)
    obtain ⟨kept, rest_⟩ := notLowered
    rw [List.foldl_cons] at returned
    have still : s.offset ≤ rank type order whereText row (step type order whereText s turn).table :=
      Nat.le_trans ahead kept
    cases turn with
    | insert executed record => exact ih later rest_ still running returned
    | delete value => exact ih later rest_ still running returned
    | deleteWhere text => exact ih later rest_ still running returned
    | page =>
      obtain ⟨_, _, outcome⟩ := page_cases type order whereText running
      rw [hits_page running]
      by_cases inside : Paging.Within s.offset 50 (rank type order whereText row s.table)
      · simp [inside]
      · rw [if_neg inside, Nat.zero_add]
        -- The row lies behind the page, which is full.
        have beyond : s.offset + 50 ≤ rank type order whereText row s.table := by
          unfold Paging.Within at inside
          omega
        rcases outcome with ⟨_, short⟩ | ⟨more, offset⟩
        · -- A page that is not full would have ended behind the row.
          have bound := rank_lt_of_short now short
          omega
        · unfold NotLowered at kept
          rw [step_page] at later rest_ kept returned ⊢
          exact ih later rest_ (by omega) more returned

/-- A row that is inserted by another thread takes no selected row from before a row. -/
theorem notLowered_insert (executed : Bool) (record : ρ) :
    NotLowered type order whereText row s (.insert executed record) := by
  unfold NotLowered rank matches_
  rcases Orm.matching_cases schema type whereText with ⟨condition, all⟩ | none_
  · rw [all, all]
    -- The new row goes to the end of the table, and all others stay in their order.
    refine List.Sublist.countP_le (List.Sublist.filter _ ?_)
    rcases Orm.createRecord_cases executed s.table record with ⟨_, rows, _⟩ | same
    · simp only [step, rows]
      exact List.sublist_append_left _ _
    · simp only [step, same]
      exact List.Sublist.refl _
  · rw [none_, none_]

/-- Deletions by another thread put no selected row before a row. -/
theorem notRaised_of_sublist {turn : IterationTurn ρ}
    (fewer : (step type order whereText s turn).table.rows.Sublist s.table.rows) :
    NotRaised type order whereText row s turn := by
  unfold NotRaised rank matches_
  rcases Orm.matching_cases schema type whereText with ⟨condition, all⟩ | none_
  · -- What is left was there before, so no more rows lie before the row than did.
    rw [all, all]
    exact (fewer.filter _).countP_le
  · rw [none_, none_]

/-- A page query changes nothing in the table. -/
theorem table_page : (step type order whereText s .page).table = s.table := by
  cases running : s.done with
  | true => simp [step, page, running]
  | false => exact (page_cases type order whereText running).1

/-- While other threads only insert, no selected row is taken from before a row. -/
theorem notLowered_of_insertions (turns : List (IterationTurn ρ))
    (insertions : ∀ turn ∈ turns, turn = .page ∨ ∃ executed record, turn = .insert executed record) :
    Transition.Along (step type order whereText) (NotLowered type order whereText row) s turns := by
  refine Transition.along_mono ?_ (Transition.along_of_forall _ insertions s)
  rintro s turn (rfl | ⟨executed, record, rfl⟩)
  · unfold NotLowered
    rw [table_page]
  · exact notLowered_insert executed record

/-- While other threads only delete, no selected row is put before a row. -/
theorem notRaised_of_deletions (turns : List (IterationTurn ρ))
    (deletions : ∀ turn ∈ turns, ∀ executed record, turn ≠ .insert executed record) :
    Transition.Along (step type order whereText) (NotRaised type order whereText row) s turns := by
  refine Transition.along_mono ?_ (Transition.along_of_forall _ deletions s)
  intro s turn noInsertion
  refine notRaised_of_sublist ?_
  cases turn with
  | page =>
    -- No page query changes the table.
    rw [table_page]
  | insert executed record => exact absurd rfl (noInsertion executed record)
  | delete value => exact List.filter_sublist
  | deleteWhere text =>
    simp only [step, Orm.deleteRecords]
    split
    · exact List.filter_sublist
    · exact List.Sublist.refl _

/-- A call that has returned passes on nothing more. -/
theorem foldl_page_of_done (returned : s.done = true) (batches : Nat) :
    (List.replicate batches IterationTurn.page).foldl (step type order whereText) s = s := by
  induction batches with
  | zero => rfl
  | succ batches ih =>
    rw [List.replicate_succ, List.foldl_cons]
    have same : step type order whereText s .page = s := by simp [step, page, returned]
    rw [same, ih]

/-- Without other threads the page queries are those of `iterate`, on the table as it is listed. -/
theorem foldl_page (table : schema.Table) (batches offset : Nat) (passed : List ρ) :
    ((List.replicate batches IterationTurn.page).foldl (step type order whereText)
        { table, offset, passed }).passed =
      Orm.iterateFrom type (order.listed table) whereText
        (fun seen record => (true, seen ++ [record])) batches offset passed := by
  -- By the batches, with the offset and the rows passed so far left arbitrary.
  induction batches generalizing offset passed with
  | zero => rfl
  | succ batches ih =>
    rw [List.replicate_succ, List.foldl_cons, Orm.iterateFrom, step_page, page]
    cases Orm.getRecords type (order.listed table) offset 50 whereText with
    | none =>
      simp only [Bool.false_eq_true, if_false]
      rw [foldl_page_of_done rfl]
    | some records =>
      -- A batch is passed on row by row, which appends it as a whole.
      have all : records.foldl (fun seen record => seen ++ [record]) passed = passed ++ records := by
        rw [List.foldl_append_eq_append, ← List.flatMap_def, List.flatMap_singleton']
      simp only [Bool.false_eq_true, if_false, Orm.visitRecords_all, all]
      by_cases short : records.length < 50
      · rw [if_pos short, if_pos short, foldl_page_of_done rfl]
      · rw [if_neg short, if_neg short, ih]

/--
A row that stays is passed on once for each page query that finds as many rows before it as fit the page.

That is once when nothing before it is inserted or deleted, at most once when nothing is put before it,
and at least once when nothing is taken from before it and the call has returned.
-/
theorem passed_by_rank [DecidableEq ρ] (type : DBType) (order : KeyOrder) (whereText : String)
    (table : schema.Table) (turns : List (IterationTurn ρ)) (row : ρ)
    (stays : ∀ reached ∈ Transition.states (step type order whereText) { table } turns,
      row ∈ matches_ type whereText reached.table) :
    let last := turns.foldl (step type order whereText) { table }
    last.passed.count row = Paging.hits 50 0 (ranks type order whereText row { table } turns) ∧
      (Transition.Along (step type order whereText) (NotRaised type order whereText row) { table } turns →
        last.passed.count row ≤ 1) ∧
      (last.done = true →
        Transition.Along (step type order whereText) (NotLowered type order whereText row) { table }
          turns →
        1 ≤ last.passed.count row) := by
  intro last
  have passed : last.passed.count row =
      Paging.hits 50 0 (ranks type order whereText row { table } turns) := by
    simpa using count_passed turns stays
  refine ⟨passed, fun notRaised => ?_, fun returned notLowered => ?_⟩
  · -- Both bounds are bounds on the number of pages that hold the row.
    rw [passed]
    exact hits_le_one turns notRaised
  · rw [passed]
    exact one_le_hits turns stays notLowered (Nat.zero_le _) rfl returned

/-- The device with a number of two digits for its serial number. -/
def numberedDevice (number : Nat) : DeviceConnectionInformation where
  serialNumber := String.ofList [Char.ofNat (48 + number / 10), Char.ofNat (48 + number % 10)]

/-- One device more than fits a page. -/
def fiftyOne : DevicesTable where
  rows := (List.range 51).map numberedDevice
  distinct := by decide +kernel

/-- Between the queries of two pages, a device is put behind all others, and deleted. -/
def changesBehind : List (IterationTurn DeviceConnectionInformation) :=
  [.page, .insert true (numberedDevice 60), .delete "60", .page]

/-- The one device of the second page is passed on once while another one comes and goes behind it. -/
theorem passed_undisturbed :
    (changesBehind.foldl (step .sqlite .byCharacters "") ({ table := fiftyOne } : Iteration devicesSchema)).passed.count
        (numberedDevice 50) = 1 := by
  obtain ⟨_, atMost, atLeast⟩ := @passed_by_rank DeviceConnectionInformation devicesSchema _ .sqlite
    .byCharacters "" fiftyOne changesBehind (numberedDevice 50) (by decide +kernel)
  exact Nat.le_antisymm (atMost (by decide +kernel)) (atLeast (by decide +kernel) (by decide +kernel))

/-- A row behind the first page is skipped when one of the page is deleted before the next query. -/
theorem row_skipped_after_deletion :
    ¬ ∀ (type : DBType) (order : KeyOrder) (whereText : String) (table : DevicesTable)
      (turns : List (IterationTurn DeviceConnectionInformation)) (row : DeviceConnectionInformation),
      (∀ reached ∈ Transition.states (step type order whereText) { table } turns,
        row ∈ matches_ type whereText reached.table) →
      (turns.foldl (step type order whereText) { table }).done = true →
      (turns.foldl (step type order whereText) { table }).passed.count row = 1 := by
  -- The fifty-first device moves up to the first page after that page has been read.
  intro once
  have last := once .sqlite .byCharacters "" fiftyOne [.page, .delete "00", .page] (numberedDevice 50)
    (by decide +kernel) (by decide +kernel)
  exact absurd last (by decide +kernel)

end Iteration

end Fms
