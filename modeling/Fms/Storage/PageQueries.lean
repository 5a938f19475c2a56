import Fms.Devices.DevicesDb
import Fms.Relation.PageOrders
import Fms.Sql.Select
import Fms.Storage.Clauses
import Fms.Storage.Paging

/-! The page queries, on a database that lists rows in any order that fits a query. -/

namespace Fms

open Paging (SortOrder)

/-- PostgreSQL is the one product without the range that has a comma. -/
def DBType.commaRange : DBType → Bool
  | .pgsql => false
  | .sqlite | .mysql => true

/-- The numbers of a range are signed but on MySQL, so this is the first number a product refuses there. -/
def DBType.rangeBound : DBType → Nat
  | .sqlite | .pgsql => 9223372036854775808
  | .mysql => 18446744073709551616

/-- A product reads the numbers of a range. -/
def DBType.AcceptsRange (type : DBType) (range : Sql.Range) : Prop :=
  range.offset < type.rangeBound ∧ range.count < type.rangeBound

instance (type : DBType) (range : Sql.Range) : Decidable (type.AcceptsRange range) :=
  inferInstanceAs (Decidable (_ ∧ _))

variable {ρ : Type} {schema : Schema ρ}

/-- The order of texts in a database with the collation. -/
def KeyOrder.texts (collation : KeyOrder) : SortOrder String where
  le left right := collation.le left right = true
  decidable _ _ := inferInstance
  total := collation.total
  trans := collation.trans

/-- The order of numbers. -/
def numbers : SortOrder Int where
  le left right := left ≤ right
  decidable _ _ := inferInstance
  total := Int.le_total
  trans _ _ _ := Int.le_trans

/-- The order of the values in a column. -/
def KeyOrder.column (collation : KeyOrder) : Sql.Column ρ → SortOrder ρ
  | .text read => collation.texts.by read
  | .number read => numbers.by read
  | .boolean read => numbers.by fun row => ((read row).toNat : Int)

/-- The order that an order clause asks for, when its columns exist. -/
def Schema.sortOrder (schema : Schema ρ) (collation : KeyOrder) : List Sql.OrderTerm → Option (SortOrder ρ)
  | [] => some .unordered
  | term :: rest => do
    let column ← schema.columns (Sql.lower term.column)
    let ties ← schema.sortOrder collation rest
    let order := collation.column column
    return (if term.descending then order.descending else order).thenBy ties

namespace Orm

/-- `ComputeRange`. -/
def computeRange (type : DBType) (From HowMany : UInt64) : String :=
  let From := if From < 1 then 0 else From
  match type with
  | .sqlite => " LIMIT " ++ toString From.toNat ++ ", " ++ toString HowMany.toNat ++ " "
  | .pgsql | .mysql => " LIMIT " ++ toString HowMany.toNat ++ " OFFSET " ++ toString From.toNat ++ " "

/--
How a database orders and cuts the rows of a statement, read from what stands behind its condition.

A range with a number that the database cannot hold is refused.
-/
def ending (schema : Schema ρ) (collation : KeyOrder) (type : DBType) (text : String) :
    Option (SortOrder ρ × Option Sql.Range) := do
  let tokens ← Sql.lex type.dialect text
  let listing ← Sql.listing? type.commaRange tokens
  let order ← schema.sortOrder collation listing.order
  if ∀ range ∈ listing.range, type.AcceptsRange range then some (order, listing.range) else none

/-- The rows within a range. -/
def cut : Option Sql.Range → List ρ → List ρ
  | none, rows => rows
  | some range, rows => (rows.drop range.offset).take range.count

/-- What a database makes of where clauses: the condition that one is, or nothing where it is refused. -/
abbrev Reading (ρ : Type) := String → Option (ρ → Bool)

/-- The rows that a where clause selects in a database that reads it in its own way. -/
def matchingBy (reads : Reading ρ) (t : schema.Table) (whereText : String) : Option (List ρ) :=
  if whereText = "" then some t.rows else (reads whereText).map t.select

/--
The records `GetRecords` may add.

The database may read the where clause in any way, and list the rows in any order that fits the query.
-/
inductive MayGetRecords (reads : Reading ρ) (collation : KeyOrder) (type : DBType) (t : schema.Table)
    (Offset HowMany : UInt64) (Where OrderBy : String) : List ρ → Prop where
  | returned {rows listing : List ρ} {order : SortOrder ρ} {range : Option Sql.Range}
    (matched : matchingBy reads t Where = some rows)
    (read : ending schema collation type (OrderBy ++ computeRange type Offset HowMany) = some (order, range))
    (lists : order.Lists rows listing) :
    MayGetRecords reads collation type t Offset HowMany Where OrderBy (cut range listing)
  | thrown (failed : matchingBy reads t Where = none ∨
      ending schema collation type (OrderBy ++ computeRange type Offset HowMany) = none) :
    MayGetRecords reads collation type t Offset HowMany Where OrderBy []

/-- The page at an offset is whatever the query may return there; an offset that leaves 64 bits is not asked for. -/
def IsPage (query : UInt64 → List ρ → Prop) (Offset : Nat) (page : List ρ) : Prop :=
  if Offset < UInt64.size then query (UInt64.ofNat Offset) page else page = []

/--
The pages at the offsets zero, k, 2k and so on have each selected row once.

Every page may be whatever the query may return at its offset.
-/
def PagesJoin (query : UInt64 → List ρ → Prop) (size : UInt64) (selected : List ρ) : Prop :=
  ∀ pages : Nat → List ρ, (∀ page, IsPage query (page * size.toNat) (pages page)) →
    ∀ count, selected.length ≤ count * size.toNat → ((List.range count).flatMap pages).Perm selected

/-- The database accepts a page size, and every offset at which rows are left. -/
def AcceptsPages (type : DBType) (size rows : Nat) : Prop :=
  size < type.rangeBound ∧ ∀ page, page * size < rows → page * size < type.rangeBound

/-- The rows a where clause selects, which are none when the database throws. -/
def selected (reads : Reading ρ) (t : schema.Table) (Where : String) : List ρ :=
  (matchingBy reads t Where).getD []

end Orm

namespace FirmwaresDB

/-- The clause for the rows of a device type. -/
def typeClause (Compatible : String) : String :=
  " DeviceType='" ++ Compatible ++ "' "

/-- The clause that `GetFirmwares` passes on, which is left out without a device type. -/
def compatibleClause (Compatible : String) : String :=
  if Compatible = "" then "" else typeClause Compatible

/-- `GetFirmwares`, which succeeds whatever `GetRecords` reports. -/
def getFirmwares (type : DBType) (c : Catalogue) (From HowMany : Nat) (Compatible : String) :
    Bool × List Firmware :=
  (true, (Orm.getRecords type c.firmwares From HowMany (compatibleClause Compatible)).getD [])

/-- `GetFirmwares`, on a database that lists the rows in any order, since the query gives none. -/
def MayGetFirmwares (reads : Orm.Reading Firmware) (collation : KeyOrder) (type : DBType) (firmwares : FirmwaresTable)
    (Compatible : String) (From HowMany : UInt64) (Firmwares : List Firmware) : Prop :=
  Orm.MayGetRecords reads collation type firmwares From HowMany (compatibleClause Compatible) "" Firmwares

end FirmwaresDB

namespace HistoryDB

/-- `GetHistory`, the latest upgrade first. -/
def MayGetHistory (reads : Orm.Reading RevisionHistoryEntry) (collation : KeyOrder) (type : DBType)
    (history : HistoryTable) (SerialNumber : String) (From HowMany : UInt64) (History : List RevisionHistoryEntry) :
    Prop :=
  Orm.MayGetRecords reads collation type history From HowMany (serialClause SerialNumber) " order by upgraded DESC "
    History

/-- No entries with one upgrade time lie on both sides of the start of a page. -/
def TiesOnOnePage (rows : List RevisionHistoryEntry) (size : Nat) : Prop :=
  ∀ page, ∀ row ∈ rows,
    rows.countP (fun other => decide (bigint row.upgraded < bigint other.upgraded)) < page * size →
      rows.countP (fun other => decide (bigint row.upgraded ≤ bigint other.upgraded)) ≤ page * size

end HistoryDB

namespace DevicesDB

/-- `GetDevices`, in the order of their serial numbers. -/
def MayGetDevices (reads : Orm.Reading DeviceConnectionInformation) (collation : KeyOrder) (type : DBType)
    (devices : DevicesTable) (From HowMany : UInt64) (Devices : List DeviceConnectionInformation) : Prop :=
  Orm.MayGetRecords reads collation type devices From HowMany "" " ORDER BY SerialNumber ASC " Devices

end DevicesDB

namespace Orm

variable {reads : Reading ρ} {collation : KeyOrder} {type : DBType} {t : schema.Table} {Where OrderBy : String}

/-- The tokens of a range. -/
def rangeTokens (type : DBType) (From HowMany : Nat) : List Sql.Token :=
  match type with
  | .sqlite => [.word "LIMIT", .number From, .symbol ",", .number HowMany]
  | .pgsql | .mysql => [.word "LIMIT", .number HowMany, .word "OFFSET", .number From]

/-- The form of a range with a comma is read as its two numbers. -/
theorem finish_commaForm {dialect : Sql.Dialect} (From HowMany : Nat) :
    Sql.finish dialect .gap (" LIMIT " ++ toString From ++ ", " ++ toString HowMany ++ " ").toList =
      some [.word "LIMIT", .number From, .symbol ",", .number HowMany] := by
  have limit : Sql.feed dialect .gap " LIMIT ".toList = some ([.word "LIMIT"], .gap) := rfl
  have comma : Sql.feed dialect .gap ", ".toList = some ([.symbol ","], .gap) := rfl
  have space : Breaks [' '] := fun c first => (Option.some.inj first).symm
  have last : Sql.finish dialect .gap [' '] = some [] := rfl
  have chars : (" LIMIT " ++ toString From ++ ", " ++ toString HowMany ++ " ").toList =
      " LIMIT ".toList ++ ((toString From).toList ++ (", ".toList ++ ((toString HowMany).toList ++ [' ']))) := by
    simp only [String.toList_append, List.append_assoc]
    rfl
  -- The comma ends the number in front of it as a space would.
  have ends (tail : List Char) : ∀ c, (", ".toList ++ tail).head? = some c → Sql.continuesWord c = false := by
    intro c first
    cases (Option.some.inj first : ',' = c)
    rfl
  rw [chars, Sql.finish_append limit, Sql.finish_number From (ends _), Sql.finish_append comma,
    finish_number HowMany space, last]
  rfl

/-- The form of a range with a keyword is read as its two numbers, the count first. -/
theorem finish_offsetForm {dialect : Sql.Dialect} (From HowMany : Nat) :
    Sql.finish dialect .gap (" LIMIT " ++ toString HowMany ++ " OFFSET " ++ toString From ++ " ").toList =
      some [.word "LIMIT", .number HowMany, .word "OFFSET", .number From] := by
  have limit : Sql.feed dialect .gap " LIMIT ".toList = some ([.word "LIMIT"], .gap) := rfl
  have offset : Sql.feed dialect .gap " OFFSET ".toList = some ([.word "OFFSET"], .gap) := rfl
  have space : Breaks [' '] := fun c first => (Option.some.inj first).symm
  have last : Sql.finish dialect .gap [' '] = some [] := rfl
  have chars : (" LIMIT " ++ toString HowMany ++ " OFFSET " ++ toString From ++ " ").toList =
      " LIMIT ".toList ++ ((toString HowMany).toList ++
        (" OFFSET ".toList ++ ((toString From).toList ++ [' ']))) := by
    simp only [String.toList_append, List.append_assoc]
    rfl
  -- The keyword begins with a space, which ends the number in front of it.
  have spaced (tail : List Char) : Breaks (" OFFSET ".toList ++ tail) :=
    fun c first => (Option.some.inj first).symm
  rw [chars, Sql.finish_append limit, finish_number HowMany (spaced _), Sql.finish_append offset,
    finish_number From space, last]
  rfl

/-- What `ComputeRange` writes is read as the range it is given, behind any order clause. -/
theorem lex_computeRange (type : DBType) (From HowMany : UInt64) {text : String} {tokens : List Sql.Token}
    (before : Sql.feed type.dialect .gap text.toList = some (tokens, .gap)) :
    Sql.lex type.dialect (text ++ computeRange type From HowMany) =
      some (tokens ++ rangeTokens type From.toNat HowMany.toNat) := by
  have same : (if From < 1 then 0 else From) = From := by
    split
    · rename_i small
      apply UInt64.toNat_inj.mp
      rw [UInt64.lt_iff_toNat_lt] at small
      have one : (1 : UInt64).toNat = 1 := rfl
      have zero : (0 : UInt64).toNat = 0 := rfl
      omega
    · rfl
  rw [Sql.lex_eq_finish, String.toList_append, Sql.finish_append before]
  -- Only SQLite is sent the form with the comma.
  cases type with
  | sqlite =>
    rw [computeRange, same, finish_commaForm]
    rfl
  | pgsql =>
    rw [computeRange, same, finish_offsetForm]
    rfl
  | mysql =>
    rw [computeRange, same, finish_offsetForm]
    rfl

/-- A page query is ordered by its order clause and cut to its range, when the database accepts the range. -/
theorem ending_computeRange {tokens : List Sql.Token} {terms : List Sql.OrderTerm} {order : SortOrder ρ}
    (before : Sql.feed type.dialect .gap OrderBy.toList = some (tokens, .gap))
    (parsed : ∀ From HowMany, Sql.listing? type.commaRange (tokens ++ rangeTokens type From HowMany) =
      some ⟨terms, some ⟨From, HowMany⟩⟩)
    (ordered : schema.sortOrder collation terms = some order) (From HowMany : UInt64) :
    ending schema collation type (OrderBy ++ computeRange type From HowMany) =
      if type.AcceptsRange ⟨From.toNat, HowMany.toNat⟩ then some (order, some ⟨From.toNat, HowMany.toNat⟩)
      else none := by
  -- The tokens of both clauses are read as one ending.
  simp only [ending, lex_computeRange type From HowMany before, parsed, ordered, Option.bind_eq_bind,
    Option.bind_some, Option.mem_def, Option.some.injEq, forall_eq']

/-- A query without an order clause is only cut to its range. -/
theorem ending_unordered (From HowMany : UInt64) :
    ending schema collation type ("" ++ computeRange type From HowMany) =
      if type.AcceptsRange ⟨From.toNat, HowMany.toNat⟩ then some (.unordered, some ⟨From.toNat, HowMany.toNat⟩)
      else none := by
  -- There are no tokens in front of the range.
  have before : Sql.feed type.dialect .gap "".toList = some ([], .gap) := rfl
  have ordered : schema.sortOrder collation [] = some .unordered := rfl
  refine ending_computeRange before (fun From HowMany => ?_) ordered From HowMany
  cases type <;> rfl

/-- The selected rows are some of the stored ones, in any reading. -/
theorem selected_sublist (reads : Reading ρ) (t : schema.Table) (Where : String) :
    (selected reads t Where).Sublist t.rows := by
  unfold selected matchingBy
  split
  · exact List.Sublist.refl _
  · cases reads Where with
    | none => exact List.nil_sublist _
    | some condition => exact List.filter_sublist

/-- The selected rows are told apart by their keys. -/
theorem nodup_selected (reads : Reading ρ) (t : schema.Table) (Where : String) : (selected reads t Where).Nodup :=
  (t.distinct.of_map schema.key).sublist (selected_sublist reads t Where)

/-- A query whose range is accepted may return the page of every listing that fits, and no other. -/
theorem mayGetRecords_iff {rows records : List ρ} {order : SortOrder ρ} {range : Sql.Range} {Offset HowMany : UInt64}
    (matched : matchingBy reads t Where = some rows)
    (read : ending schema collation type (OrderBy ++ computeRange type Offset HowMany) =
      some (order, some range)) :
    MayGetRecords reads collation type t Offset HowMany Where OrderBy records ↔
      ∃ listing, order.Lists rows listing ∧ records = (listing.drop range.offset).take range.count := by
  constructor
  · -- The query has been read in one way only.
    rintro (⟨matched', read', lists⟩ | failed)
    · cases matched.symm.trans matched'
      cases read.symm.trans read'
      exact ⟨_, lists, rfl⟩
    · simp [matched, read] at failed
  · rintro ⟨listing, lists, rfl⟩
    exact MayGetRecords.returned matched read lists

/-- A query that the database refuses returns nothing. -/
theorem mayGetRecords_of_refused {records : List ρ} {Offset HowMany : UInt64}
    (refused : matchingBy reads t Where = none ∨
      ending schema collation type (OrderBy ++ computeRange type Offset HowMany) = none) :
    MayGetRecords reads collation type t Offset HowMany Where OrderBy records ↔ records = [] := by
  constructor
  · rintro (⟨matched, read, _⟩ | _)
    · simp [matched, read] at refused
    · rfl
  · rintro rfl
    exact MayGetRecords.thrown refused

section Pages

variable {order : SortOrder ρ} {size : UInt64}
  (read : ∀ Offset, ending schema collation type (OrderBy ++ computeRange type Offset size) =
    if type.AcceptsRange ⟨Offset.toNat, size.toNat⟩ then some (order, some ⟨Offset.toNat, size.toNat⟩) else none)

include read

/-- A page is cut out of some listing where its range is accepted, and empty elsewhere. -/
theorem isPage_iff {rows records : List ρ} (matched : matchingBy reads t Where = some rows) (Offset : Nat) :
    IsPage (fun Offset => MayGetRecords reads collation type t Offset size Where OrderBy) Offset records ↔
      if type.AcceptsRange ⟨Offset, size.toNat⟩ then
        ∃ listing, order.Lists rows listing ∧ records = (listing.drop Offset).take size.toNat
      else records = [] := by
  have bound : type.rangeBound ≤ UInt64.size := by cases type <;> decide
  unfold IsPage
  by_cases fits : Offset < UInt64.size
  · have same : (UInt64.ofNat Offset).toNat = Offset := UInt64.toNat_ofNat_of_lt' fits
    have reads := read (UInt64.ofNat Offset)
    rw [same] at reads
    rw [if_pos fits]
    by_cases accepted : type.AcceptsRange ⟨Offset, size.toNat⟩
    · rw [if_pos accepted] at reads ⊢
      exact mayGetRecords_iff matched reads
    · rw [if_neg accepted] at reads ⊢
      exact mayGetRecords_of_refused (Or.inr reads)
  · -- No product accepts an offset beyond 64 bits.
    have refused : ¬ type.AcceptsRange ⟨Offset, size.toNat⟩ := fun accepted =>
      fits (Nat.lt_of_lt_of_le accepted.1 bound)
    rw [if_neg fits, if_neg refused]

/-- Pages that join are asked for with numbers that the database accepts. -/
theorem acceptsPages_of_pagesJoin {rows : List ρ} (positive : 0 < size.toNat)
    (matched : matchingBy reads t Where = some rows) (filled : rows ≠ [])
    (joins : PagesJoin (fun Offset => MayGetRecords reads collation type t Offset size Where OrderBy) size rows) :
    AcceptsPages type size.toNat rows.length := by
  obtain ⟨listing, lists⟩ := SortOrder.exists_lists order rows
  have some_ : 0 < rows.length := List.length_pos_iff.mpr filled
  -- The pages of one listing, as far as their ranges are accepted.
  let pages (page : Nat) : List ρ :=
    if type.AcceptsRange ⟨page * size.toNat, size.toNat⟩ then
      (listing.drop (page * size.toNat)).take size.toNat
    else []
  have got (page : Nat) :
      IsPage (fun Offset => MayGetRecords reads collation type t Offset size Where OrderBy) (page * size.toNat)
        (pages page) := by
    rw [isPage_iff read matched]
    by_cases accepted : type.AcceptsRange ⟨page * size.toNat, size.toNat⟩
    · rw [if_pos accepted]
      exact ⟨listing, lists, if_pos accepted⟩
    · rw [if_neg accepted]
      exact if_neg accepted
  have short (page : Nat) : (pages page).length ≤ size.toNat := by
    show (if _ then _ else _ : List ρ).length ≤ _
    split
    · exact List.length_take_le _ _
    · exact Nat.zero_le _
  -- Enough pages to have all rows on them.
  have enough : rows.length ≤ rows.length * size.toNat := Nat.le_mul_of_pos_right _ positive
  have whole := (joins pages got rows.length enough).length_eq
  -- From a refused page on, all pages are empty, so the rows would have to be on those before it.
  have before (last : Nat) (empty : ∀ page, last ≤ page → pages page = []) : rows.length ≤ last * size.toNat := by
    have total (count : Nat) : ((List.range count).flatMap pages).length ≤ min count last * size.toNat := by
      induction count with
      | zero => exact Nat.zero_le _
      | succ count ih =>
        rw [List.range_succ, List.flatMap_append, List.flatMap_singleton, List.length_append]
        by_cases late : last ≤ count
        · rw [empty count late, List.length_nil, Nat.min_eq_right (Nat.le_succ_of_le late)]
          rwa [Nat.min_eq_right late] at ih
        · have early : count + 1 ≤ last := Nat.lt_of_not_le late
          have page := short count
          rw [Nat.min_eq_left early, Nat.succ_mul]
          rw [Nat.min_eq_left (Nat.le_of_lt early)] at ih
          omega
    rw [← whole]
    exact Nat.le_trans (total _) (Nat.mul_le_mul_right _ (Nat.min_le_right _ _))
  constructor
  · by_contra large
    have none_ := before 0 fun page _ => if_neg fun accepted => large accepted.2
    omega
  · intro page inside
    by_contra beyond
    have refused := before page fun later behind => if_neg fun accepted => beyond
      (Nat.lt_of_le_of_lt (Nat.mul_le_mul_right _ behind) accepted.1)
    omega

/-- The pages of a query join to its rows exactly if it has none, or its pages are accepted and separate ties. -/
theorem pagesJoin_iff (positive : 0 < size.toNat) :
    PagesJoin (fun Offset => MayGetRecords reads collation type t Offset size Where OrderBy) size
        (selected reads t Where) ↔
      selected reads t Where = [] ∨ AcceptsPages type size.toNat (selected reads t Where).length ∧
        ∀ page, order.Separates (selected reads t Where) (page * size.toNat) := by
  have once := nodup_selected reads t Where
  cases matched : matchingBy reads t Where with
  | none =>
    -- A query that fails has neither rows nor pages.
    have rows : selected reads t Where = [] := by simp [selected, matched]
    rw [rows]
    refine iff_of_true (fun pages got count _ => ?_) (Or.inl rfl)
    have empty : (List.range count).flatMap pages = [] := by
      refine List.flatMap_eq_nil_iff.mpr fun page _ => ?_
      have page_ := got page
      unfold IsPage at page_
      split at page_
      · exact (mayGetRecords_of_refused (Or.inl matched)).mp page_
      · exact page_
    rw [empty]
  | some rows =>
    have same : selected reads t Where = rows := by simp [selected, matched]
    rw [same] at once ⊢
    -- Where the pages are accepted, a page that is not has no rows in any listing.
    have cuts (accepts : AcceptsPages type size.toNat rows.length) (page : Nat) (records : List ρ) :
        IsPage (fun Offset => MayGetRecords reads collation type t Offset size Where OrderBy) (page * size.toNat)
            records ↔
          ∃ listing, order.Lists rows listing ∧ records = (listing.drop (page * size.toNat)).take size.toNat := by
      rw [isPage_iff read matched]
      by_cases accepted : type.AcceptsRange ⟨page * size.toNat, size.toNat⟩
      · rw [if_pos accepted]
      · have behind : rows.length ≤ page * size.toNat := by
          by_contra inside
          exact accepted ⟨accepts.2 page (Nat.lt_of_not_le inside), accepts.1⟩
        rw [if_neg accepted]
        constructor
        · rintro rfl
          obtain ⟨listing, lists⟩ := SortOrder.exists_lists order rows
          refine ⟨listing, lists, ?_⟩
          rw [List.drop_eq_nil_of_le (by rw [lists.1.length_eq]; exact behind), List.take_nil]
        · rintro ⟨listing, lists, rfl⟩
          rw [List.drop_eq_nil_of_le (by rw [lists.1.length_eq]; exact behind), List.take_nil]
    constructor
    · intro joins
      by_cases filled : rows = []
      · exact Or.inl filled
      · have accepts := acceptsPages_of_pagesJoin read positive matched filled joins
        refine Or.inr ⟨accepts, (SortOrder.pages_join_iff positive once).mp fun listings lists => ?_⟩
        exact joins _ fun page => (cuts accepts page _).mpr ⟨listings page, lists page, rfl⟩
    · rintro (rfl | ⟨accepts, separates⟩) pages got count enough
      · -- Without rows there is nothing on any page.
        have empty : (List.range count).flatMap pages = [] := by
          refine List.flatMap_eq_nil_iff.mpr fun page _ => ?_
          have page_ := (isPage_iff read matched _).mp (got page)
          split at page_
          · obtain ⟨listing, lists, same⟩ := page_
            rw [same, List.perm_nil.mp lists.1, List.drop_nil, List.take_nil]
          · exact page_
        rw [empty]
      · have listed (page : Nat) := (cuts accepts page _).mp (got page)
        choose listings lists cut_ using listed
        have pages_ : pages = fun page => ((listings page).drop (page * size.toNat)).take size.toNat :=
          funext cut_
        rw [pages_]
        exact (SortOrder.pages_join_iff positive once).mpr separates listings lists count enough

end Pages

/-- On a database that lists rows as they are stored, `GetRecords` adds what it may add. -/
theorem mayGetRecords_getRecords {Offset HowMany : UInt64}
    (accepted : type.AcceptsRange ⟨Offset.toNat, HowMany.toNat⟩) :
    MayGetRecords (Sql.whereClause type.dialect schema.columns) collation type t Offset HowMany Where ""
      ((getRecords type t Offset.toNat HowMany.toNat Where).getD []) := by
  cases matched : matching type t Where with
  | none =>
    have nothing : getRecords type t Offset.toNat HowMany.toNat Where = none := by simp [getRecords, matched]
    rw [nothing]
    exact MayGetRecords.thrown (Or.inl matched)
  | some rows =>
    -- The stored order is one of the listings without an order.
    have read : ending schema collation type ("" ++ computeRange type Offset HowMany) =
        some (.unordered, some ⟨Offset.toNat, HowMany.toNat⟩) := by
      rw [ending_unordered, if_pos accepted]
    refine (mayGetRecords_iff matched read).mpr ⟨rows, ?_, ?_⟩
    · exact ⟨List.Perm.refl rows, List.pairwise_of_forall fun _ _ => trivial⟩
    · simp only [getRecords, matched, Option.bind_eq_bind, Option.bind_some]
      -- An empty page is reported as no result.
      split
      · rename_i empty
        exact (List.isEmpty_iff.mp empty).symm
      · rfl

end Orm

section Queries

variable (collation : KeyOrder) (type : DBType)

/-- The pages of `GetFirmwares` join exactly if all its rows fit on one page of an accepted size. -/
theorem FirmwaresDB.pagesJoin_iff (reads : Orm.Reading Firmware) (firmwares : FirmwaresTable) (Compatible : String)
    {size : UInt64} (positive : 0 < size.toNat) :
    Orm.PagesJoin (fun Offset => MayGetFirmwares reads collation type firmwares Compatible Offset size) size
        (Orm.selected reads firmwares (compatibleClause Compatible)) ↔
      Orm.selected reads firmwares (compatibleClause Compatible) = [] ∨
        size.toNat < type.rangeBound ∧
          (Orm.selected reads firmwares (compatibleClause Compatible)).length ≤ size.toNat := by
  -- All firmwares tie, so they have to fit on one page.
  have joins := @Orm.pagesJoin_iff _ _ reads collation type firmwares (compatibleClause Compatible) "" .unordered size
    (fun Offset => Orm.ending_unordered Offset size) positive
  rw [SortOrder.separates_unordered_iff positive] at joins
  refine joins.trans (or_congr_right ⟨fun both => ⟨both.1.1, both.2⟩, fun both => ⟨⟨both.1, ?_⟩, both.2⟩⟩)
  intro page inside
  -- The only page with rows on it is the first.
  have bound : 0 < type.rangeBound := by cases type <;> decide
  cases page with
  | zero => rwa [Nat.zero_mul]
  | succ before =>
    have behind : size.toNat ≤ (before + 1) * size.toNat := Nat.le_mul_of_pos_left _ (Nat.succ_pos before)
    omega

/-- On a database that lists rows as they are stored, `GetFirmwares` returns what it may return. -/
theorem FirmwaresDB.mayGetFirmwares_getFirmwares (c : Catalogue) (Compatible : String) {From HowMany : UInt64}
    (accepted : type.AcceptsRange ⟨From.toNat, HowMany.toNat⟩) :
    MayGetFirmwares (Sql.whereClause type.dialect firmwaresSchema.columns) collation type c.firmwares Compatible From
      HowMany (getFirmwares type c From.toNat HowMany.toNat Compatible).2 :=
  Orm.mayGetRecords_getRecords accepted

/-- The clause for a spelled device type selects the rows of the type. -/
theorem FirmwaresDB.typeClause_denotes {text deviceType : String}
    (spelled : Sql.Spells type.dialect text deviceType) :
    Sql.whereClause type.dialect firmwaresSchema.columns (typeClause text) =
      some fun row => decide (row.deviceType = deviceType) := by
  -- The literal is read in one piece, and it is all the clause compares with.
  have tokens := Sql.lex_one_literal spelled " DeviceType='" "' " [.word "DeviceType", .symbol "="]
    (fun read => [.literal (String.ofList read)]) rfl fun _ => rfl
  have parsed (value : String) : Sql.parseCondition [.word "DeviceType", .symbol "=", .literal value] =
      some (.compare "DeviceType" .eq (.text value)) := rfl
  have compiled (value : String) :
      (Sql.Condition.compare "DeviceType" .eq (.text value)).compile firmwaresSchema.columns =
      some fun row => decide (row.deviceType = value) :=
    congrArg some (funext fun row => Sql.holds_eq row.deviceType value)
  rw [String.ofList_toList] at tokens
  exact Sql.whereClause_eq_some tokens (parsed deviceType) (compiled deviceType)

/-- The later upgrade comes first, and entries with one upgrade time tie. -/
def HistoryDB.latestFirst : SortOrder RevisionHistoryEntry :=
  (numbers.by fun row => bigint row.upgraded).descending.thenBy .unordered

/-- An entry may stand before another one unless it was upgraded earlier. -/
theorem HistoryDB.latestFirst_le {left right : RevisionHistoryEntry} :
    latestFirst.le left right ↔ bigint right.upgraded ≤ bigint left.upgraded :=
  ⟨fun le => le.1, fun le => ⟨le, fun _ => trivial⟩⟩

/-- The entries are read with the latest upgrade first. -/
theorem HistoryDB.ending_latestFirst (From HowMany : UInt64) :
    Orm.ending historySchema collation type (" order by upgraded DESC " ++ Orm.computeRange type From HowMany) =
      if type.AcceptsRange ⟨From.toNat, HowMany.toNat⟩ then
        some (latestFirst, some ⟨From.toNat, HowMany.toNat⟩)
      else none := by
  -- The words of the order clause do not depend on the database.
  have before : Sql.feed type.dialect .gap " order by upgraded DESC ".toList =
      some ([.word "order", .word "by", .word "upgraded", .word "DESC"], .gap) := rfl
  have parsed (From HowMany : Nat) : Sql.listing? type.commaRange
      ([.word "order", .word "by", .word "upgraded", .word "DESC"] ++ Orm.rangeTokens type From HowMany) =
      some ⟨[⟨"upgraded", true⟩], some ⟨From, HowMany⟩⟩ := by
    cases type <;> rfl
  have ordered : historySchema.sortOrder collation [⟨"upgraded", true⟩] = some latestFirst := rfl
  exact Orm.ending_computeRange before parsed ordered From HowMany

/-- No tie lies across the start of a page exactly if no upgrade time lies on both sides of it. -/
theorem HistoryDB.separates_iff {rows : List RevisionHistoryEntry} {size : Nat} :
    (∀ page, latestFirst.Separates rows (page * size)) ↔ TiesOnOnePage rows size := by
  -- The two counts are those of the later and of the not earlier upgrades.
  have ahead (row : RevisionHistoryEntry) : latestFirst.ahead rows row =
      rows.countP fun other => decide (bigint row.upgraded < bigint other.upgraded) := by
    refine List.countP_congr fun other _ => ?_
    simp [latestFirst_le]
  have upTo (row : RevisionHistoryEntry) : latestFirst.upTo rows row =
      rows.countP fun other => decide (bigint row.upgraded ≤ bigint other.upgraded) := by
    refine List.countP_congr fun other _ => ?_
    simp [latestFirst_le]
  simp only [SortOrder.Separates, ahead, upTo, TiesOnOnePage]

/-- The pages of `GetHistory` join exactly if no upgrade time lies on both sides of the start of an accepted page. -/
theorem HistoryDB.pagesJoin_iff (reads : Orm.Reading RevisionHistoryEntry) (history : HistoryTable)
    (SerialNumber : String) {size : UInt64} (positive : 0 < size.toNat) :
    Orm.PagesJoin (fun Offset => MayGetHistory reads collation type history SerialNumber Offset size) size
        (Orm.selected reads history (serialClause SerialNumber)) ↔
      Orm.selected reads history (serialClause SerialNumber) = [] ∨
        Orm.AcceptsPages type size.toNat (Orm.selected reads history (serialClause SerialNumber)).length ∧
          TiesOnOnePage (Orm.selected reads history (serialClause SerialNumber)) size.toNat := by
  -- Only entries with one upgrade time tie.
  rw [← separates_iff]
  exact Orm.pagesJoin_iff (fun Offset => ending_latestFirst collation type Offset size) positive

/-- The pages of `GetDevices` join exactly if they are accepted. -/
theorem DevicesDB.pagesJoin_iff (reads : Orm.Reading DeviceConnectionInformation) (devices : DevicesTable)
    {size : UInt64} (positive : 0 < size.toNat) :
    Orm.PagesJoin (fun Offset => MayGetDevices reads collation type devices Offset size) size devices.rows ↔
      devices.rows = [] ∨ Orm.AcceptsPages type size.toNat devices.rows.length := by
  have before : Sql.feed type.dialect .gap " ORDER BY SerialNumber ASC ".toList =
      some ([.word "ORDER", .word "BY", .word "SerialNumber", .word "ASC"], .gap) := rfl
  have parsed (From HowMany : Nat) : Sql.listing? type.commaRange
      ([.word "ORDER", .word "BY", .word "SerialNumber", .word "ASC"] ++ Orm.rangeTokens type From HowMany) =
      some ⟨[⟨"SerialNumber", false⟩], some ⟨From, HowMany⟩⟩ := by
    cases type <;> rfl
  have ordered : devicesSchema.sortOrder collation [⟨"SerialNumber", false⟩] =
      some ((collation.texts.by DeviceConnectionInformation.serialNumber).thenBy .unordered) := rfl
  have rows : Orm.selected reads devices "" = devices.rows := rfl
  -- The serial number is the key, so no two devices tie.
  have separates (page : Nat) :
      ((collation.texts.by DeviceConnectionInformation.serialNumber).thenBy .unordered).Separates
        (Orm.selected reads devices "") (page * size.toNat) := by
    refine SortOrder.separates_of_antisymm (Orm.nodup_selected reads devices "") ?_ (page * size.toNat)
    rw [rows]
    intro left stored right stored' le ge
    exact KeyedTable.eq_of_key stored stored' (collation.antisymm _ _ le.1 ge.1)
  have joins := @Orm.pagesJoin_iff _ _ reads collation type devices "" _ _ size
    (fun Offset => Orm.ending_computeRange before parsed ordered Offset size) positive
  rw [rows] at joins separates
  exact joins.trans (or_congr_right (and_iff_left separates))

/-- On a database that lists ties as they are stored, `GetHistory` returns what it may return. -/
theorem HistoryDB.mayGetHistory_getHistory (history : HistoryTable) (SerialNumber : String)
    {From HowMany : UInt64} (accepted : type.AcceptsRange ⟨From.toNat, HowMany.toNat⟩) :
    MayGetHistory (Sql.whereClause type.dialect historySchema.columns) collation type history SerialNumber From HowMany
      ((getHistory type history SerialNumber From.toNat HowMany.toNat).getD []) := by
  cases matched : Orm.matching type history (serialClause SerialNumber) with
  | none =>
    have nothing : getHistory type history SerialNumber From.toNat HowMany.toNat = none := by
      simp [getHistory, matched]
    rw [nothing]
    exact Orm.MayGetRecords.thrown (Or.inl matched)
  | some rows =>
    -- Sorting by insertion keeps ties as they are stored, and is one of the listings.
    have read := ending_latestFirst collation type From HowMany
    rw [if_pos accepted] at read
    refine (Orm.mayGetRecords_iff matched read).mpr ?_
    refine ⟨rows.insertionSort fun left right => bigint right.upgraded ≤ bigint left.upgraded, ?_, ?_⟩
    · have total : Std.Total fun left right : RevisionHistoryEntry => bigint right.upgraded ≤ bigint left.upgraded :=
        ⟨fun left right => Int.le_total (bigint right.upgraded) (bigint left.upgraded)⟩
      have trans : IsTrans RevisionHistoryEntry fun left right => bigint right.upgraded ≤ bigint left.upgraded :=
        ⟨fun _ _ _ before behind => Int.le_trans behind before⟩
      refine ⟨List.perm_insertionSort _ rows, ?_⟩
      exact (List.pairwise_insertionSort _ rows).imp latestFirst_le.mpr
    · simp only [getHistory, matched, Option.bind_eq_bind, Option.bind_some]
      -- An empty page is reported as no result.
      split
      · rename_i empty
        exact (List.isEmpty_iff.mp empty).symm
      · rfl

/--
The pages of all three queries against every choice of the database.

`GetFirmwares` gives no order, so only a single page is safe; `GetHistory` orders by a column that is no key,
so an upgrade time on both sides of the start of a page is not; `GetDevices` orders by the key. All of them need
numbers that the database accepts in a range.  Which rows a clause selects is for the database to say, so this is so
also of device types and serial numbers with quotes.
-/
theorem pageQueries_join_iff (firmwaresBy : Orm.Reading Firmware) (historyBy : Orm.Reading RevisionHistoryEntry)
    (devicesBy : Orm.Reading DeviceConnectionInformation) (firmwares : FirmwaresTable) (Compatible : String)
    (history : HistoryTable) (SerialNumber : String) (devices : DevicesTable) (size : UInt64)
    (positive : 0 < size.toNat) :
    (Orm.PagesJoin (fun Offset =>
        FirmwaresDB.MayGetFirmwares firmwaresBy collation type firmwares Compatible Offset size) size
        (Orm.selected firmwaresBy firmwares (FirmwaresDB.compatibleClause Compatible)) ↔
      Orm.selected firmwaresBy firmwares (FirmwaresDB.compatibleClause Compatible) = [] ∨
        size.toNat < type.rangeBound ∧
          (Orm.selected firmwaresBy firmwares (FirmwaresDB.compatibleClause Compatible)).length ≤ size.toNat) ∧
    (Orm.PagesJoin (fun Offset =>
        HistoryDB.MayGetHistory historyBy collation type history SerialNumber Offset size) size
        (Orm.selected historyBy history (HistoryDB.serialClause SerialNumber)) ↔
      Orm.selected historyBy history (HistoryDB.serialClause SerialNumber) = [] ∨
        Orm.AcceptsPages type size.toNat
            (Orm.selected historyBy history (HistoryDB.serialClause SerialNumber)).length ∧
          HistoryDB.TiesOnOnePage (Orm.selected historyBy history (HistoryDB.serialClause SerialNumber))
            size.toNat) ∧
    (Orm.PagesJoin (fun Offset => DevicesDB.MayGetDevices devicesBy collation type devices Offset size) size
        devices.rows ↔
      devices.rows = [] ∨ Orm.AcceptsPages type size.toNat devices.rows.length) :=
  ⟨FirmwaresDB.pagesJoin_iff collation type firmwaresBy firmwares Compatible positive,
    HistoryDB.pagesJoin_iff collation type historyBy history SerialNumber positive,
    DevicesDB.pagesJoin_iff collation type devicesBy devices positive⟩

end Queries

/-- The reading of clauses on firmwares, as far as they are comparisons. -/
def readsFirmwares : Orm.Reading Firmware := Sql.whereClause DBType.sqlite.dialect firmwaresSchema.columns

/-- The reading of clauses on history entries. -/
def readsHistory : Orm.Reading RevisionHistoryEntry := Sql.whereClause DBType.sqlite.dialect historySchema.columns

/-- Two builds of one device type, which no page query puts in an order. -/
def pagedFirmwares : FirmwaresTable :=
  ⟨[{ id := "1", deviceType := "eap101" }, { id := "2", deviceType := "eap101" }], by decide⟩

/-- Two upgrades of one device within a second. -/
def pagedUpgrades : HistoryTable :=
  ⟨[{ id := "1", serialNumber := "aabbccddeeff", upgraded := 7 },
    { id := "2", serialNumber := "aabbccddeeff", upgraded := 7 }], by decide⟩

/-- Two devices, which are in the order of their serial numbers on every page. -/
def pagedDevices : DevicesTable :=
  ⟨[{ serialNumber := "aabbccddeeff" }, { serialNumber := "aabbccddee00" }], by decide⟩

/-- Pages of one record: the devices join, and the firmwares and upgrades do only where one page holds them. -/
theorem pageQueries_join_one_record :
    (Orm.PagesJoin (fun Offset =>
        FirmwaresDB.MayGetFirmwares readsFirmwares .byCharacters .sqlite pagedFirmwares "eap101" Offset 1) 1
        (Orm.selected readsFirmwares pagedFirmwares (FirmwaresDB.compatibleClause "eap101")) ↔
      Orm.selected readsFirmwares pagedFirmwares (FirmwaresDB.compatibleClause "eap101") = [] ∨
        (1 : UInt64).toNat < DBType.sqlite.rangeBound ∧
          (Orm.selected readsFirmwares pagedFirmwares (FirmwaresDB.compatibleClause "eap101")).length ≤
            (1 : UInt64).toNat) ∧
    (Orm.PagesJoin (fun Offset =>
        HistoryDB.MayGetHistory readsHistory .byCharacters .sqlite pagedUpgrades "aabbccddeeff" Offset 1) 1
        (Orm.selected readsHistory pagedUpgrades (HistoryDB.serialClause "aabbccddeeff")) ↔
      Orm.selected readsHistory pagedUpgrades (HistoryDB.serialClause "aabbccddeeff") = [] ∨
        Orm.AcceptsPages .sqlite (1 : UInt64).toNat
            (Orm.selected readsHistory pagedUpgrades (HistoryDB.serialClause "aabbccddeeff")).length ∧
          HistoryDB.TiesOnOnePage (Orm.selected readsHistory pagedUpgrades (HistoryDB.serialClause "aabbccddeeff"))
            (1 : UInt64).toNat) ∧
    (Orm.PagesJoin (fun Offset =>
        DevicesDB.MayGetDevices (fun _ => none) .byCharacters .sqlite pagedDevices Offset 1) 1 pagedDevices.rows ↔
      pagedDevices.rows = [] ∨ Orm.AcceptsPages .sqlite (1 : UInt64).toNat pagedDevices.rows.length) :=
  pageQueries_join_iff .byCharacters .sqlite readsFirmwares readsHistory (fun _ => none) pagedFirmwares "eap101"
    pagedUpgrades "aabbccddeeff" pagedDevices 1 (by decide)

/-- Read one by one, two builds of a type, and two upgrades within a second, can be skipped and repeated. -/
theorem pageQueries_join_fails :
    ¬ Orm.PagesJoin (fun Offset =>
        FirmwaresDB.MayGetFirmwares readsFirmwares .byCharacters .sqlite pagedFirmwares "eap101" Offset 1)
        1 pagedFirmwares.rows ∧
    ¬ Orm.PagesJoin (fun Offset =>
        HistoryDB.MayGetHistory readsHistory .byCharacters .sqlite pagedUpgrades "aabbccddeeff" Offset 1)
        1 pagedUpgrades.rows := by
  -- The clauses select both rows.
  have builds : Orm.selected readsFirmwares pagedFirmwares (FirmwaresDB.compatibleClause "eap101") =
      pagedFirmwares.rows := by
    decide +kernel
  have upgrades : Orm.selected readsHistory pagedUpgrades (HistoryDB.serialClause "aabbccddeeff") =
      pagedUpgrades.rows := by
    decide +kernel
  have one : 0 < (1 : UInt64).toNat := by decide
  constructor
  · intro joins
    rw [← builds] at joins
    -- Two rows do not fit on a page of one.
    have fits := (FirmwaresDB.pagesJoin_iff .byCharacters .sqlite readsFirmwares pagedFirmwares "eap101" one).mp joins
    rw [builds] at fits
    exact absurd fits (by decide)
  · intro joins
    rw [← upgrades] at joins
    have ties := (HistoryDB.pagesJoin_iff .byCharacters .sqlite readsHistory pagedUpgrades "aabbccddeeff" one).mp joins
    rw [upgrades] at ties
    rcases ties with none_ | ⟨_, apart⟩
    · exact absurd none_ (by decide)
    · -- One upgrade is on either side of the second page's start.
      exact absurd (apart 1 _ List.mem_cons_self (by decide)) (by decide)

end Fms
