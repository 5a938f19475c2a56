import Fms.Relation.Paging
import Mathlib.Data.List.Sort

/-! Reading a relation page by page, where each page may come from another order that fits the query. -/

universe u

namespace Paging

variable {ρ : Type u}

/-- The order a query asks for, in which rows may tie. -/
structure SortOrder (ρ : Type u) where
  le : ρ → ρ → Prop
  decidable : DecidableRel le
  total : ∀ left right, le left right ∨ le right left
  trans : ∀ first second third, le first second → le second third → le first third

/-- The order of a query that asks for none. -/
def SortOrder.unordered : SortOrder ρ where
  le _ _ := True
  decidable _ _ := isTrue trivial
  total _ _ := Or.inl trivial
  trans _ _ _ _ _ := trivial

/-- Rows in the order of what is read from them. -/
def SortOrder.by {κ : Type} (read : ρ → κ) (order : SortOrder κ) : SortOrder ρ where
  le left right := order.le (read left) (read right)
  decidable left right := order.decidable (read left) (read right)
  total left right := order.total (read left) (read right)
  trans first second third := order.trans (read first) (read second) (read third)

/-- The same order from its end. -/
def SortOrder.descending (order : SortOrder ρ) : SortOrder ρ where
  le left right := order.le right left
  decidable left right := order.decidable right left
  total left right := order.total right left
  trans first second third before behind := order.trans third second first behind before

/-- An order whose ties are in a further order. -/
def SortOrder.thenBy (order ties : SortOrder ρ) : SortOrder ρ where
  le left right := order.le left right ∧ (order.le right left → ties.le left right)
  decidable left right :=
    have := order.decidable left right
    have := order.decidable right left
    have := ties.decidable left right
    inferInstanceAs (Decidable (_ ∧ (_ → _)))
  total left right := by
    rcases order.total left right with before | before
    · by_cases behind : order.le right left
      · rcases ties.total left right with le | le
        · exact Or.inl ⟨before, fun _ => le⟩
        · exact Or.inr ⟨behind, fun _ => le⟩
      · exact Or.inl ⟨before, fun le => absurd le behind⟩
    · by_cases behind : order.le left right
      · rcases ties.total left right with le | le
        · exact Or.inl ⟨behind, fun _ => le⟩
        · exact Or.inr ⟨before, fun _ => le⟩
      · exact Or.inr ⟨before, fun le => absurd le behind⟩
  trans first second third before behind := by
    refine ⟨order.trans _ _ _ before.1 behind.1, fun back => ?_⟩
    -- All three tie in the first order.
    have left := before.2 (order.trans _ _ _ behind.1 back)
    have right := behind.2 (order.trans _ _ _ back before.1)
    exact ties.trans _ _ _ left right

namespace SortOrder

variable (order : SortOrder ρ)

/-- It can be decided whether a row may stand before another one. -/
instance : DecidableRel order.le := order.decidable

/-- The rows in some order that fits the query. -/
def Lists (rows listing : List ρ) : Prop :=
  listing.Perm rows ∧ listing.Pairwise order.le

/-- How many rows stand before a row in every such order. -/
def ahead (rows : List ρ) (row : ρ) : Nat :=
  rows.countP fun other => decide (¬ order.le row other)

/-- How many rows stand before a row or may do so, itself included. -/
def upTo (rows : List ρ) (row : ρ) : Nat :=
  rows.countP fun other => decide (order.le other row)

/-- No rows that tie lie on both sides of a boundary. -/
def Separates (rows : List ρ) (boundary : Nat) : Prop :=
  ∀ row ∈ rows, order.ahead rows row < boundary → order.upTo rows row ≤ boundary

instance (rows : List ρ) (boundary : Nat) : Decidable (order.Separates rows boundary) :=
  inferInstanceAs (Decidable (∀ row ∈ rows, _ → _))

/-- The pages of a size up to a count, each cut out of its own listing. -/
def pages (size : Nat) (listings : Nat → List ρ) (count : Nat) : List ρ :=
  (List.range count).flatMap fun page => ((listings page).drop (page * size)).take size

variable {order} {rows listing : List ρ}

/-- Every row may stand before itself. -/
theorem le_refl (row : ρ) : order.le row row := (order.total row row).elim id id

/-- Some order fits every query. -/
theorem exists_lists (order : SortOrder ρ) (rows : List ρ) : ∃ listing, order.Lists rows listing := by
  have total : Std.Total order.le := ⟨order.total⟩
  have trans : IsTrans ρ order.le := ⟨order.trans⟩
  exact ⟨rows.insertionSort order.le, List.perm_insertionSort _ _, List.pairwise_insertionSort _ _⟩

/-- A row stands behind those that are ahead of it, and among those up to it. -/
theorem position_bounds {front back : List ρ} {row : ρ} (lists : order.Lists rows (front ++ row :: back)) :
    order.ahead rows row ≤ front.length ∧ front.length < order.upTo rows row := by
  -- The rows in front are not behind it, and those behind it are not ahead.
  obtain ⟨perm, sorted⟩ := lists
  obtain ⟨_, behind, before⟩ := List.pairwise_append.mp sorted
  obtain ⟨after, _⟩ := List.pairwise_cons.mp behind
  have self : order.le row row := le_refl row
  rw [ahead, upTo, ← perm.countP_eq, ← perm.countP_eq, List.countP_append, List.countP_append]
  constructor
  · -- Neither the row nor any row behind it is ahead of it.
    have none_ : (row :: back).countP (fun other => decide (¬ order.le row other)) = 0 := by
      refine List.countP_eq_zero.mpr fun other member => ?_
      rcases List.mem_cons.mp member with rfl | later
      · simpa using self
      · simpa using after other later
    rw [none_]
    exact List.countP_le_length
  · -- All rows before it may stand before it, and so may the row itself.
    have all : front.countP (fun other => decide (order.le other row)) = front.length := by
      refine List.countP_eq_length.mpr fun other member => ?_
      simpa using before other member row List.mem_cons_self
    rw [all, List.countP_cons_of_pos (by simpa using self)]
    omega

/-- Up to a boundary that no tie lies across, every listing has the same rows. -/
theorem take_eq_filter {boundary : Nat} (lists : order.Lists rows listing)
    (separates : order.Separates rows boundary) :
    listing.take boundary = listing.filter fun row => decide (order.upTo rows row ≤ boundary) := by
  -- A row on the pages before the boundary has all its ties there.
  have kept : (listing.take boundary).filter (fun row => decide (order.upTo rows row ≤ boundary)) =
      listing.take boundary := by
    refine List.filter_eq_self.mpr fun row member => ?_
    obtain ⟨front, back, cut⟩ := List.append_of_mem member
    have parts : listing = front ++ row :: (back ++ listing.drop boundary) := by
      have joined := (List.take_append_drop boundary listing).symm
      rw [cut, List.append_assoc, List.cons_append] at joined
      exact joined
    have stored : row ∈ rows := lists.1.mem_iff.mp (List.mem_of_mem_take member)
    have position := (position_bounds (parts ▸ lists)).1
    have short : front.length < boundary := by
      have lengths := congrArg List.length cut
      simp only [List.length_take, List.length_append, List.length_cons] at lengths
      omega
    exact decide_eq_true (separates row stored (Nat.lt_of_le_of_lt position short))
  -- A row on the pages behind it has too many rows that may stand before it.
  have dropped : (listing.drop boundary).filter (fun row => decide (order.upTo rows row ≤ boundary)) = [] := by
    refine List.filter_eq_nil_iff.mpr fun row member => ?_
    obtain ⟨front, back, cut⟩ := List.append_of_mem member
    have parts : listing = (listing.take boundary ++ front) ++ row :: back := by
      rw [List.append_assoc, ← cut, List.take_append_drop]
    have position := (position_bounds (parts ▸ lists)).2
    have long : boundary ≤ (listing.take boundary ++ front).length := by
      have lengths := congrArg List.length cut
      simp only [List.length_drop, List.length_append, List.length_cons, List.length_take] at lengths ⊢
      omega
    simp
    omega
  calc listing.take boundary
      = (listing.take boundary ++ listing.drop boundary).filter
          fun row => decide (order.upTo rows row ≤ boundary) := by
        rw [List.filter_append, kept, dropped, List.append_nil]
    _ = listing.filter fun row => decide (order.upTo rows row ≤ boundary) := by
        rw [List.take_append_drop]

/-- Up to such a boundary, every two listings have the same rows, whatever their order. -/
theorem take_perm {boundary : Nat} (separates : order.Separates rows boundary) {left right : List ρ}
    (listsLeft : order.Lists rows left) (listsRight : order.Lists rows right) :
    (left.take boundary).Perm (right.take boundary) := by
  rw [take_eq_filter listsLeft separates, take_eq_filter listsRight separates]
  exact (listsLeft.1.trans listsRight.1.symm).filter _

/-- Pages between boundaries that no tie lies across have the rows of any one listing. -/
theorem pages_perm_take {size : Nat} (separates : ∀ page, order.Separates rows (page * size))
    {listings : Nat → List ρ} (lists : ∀ page, order.Lists rows (listings page)) (listed : order.Lists rows listing)
    (count : Nat) : (pages size listings count).Perm (listing.take (count * size)) := by
  induction count with
  | zero => simp [pages]
  | succ count ih =>
    -- The next page goes behind the rows that its own listing has up to there.
    have next : pages size listings (count + 1) =
        pages size listings count ++ ((listings count).drop (count * size)).take size := by
      rw [pages, List.range_succ, List.flatMap_append, List.flatMap_singleton, pages]
    have joined : (listings count).take (count * size) ++ ((listings count).drop (count * size)).take size =
        (listings count).take ((count + 1) * size) := by
      rw [Nat.succ_mul, List.take_add]
    -- What this listing has before the page is what any other one has there.
    have before := (take_perm (separates count) listed (lists count)).append_right
      (((listings count).drop (count * size)).take size)
    have whole := take_perm (separates (count + 1)) (lists count) listed
    rw [← joined] at whole
    rw [next]
    exact ((ih.append_right _).trans before).trans whole

/-- A row with fewer rows in front than may stand before another one may stand before it as well. -/
theorem le_of_lt_upTo {front back : List ρ} {other row : ρ} (lists : order.Lists rows (front ++ other :: back))
    (few : front.length < order.upTo rows row) : order.le other row := by
  obtain ⟨perm, sorted⟩ := lists
  obtain ⟨after, -⟩ := List.pairwise_cons.mp (List.pairwise_append.mp sorted).2.1
  -- Otherwise no row from there on could stand before the other one, and too few would be left.
  by_contra behind
  have none_ : (other :: back).countP (fun later => decide (order.le later row)) = 0 := by
    refine List.countP_eq_zero.mpr fun later member => ?_
    have ordered : order.le other later := by
      rcases List.mem_cons.mp member with rfl | further
      · exact le_refl later
      · exact after later further
    simpa using fun le => behind (order.trans _ _ _ ordered le)
  have left : order.upTo rows row ≤ front.length := by
    rw [upTo, ← perm.countP_eq, List.countP_append, none_]
    exact List.countP_le_length
  omega

/-- A row with as many rows in front as are ahead of another one may stand behind it. -/
theorem le_of_ahead_le {front back : List ρ} {other row : ρ} (lists : order.Lists rows (front ++ other :: back))
    (many : order.ahead rows row ≤ front.length) : order.le row other := by
  obtain ⟨perm, sorted⟩ := lists
  -- Otherwise that row and all before it would be ahead of the other one.
  by_contra ahead_
  have all : (front ++ [other]).countP (fun earlier => decide (¬ order.le row earlier)) =
      (front ++ [other]).length := by
    refine List.countP_eq_length.mpr fun earlier member => ?_
    have ordered : order.le earlier other := by
      rcases List.mem_append.mp member with before | here
      · exact (List.pairwise_append.mp sorted).2.2 earlier before other List.mem_cons_self
      · rw [List.mem_singleton.mp here]
        exact le_refl other
    simpa using fun le => ahead_ (order.trans _ _ _ le ordered)
  have more : (front ++ [other]).length ≤ order.ahead rows row := by
    have parts : front ++ other :: back = (front ++ [other]) ++ back := by simp
    rw [ahead, ← perm.countP_eq, parts, List.countP_append, all]
    exact Nat.le_add_right _ _
  rw [List.length_append, List.length_singleton] at more
  omega

/-- Neighbours that tie can change places. -/
theorem Lists.swap {front back : List ρ} {first second : ρ}
    (lists : order.Lists rows (front ++ first :: second :: back)) (tie : order.le second first) :
    order.Lists rows (front ++ second :: first :: back) := by
  obtain ⟨perm, sorted⟩ := lists
  obtain ⟨frontSorted, behind, across⟩ := List.pairwise_append.mp sorted
  obtain ⟨afterFirst, behind⟩ := List.pairwise_cons.mp behind
  obtain ⟨afterSecond, backSorted⟩ := List.pairwise_cons.mp behind
  refine ⟨((List.Perm.swap first second back).append_left front).trans perm,
    List.pairwise_append.mpr ⟨frontSorted, ?_, ?_⟩⟩
  · refine List.pairwise_cons.mpr ⟨?_, List.pairwise_cons.mpr ⟨?_, backSorted⟩⟩
    · intro other member
      rcases List.mem_cons.mp member with rfl | later
      · exact tie
      · exact afterSecond other later
    · intro other member
      exact afterFirst other (List.mem_cons_of_mem _ member)
  · -- What is in front stays in front of both.
    intro other member another listed
    refine across other member another ?_
    simpa [or_left_comm] using listed

/-- There are two neighbours on the two sides of a boundary inside a list. -/
theorem exists_neighbours {listing : List ρ} {boundary : Nat} (begun : 0 < boundary)
    (inside : boundary < listing.length) :
    ∃ front first second back, front.length + 1 = boundary ∧ listing = front ++ first :: second :: back := by
  have length := List.length_drop (i := boundary - 1) (l := listing)
  cases rest : listing.drop (boundary - 1) with
  | nil =>
    simp [rest] at length
    omega
  | cons first others =>
    cases others with
    | nil =>
      simp [rest] at length
      omega
    | cons second back =>
      refine ⟨listing.take (boundary - 1), first, second, back, ?_, ?_⟩
      · rw [List.length_take]
        omega
      · rw [← rest, List.take_append_drop]

/-- Where a tie lies across a boundary, the rows on both sides of it can change places. -/
theorem exists_swap {boundary : Nat} (crossed : ¬ order.Separates rows boundary) :
    ∃ front back first second, front.length + 1 = boundary ∧
      order.Lists rows (front ++ first :: second :: back) ∧
      order.Lists rows (front ++ second :: first :: back) := by
  obtain ⟨row, crossed⟩ := not_forall.mp crossed
  obtain ⟨_, below, above⟩ : row ∈ rows ∧ order.ahead rows row < boundary ∧
      boundary < order.upTo rows row := by
    simpa using crossed
  obtain ⟨listing, lists⟩ := exists_lists order rows
  have long : boundary < listing.length := by
    have bound := List.countP_le_length (p := fun other => decide (order.le other row)) (l := rows)
    rw [lists.1.length_eq]
    exact Nat.lt_of_lt_of_le above bound
  -- The rows on both sides of the boundary both tie with the row that lies across it.
  obtain ⟨front, first, second, back, length, rfl⟩ := exists_neighbours (Nat.zero_lt_of_lt below) long
  have shifted : order.Lists rows ((front ++ [first]) ++ second :: back) := by simpa using lists
  have secondLe : order.le second row := le_of_lt_upTo shifted (by simpa [length] using above)
  have leFirst : order.le row first := le_of_ahead_le lists (by omega)
  exact ⟨front, back, first, second, length, lists, lists.swap (order.trans _ _ _ secondLe leFirst)⟩

/-- A row is on the page that its position lies in. -/
theorem mem_page {front back : List ρ} {row : ρ} {offset size : Nat} (low : offset ≤ front.length)
    (high : front.length < offset + size) : row ∈ ((front ++ row :: back).drop offset).take size := by
  -- What is skipped lies in front of the row, and the page reaches beyond it.
  have room : 0 < size - (front.drop offset).length := by
    rw [List.length_drop]
    omega
  obtain ⟨left, count⟩ := Nat.exists_eq_succ_of_ne_zero (Nat.ne_of_gt room)
  rw [List.drop_append_of_le_length low, List.take_append, count, List.take_succ_cons]
  exact List.mem_append_right _ List.mem_cons_self

/-- Pages that join to the relation whatever their orders have no tie across their boundaries. -/
theorem separates_of_pages {size : Nat} (positive : 0 < size) (once : rows.Nodup)
    (joins : ∀ listings : Nat → List ρ, (∀ page, order.Lists rows (listings page)) →
      ∀ count, rows.length ≤ count * size → (pages size listings count).Perm rows) (page : Nat) :
    order.Separates rows (page * size) := by
  by_contra crossed
  obtain ⟨front, back, first, second, length, lists, swapped⟩ := exists_swap crossed
  -- The pages before the boundary come from one order, and the others from the other one.
  let listings := fun number =>
    if number < page then front ++ first :: second :: back else front ++ second :: first :: back
  have fits : ∀ number, order.Lists rows (listings number) := by
    intro number
    simp only [listings]
    split
    · exact lists
    · exact swapped
  have all := joins listings fits (rows.length + page + 1) (by
    calc rows.length ≤ rows.length + page + 1 := by omega
      _ ≤ (rows.length + page + 1) * size := Nat.le_mul_of_pos_right _ positive)
  obtain ⟨_, apart⟩ := List.nodup_flatMap.mp (all.nodup_iff.mpr once)
  obtain ⟨before, rfl⟩ : ∃ before, page = before + 1 :=
    Nat.exists_eq_succ_of_ne_zero fun zero => by simp [zero] at length
  rw [Nat.succ_mul] at length
  -- The row before the boundary is on the page before it, and once more on the page behind it.
  have left : first ∈ ((listings before).drop (before * size)).take size := by
    simp only [listings, if_pos (Nat.lt_succ_self before)]
    exact mem_page (by omega) (by omega)
  have right : first ∈ ((listings (before + 1)).drop ((before + 1) * size)).take size := by
    have parts : front ++ second :: first :: back = (front ++ [second]) ++ first :: back := by simp
    simp only [listings, if_neg (Nat.lt_irrefl (before + 1)), parts, Nat.succ_mul]
    refine mem_page ?_ ?_ <;> rw [List.length_append, List.length_singleton] <;> omega
  have disjoint := List.pairwise_iff_getElem.mp apart before (before + 1)
    (by rw [List.length_range]; omega) (by rw [List.length_range]; omega) (Nat.lt_succ_self before)
  simp only [List.getElem_range] at disjoint
  exact disjoint left right

/-- The pages join to the relation, whatever their orders, exactly if no tie lies across a boundary. -/
theorem pages_join_iff {size : Nat} (positive : 0 < size) (once : rows.Nodup) :
    (∀ listings : Nat → List ρ, (∀ page, order.Lists rows (listings page)) →
        ∀ count, rows.length ≤ count * size → (pages size listings count).Perm rows) ↔
      ∀ page, order.Separates rows (page * size) := by
  constructor
  · exact separates_of_pages positive once
  · -- The pages then are those of one listing, which is a permutation of the rows.
    intro separates listings lists count enough
    obtain ⟨listing, listed⟩ := exists_lists order rows
    have joined := pages_perm_take separates lists listed count
    rw [List.take_of_length_le (by rw [listed.1.length_eq]; exact enough)] at joined
    exact joined.trans listed.1

/-- In an order without ties between stored rows, no boundary is crossed by any. -/
theorem separates_of_antisymm (once : rows.Nodup)
    (antisymm : ∀ left ∈ rows, ∀ right ∈ rows, order.le left right → order.le right left → left = right)
    (boundary : Nat) : order.Separates rows boundary := by
  intro row stored below
  obtain ⟨listing, perm, sorted⟩ := exists_lists order rows
  obtain ⟨front, back, rfl⟩ := List.append_of_mem (perm.mem_iff.mpr stored)
  obtain ⟨_, behind, across⟩ := List.pairwise_append.mp sorted
  obtain ⟨after, _⟩ := List.pairwise_cons.mp behind
  obtain ⟨_, backOnce, apart⟩ := List.nodup_append.mp (perm.nodup_iff.mpr once)
  obtain ⟨fresh, _⟩ := List.nodup_cons.mp backOnce
  have known {other : ρ} (member : other ∈ front ++ row :: back) : other ∈ rows := perm.mem_iff.mp member
  -- All rows in front of the row are ahead of it.
  have frontAhead : front.countP (fun other => decide (¬ order.le row other)) = front.length := by
    refine List.countP_eq_length.mpr fun other member => ?_
    have differs := apart other member row List.mem_cons_self
    have before := across other member row List.mem_cons_self
    have stored' := known (List.mem_append_left _ member)
    simpa using fun le => differs (antisymm other stored' row stored before le)
  -- No row behind it may stand before it.
  have backBehind : back.countP (fun other => decide (order.le other row)) = 0 := by
    refine List.countP_eq_zero.mpr fun other member => ?_
    have stored' := known (List.mem_append_right _ (List.mem_cons_of_mem row member))
    have differs : row ≠ other := fun same => fresh (same ▸ member)
    simpa using fun le => differs (antisymm row stored other stored' (after other member) le)
  have ahead_ : front.length ≤ order.ahead rows row := by
    rw [ahead, ← perm.countP_eq, List.countP_append, frontAhead]
    exact Nat.le_add_right _ _
  have upTo_ : order.upTo rows row ≤ front.length + 1 := by
    rw [upTo, ← perm.countP_eq, List.countP_append, List.countP_cons_of_pos (by simpa using le_refl row),
      backBehind, Nat.zero_add]
    exact Nat.add_le_add_right List.countP_le_length 1
  omega

/-- Where every two rows tie, boundaries are crossed unless all rows fit before the first. -/
theorem separates_unordered_iff {size : Nat} (positive : 0 < size) :
    (∀ page, (unordered : SortOrder ρ).Separates rows (page * size)) ↔ rows.length ≤ size := by
  -- Nothing is ahead of a row, and every row may stand before it.
  have ahead_ (row : ρ) : unordered.ahead rows row = 0 := by simp [ahead, unordered]
  have upTo_ (row : ρ) : unordered.upTo rows row = rows.length := by
    refine List.countP_eq_length.mpr fun _ _ => ?_
    exact decide_eq_true trivial
  simp only [Separates, ahead_, upTo_]
  constructor
  · intro all
    cases rows with
    | nil => exact Nat.zero_le _
    | cons row rest => simpa using all 1 row List.mem_cons_self (by simpa using positive)
  · -- No boundary but the first lies within the rows.
    intro fits page row _ inside
    obtain ⟨before, rfl⟩ : ∃ before, page = before + 1 :=
      Nat.exists_eq_succ_of_ne_zero fun zero => by simp [zero] at inside
    calc rows.length ≤ size := fits
      _ ≤ (before + 1) * size := Nat.le_mul_of_pos_left _ (Nat.succ_pos before)

end SortOrder

end Paging
