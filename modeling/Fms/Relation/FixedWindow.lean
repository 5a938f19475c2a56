import Fms.Relation.Run

/-! A limiter that counts in windows, each of which is opened by the first time after the one before. -/

namespace FixedWindow

/-- Times cut into windows: each starts at its first time and holds exactly those less than a width later. -/
inductive Cut (width : Int) : List Int → List (List Int) → Prop where
  | nil : Cut width [] []
  | window {first : Int} {inside later : List Int} {windows : List (List Int)}
      (near : ∀ time ∈ inside, time - first < width) (far : ∀ time ∈ later, width ≤ time - first)
      (rest : Cut width later windows) : Cut width (first :: (inside ++ later)) ((first :: inside) :: windows)

/-- The window that is open: when its first request came, and how many it has counted. -/
structure Opened where
  start : Int
  count : Nat

/-- Whether a request is turned away, and the window that is open after it. -/
def answer (width : Int) (limit : Nat) (opened : Option Opened) (time : Int) : Bool × Opened :=
  match opened with
  | none => (false, ⟨time, 1⟩)
  | some window =>
    if time - window.start < width then (decide (limit < window.count + 1), ⟨window.start, window.count + 1⟩)
    else (false, ⟨time, 1⟩)

/-- The answers to requests that come at the given times. -/
def answers (width : Int) (limit : Nat) (opened : Option Opened) (times : List Int) : List Bool :=
  Transition.outputs (fun opened time => some (answer width limit opened time).1)
    (fun opened time => some (answer width limit opened time).2) opened times

/-- The times of the requests that are not turned away. -/
def kept : List Int → List Bool → List Int
  | time :: times, refused :: verdicts =>
    if refused then kept times verdicts else time :: kept times verdicts
  | _, _ => []

/-- The answers a window gives: its first requests are let through, up to a limit, and the others are not. -/
def verdicts (limit : Nat) (window : List Int) : List Bool :=
  List.replicate (min window.length limit) false ++ List.replicate (window.length - limit) true

/-- The times a window lets through. -/
def admitted (limit : Nat) (windows : List (List Int)) : List Int :=
  windows.flatMap (·.take limit)

/-- The times in the half-open interval of a width that starts at a time. -/
def within (width start : Int) (times : List Int) : List Int :=
  times.filter fun time => decide (start ≤ time) && decide (time < start + width)

/-- Windows take the times in order, none left out. -/
theorem Cut.flatten {width : Int} {times : List Int} {windows : List (List Int)}
    (cut : Cut width times windows) : windows.flatten = times := by
  -- The rest of the windows holds the times behind the first one.
  induction cut with
  | nil => rfl
  | window near far rest ih => rw [List.flatten_cons, ih, List.cons_append]

/-- What windows let through is among the times. -/
theorem Cut.mem_of_admitted {width : Int} {limit : Nat} {times : List Int} {windows : List (List Int)}
    (cut : Cut width times windows) {time : Int} (member : time ∈ admitted limit windows) : time ∈ times := by
  obtain ⟨window, listed, taken⟩ := List.mem_flatMap.mp member
  rw [← cut.flatten]
  exact List.mem_flatten.mpr ⟨window, listed, List.mem_of_mem_take taken⟩

/-- Times that do not go back split into those before a bound and those from it on. -/
theorem exists_split (bound : Int) {times : List Int} (ordered : times.Pairwise (· ≤ ·)) :
    ∃ before after, times = before ++ after ∧ (∀ time ∈ before, time < bound) ∧ ∀ time ∈ after, bound ≤ time := by
  -- The first time above the bound is where the list is split.
  induction times with
  | nil => exact ⟨[], [], by simp⟩
  | cons first rest ih =>
    obtain ⟨above, ordered⟩ := List.pairwise_cons.mp ordered
    by_cases small : first < bound
    · obtain ⟨before, after, parts, low, high⟩ := ih ordered
      exact ⟨first :: before, after, by rw [parts, List.cons_append], by simpa [small] using low, high⟩
    · -- Every time from the first one on has reached the bound.
      have reached := Int.not_lt.mp small
      refine ⟨[], first :: rest, rfl, by simp, ?_⟩
      simpa [reached] using fun time member => Int.le_trans reached (above time member)

/-- Every list of times that do not go back can be cut into windows. -/
theorem exists_cut (width : Int) {times : List Int} (ordered : times.Pairwise (· ≤ ·)) :
    ∃ windows, Cut width times windows := by
  -- The times behind the first window are fewer, so the induction is on their number.
  induction count : times.length using Nat.strongRecOn generalizing times with
  | ind count_ ih =>
    cases times with
    | nil => exact ⟨[], .nil⟩
    | cons first others =>
      obtain ⟨_, ordered⟩ := List.pairwise_cons.mp ordered
      obtain ⟨inside, later, rfl, near, far⟩ := exists_split (first + width) ordered
      have fewer : later.length < count_ := by
        rw [← count, List.length_cons, List.length_append]
        omega
      obtain ⟨windows, cut⟩ := ih _ fewer (List.pairwise_append.mp ordered).2.1 rfl
      refine ⟨(first :: inside) :: windows, .window ?_ ?_ cut⟩
      · intro time member
        have := near time member
        omega
      · intro time member
        have := far time member
        omega

/-- An interval sees what the first window lets through in it, and then what the others do. -/
theorem length_within_cons (width start : Int) (limit : Nat) (window : List Int) (windows : List (List Int)) :
    (within width start (admitted limit (window :: windows))).length =
      (within width start (window.take limit)).length +
        (within width start (admitted limit windows)).length := by
  rw [admitted, List.flatMap_cons, within, List.filter_append, List.length_append, admitted, within, within]

/-- An interval sees no more of a window than the window lets through. -/
theorem length_within_take_le (width start : Int) (limit : Nat) (window : List Int) :
    (within width start (window.take limit)).length ≤ limit :=
  Nat.le_trans (List.length_filter_le _ _) (List.length_take_le _ _)

/-- An interval that starts no later than any of the times sees one window at most. -/
theorem Cut.length_within_le {width : Int} {limit : Nat} {times : List Int} {windows : List (List Int)}
    (cut : Cut width times windows) {start : Int} (after : ∀ time ∈ times, start ≤ time) :
    (within width start (admitted limit windows)).length ≤ limit := by
  cases cut with
  | nil => simp [admitted, within]
  | @window first inside later windows near far rest =>
    -- Whatever a later window lets through lies a width behind the first time, and so behind the interval.
    have none_ : within width start (admitted limit windows) = [] := by
      refine List.filter_eq_nil_iff.mpr fun time member => ?_
      have behind := far time (rest.mem_of_admitted member)
      have bound := after first List.mem_cons_self
      simp
      omega
    rw [length_within_cons, none_]
    exact length_within_take_le width start limit (first :: inside)

/-- No interval of the windows' width sees more than two windows. -/
theorem Cut.length_within_le_two {width : Int} {limit : Nat} {times : List Int} {windows : List (List Int)}
    (cut : Cut width times windows) (ordered : times.Pairwise (· ≤ ·)) (start : Int) :
    (within width start (admitted limit windows)).length ≤ 2 * limit := by
  induction cut with
  | nil => simp [admitted, within]
  | @window first inside later windows near far rest ih =>
    -- Each window lets through as many as its limit allows.
    obtain ⟨above, ordered⟩ := List.pairwise_cons.mp ordered
    obtain ⟨_, laterOrdered, order⟩ := List.pairwise_append.mp ordered
    have own := length_within_take_le width start limit (first :: inside)
    rw [length_within_cons]
    by_cases seen : within width start ((first :: inside).take limit) = []
    · -- The interval starts behind what the first window lets through.
      have others := ih laterOrdered
      rw [seen, List.length_nil]
      omega
    · -- The interval starts no later than some time of the first window, and so before all the later ones.
      obtain ⟨time, member⟩ := List.exists_mem_of_ne_nil _ seen
      obtain ⟨taken, inside_⟩ := List.mem_filter.mp member
      have bound : start ≤ time := by simp at inside_; exact inside_.1
      have others : (within width start (admitted limit windows)).length ≤ limit := by
        refine rest.length_within_le fun other member => Int.le_trans bound ?_
        rcases List.mem_cons.mp (List.mem_of_mem_take taken) with first_ | among
        · rw [first_]
          exact above other (List.mem_append_right _ member)
        · exact order time among other member
      omega

/-- A window without room for a request turns it and all the others away. -/
theorem verdicts_cons_zero (time : Int) (window : List Int) :
    verdicts 0 (time :: window) = true :: verdicts 0 window := by
  simp [verdicts, List.replicate_succ]

/-- A window with room for a request lets it through, and has room for one less. -/
theorem verdicts_cons_succ (limit : Nat) (time : Int) (window : List Int) :
    verdicts (limit + 1) (time :: window) = false :: verdicts limit window := by
  simp [verdicts, Nat.add_min_add_right, List.replicate_succ]

/-- Of the requests in a window, those up to the limit are not turned away. -/
theorem kept_window (limit : Nat) (window later : List Int) (answers : List Bool) :
    kept (window ++ later) (verdicts limit window ++ answers) = window.take limit ++ kept later answers := by
  -- The verdicts of a window keep its first times, and drop the others.
  induction window generalizing limit with
  | nil => simp [verdicts]
  | cons time rest ih =>
    cases limit with
    | zero =>
      have others := ih 0
      rw [List.take_zero, List.nil_append] at others ⊢
      rw [verdicts_cons_zero, List.cons_append, List.cons_append, kept, if_pos rfl, others]
    | succ limit =>
      rw [verdicts_cons_succ, List.cons_append, List.cons_append, kept, if_neg Bool.false_ne_true, ih,
        List.take_succ_cons, List.cons_append]

/-- Answers given window by window keep what the windows let through. -/
theorem Cut.kept_verdicts {width : Int} {times : List Int} {windows : List (List Int)}
    (cut : Cut width times windows) (limit : Nat) :
    kept times (windows.flatMap (verdicts limit)) = admitted limit windows := by
  -- Window by window, from the first one on.
  induction cut with
  | nil => rfl
  | @window first inside later windows near far rest ih =>
    rw [List.flatMap_cons, ← List.cons_append, kept_window, ih, admitted, admitted, List.flatMap_cons]

/-- The first request is answered by the window that is open, and the others by the one it leaves. -/
theorem answers_cons (width : Int) (limit : Nat) (opened : Option Opened) (time : Int) (rest : List Int) :
    answers width limit opened (time :: rest) =
      (answer width limit opened time).1 :: answers width limit (some (answer width limit opened time).2) rest := rfl

/-- A request adds at most one to what is counted. -/
theorem count_answer_le (width : Int) (limit : Nat) {opened : Option Opened} (time : Int) {bound : Nat}
    (positive : 1 ≤ bound) (below : ∀ window ∈ opened, window.count + 1 ≤ bound) :
    (answer width limit opened time).2.count ≤ bound := by
  -- The window has counted one more, or a new one has counted one.
  cases opened with
  | none => exact positive
  | some window =>
    rw [answer]
    split
    · exact below window rfl
    · exact positive

/-- A window that has counted some requests has room for the limit less these. -/
theorem answers_inside {width start : Int} {limit count : Nat} {inside : List Int}
    (near : ∀ time ∈ inside, time - start < width) (later : List Int) :
    answers width limit (some ⟨start, count⟩) (inside ++ later) =
      verdicts (limit - count) inside ++ answers width limit (some ⟨start, count + inside.length⟩) later := by
  induction inside generalizing count with
  | nil => simp [verdicts]
  | cons time rest ih =>
    have first := near time List.mem_cons_self
    have others : answers width limit (some ⟨start, count + 1⟩) (rest ++ later) = _ :=
      ih fun other member => near other (List.mem_cons_of_mem _ member)
    have total : count + 1 + rest.length = count + (time :: rest).length := by
      rw [List.length_cons]
      omega
    rw [List.cons_append, answers_cons, answer, if_pos first, others, total]
    cases room : limit - count with
    | zero =>
      -- The count has reached the limit, so this request and all the others are turned away.
      have full : limit - (count + 1) = 0 := by omega
      have refused : limit < count + 1 := by omega
      rw [verdicts_cons_zero, full, decide_eq_true refused, List.cons_append]
    | succ left =>
      have less : limit - (count + 1) = left := by omega
      have passes : ¬ limit < count + 1 := by omega
      rw [verdicts_cons_succ, less, decide_eq_false passes, List.cons_append]

/-- Where the open window does not reach the first time, the answers are those of the windows one by one. -/
theorem Cut.answers_eq {width : Int} {limit : Nat} (positive : 1 ≤ limit) {times : List Int}
    {windows : List (List Int)} (cut : Cut width times windows) {opened : Option Opened}
    (past : ∀ window ∈ opened, ∀ time ∈ times, width ≤ time - window.start) :
    answers width limit opened times = windows.flatMap (verdicts limit) := by
  induction cut generalizing opened with
  | nil => rfl
  | @window first inside later windows near far rest ih =>
    -- The first request opens its window, whatever was open before.
    have opens : answer width limit opened first = (false, ⟨first, 1⟩) := by
      cases opened with
      | none => rfl
      | some window =>
        have reached := past window rfl first List.mem_cons_self
        rw [answer, if_neg (by omega)]
    obtain ⟨room, rfl⟩ := Nat.exists_eq_add_of_le' positive
    have others : answers width _ (some ⟨first, 1 + inside.length⟩) later = _ := ih (by simpa using far)
    rw [answers_cons, opens, answers_inside near, others, List.flatMap_cons, verdicts_cons_succ,
      Nat.add_sub_cancel, List.cons_append]

end FixedWindow
