import JudgeStats.Proofs.PointRows
import JudgeStats.Proofs.RepeatedRefresh
import Mathlib.Order.Nat

/-! Full runs one after the other, with no edit in between. The points are settled by the first run, the sums of rated
points follow them in the second, and from then on the store stays as it is. Where the points were settled before the first
run, one run is enough. -/

namespace JudgeStats

namespace Statistic
variable {points others : List ProblemPoint}

/-- Only rows with points count for what problems are worth. -/
theorem pointOf?_congr (ordered : Ascending Schema.key points) (sorted : Ascending Schema.key others)
    (same : ∀ row : ProblemPoint, row.point.isSome → (row ∈ points ↔ row ∈ others)) : pointOf? points = pointOf? others := by
  funext problem
  apply Option.ext
  intro amount
  rw [pointOf?_eq_some_iff ordered, pointOf?_eq_some_iff sorted, same _ rfl]

end Statistic

namespace Store
variable {settings : Settings} {store : Store}

theorem sums_congr {worth other : List ProblemPoint} (same : Statistic.pointOf? worth = Statistic.pointOf? other) :
    store.sums settings worth = store.sums settings other := by
  simp only [sums, Statistic.pointsByUser, same]

/-- The points that a full run leaves are worth what their rebuild says; the rows that are kept are worth nothing. -/
theorem mem_settled_points_iff (keyed : store.Keyed) {row : ProblemPoint} (some : row.point.isSome) :
    row ∈ Derived.points.settled settings store ↔ row ∈ Derived.points.rebuild settings store :=
  Derived.mem_rewritten_points_of_isSome settings keyed.points some

theorem refreshed_eq_iff_ratedPointSum (keyed : store.Keyed) :
    (store.refreshed settings).refreshed settings = store.refreshed settings ↔
      ((store.refreshed settings).refreshed settings).get (.derived .ratedPointSum) =
        (store.refreshed settings).get (.derived .ratedPointSum) := by
  refine ⟨fun same => by rw [same], fun stays => eq_of_get_eq (fun table => ?_) denials_rewriteAll⟩
  cases table with
  | contests | submissions => exact get_rewriteAll_of_ne fun _ _ => Table.noConfusion
  | derived table =>
    by_cases rated : table = .ratedPointSum
    · rw [rated, stays]
    · exact get_refreshed_again keyed rated

theorem refreshed_thrice (keyed : store.Keyed) :
    ((store.refreshed settings).refreshed settings).refreshed settings = (store.refreshed settings).refreshed settings := by
  have ordered : (store.refreshed settings).Keyed := keyed.rewriteAll _
  apply (refreshed_eq_iff_ratedPointSum ordered).mpr
  apply ratedPointSum_again
  rw [rows, rows, get_refreshed_again keyed (by decide)]

theorem refreshed_again_of_settled (keyed : store.Keyed) (settled : ∀ row : ProblemPoint, row.point.isSome →
      (row ∈ store.rows (.derived .points) ↔ row ∈ Derived.points.rebuild settings store)) :
    (store.refreshed settings).refreshed settings = store.refreshed settings := by
  apply (refreshed_eq_iff_ratedPointSum keyed).mpr
  apply ratedPointSum_stays_iff.mpr
  refine .inr (.inr (sums_congr (Statistic.pointOf?_congr ?_ keyed.points fun row some => ?_)))
  · exact Derived.rewritten_ascending settings keyed.points
  · rw [mem_settled_points_iff keyed some, settled row some]

/-- The store after some full runs in a row. -/
def fullRuns (settings : Settings) (store : Store) : Nat → Store
  | 0 => store
  | runs + 1 => ((fullRuns settings store runs).updateAll settings none).state

theorem fullRuns_open (free : store.Open) (keyed : store.Keyed) (positive : 0 < settings.batchSize) (runs : Nat) :
    (store.fullRuns settings runs).Open ∧ (store.fullRuns settings runs).Keyed ∧
    store.fullRuns settings (runs + 1) = (store.fullRuns settings runs).refreshed settings := by
  induction runs with
  | zero => exact ⟨free, keyed, (updateAll_eq free positive).1⟩
  | succ runs ih =>
    obtain ⟨opened, ordered, left⟩ := ih
    have next : (store.fullRuns settings (runs + 1)).Open := left ▸ opened.rewriteAll _
    exact ⟨next, left ▸ ordered.rewriteAll _, (updateAll_eq next positive).1⟩

/-- After two full runs no further one changes anything. The second one changes at most the sums of rated points, and not
even these where the rows with points before the first run are those that the points are rebuilt as. -/
theorem fullRuns_converge (free : store.Open) (keyed : store.Keyed) (positive : 0 < settings.batchSize) :
    (∀ runs, 2 ≤ runs → store.fullRuns settings runs = store.fullRuns settings 2) ∧
    (∀ table, table ≠ .ratedPointSum →
      (store.fullRuns settings 2).get (.derived table) = (store.fullRuns settings 1).get (.derived table)) ∧
    ((∀ row : ProblemPoint, row.point.isSome →
        (row ∈ store.rows (.derived .points) ↔ row ∈ Derived.points.rebuild settings store)) →
      store.fullRuns settings 2 = store.fullRuns settings 1) := by
  have step (runs : Nat) := (fullRuns_open free keyed positive runs).2.2
  have once : store.fullRuns settings 1 = store.refreshed settings := step 0
  have twice : store.fullRuns settings 2 = (store.refreshed settings).refreshed settings := once ▸ step 1
  refine ⟨fun runs late => ?_, fun table other => ?_, fun settled => ?_⟩
  · induction runs, late using Nat.le_induction with
    | base => rfl
    | succ runs _ ih => rw [step, ih, twice, refreshed_thrice keyed]
  · rw [once, twice, get_refreshed_again keyed other]
  · rw [once, twice, refreshed_again_of_settled keyed settled]

/-- In a store without points two runs are needed, and in one with the points of its contest one is enough. -/
theorem fullRuns_converge_firstContest :
    let bare := firstContest []
    let settled := firstContest [⟨"a", some 100⟩]
    bare.Open ∧ bare.Keyed ∧ settled.Open ∧ settled.Keyed ∧ 0 < ({} : Settings).batchSize ∧
    (bare.fullRuns {} 1).ratedPointSum = some [] ∧ (bare.fullRuns {} 2).ratedPointSum = some [⟨"ann", 100⟩] ∧
    bare.fullRuns {} 5 = bare.fullRuns {} 2 ∧ settled.fullRuns {} 2 = settled.fullRuns {} 1 := by
  intro bare settled
  have free := firstContest_open
  have keyed : bare.Keyed := ⟨by decide, .nil⟩
  have ordered : settled.Keyed := ⟨by decide, List.pairwise_singleton ..⟩
  have positive : 0 < ({} : Settings).batchSize := by decide
  have rebuilt : Derived.points.rebuild {} settled = settled.rows (.derived .points) := by decide +kernel
  refine ⟨free _, keyed, free _, ordered, positive, by decide +kernel, by decide +kernel, ?_, ?_⟩
  · exact (fullRuns_converge (free _) keyed positive).1 5 (by decide)
  · exact (fullRuns_converge (free _) ordered positive).2.2 fun row _ => by rw [rebuilt]

end Store

end JudgeStats
