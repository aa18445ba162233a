import JudgeStats.Proofs.FullRefresh

/-! A full run done again. All tables but one stay as the first run has left them. The sums of rated points are made before
the points are, so the first run makes them from the points of before, and the second from those of the first. -/

namespace JudgeStats

namespace Derived
variable {settings : Settings} {store other : Store} {table : Derived}

/-- What a table gets in a full run is made from contests and submissions, but for the sums of rated points. -/
theorem fresh_congr (different : table ≠ ratedPointSum) (contests : store.rows .contests = other.rows .contests)
    (submissions : store.rows .submissions = other.rows .submissions) :
    table.fresh settings store = table.fresh settings other := by
  cases table with
  | ratedPointSum => exact absurd rfl different
  | greatCount measure => simp only [fresh, rebuild, Store.solved, contests, submissions]
  | _ => simp only [fresh, rebuild, Store.solved, contests, submissions]

theorem fresh_ascending (settings : Settings) (store : Store) (table : Derived) :
    Ascending Schema.key (table.fresh settings store) := by
  cases table with
  | greatCount measure => exact Statistic.problemsByUser_ascending _
  | _ => exact rebuild_ascending settings store _

theorem settled_eq_fresh (settings : Settings) (store : Store) {table : Derived} (whole : table ≠ points) :
    table.settled settings store = table.fresh settings store := by
  rw [settled, kept_eq_nil whole]
  exact Ascending.putAll_nil (fresh_ascending settings store table)

theorem settled_ratedPointSum (settings : Settings) (store : Store) :
    ratedPointSum.settled settings store = ratedPointSum.rebuild settings store :=
  settled_eq_fresh settings store (by simp)

end Derived

namespace Store
variable {settings : Settings} {store : Store}

/-- The sums of rated points for some worth of the problems. -/
def sums (settings : Settings) (store : Store) (worth : List ProblemPoint) : List PointSum :=
  Statistic.pointsByUser worth ((store.solved settings).filter fun submission =>
    !Statistic.isExcluded settings submission.user && (Statistic.pointOf? worth submission.problem).isSome)

theorem solved_refreshed : (store.refreshed settings).solved settings = store.solved settings :=
  solved_congr (rows_refreshed fun _ => Table.noConfusion)

theorem settled_refreshed (keyed : store.Keyed) {table : Derived} (different : table ≠ .ratedPointSum)
    (member : table ∈ store.replacedTables settings) :
    table.settled settings (store.refreshed settings) = table.settled settings store := by
  have held : (store.refreshed settings).rows (.derived table) = table.settled settings store := by
    rw [rows, get_refreshed, if_pos member]
    rfl
  have made : table.fresh settings (store.refreshed settings) = table.fresh settings store :=
    Derived.fresh_congr different (rows_refreshed fun _ => Table.noConfusion)
      (rows_refreshed fun _ => Table.noConfusion)
  rw [Derived.settled, made, held]
  by_cases whole : table = .points
  · subst whole
    exact Ascending.putAll_again (Derived.fresh_ascending settings store .points) keyed.points _
  · rw [Derived.settled, Derived.kept_eq_nil whole, Derived.kept_eq_nil whole]

theorem get_refreshed_ratedPointSum (settings : Settings) (store : Store) :
    (store.refreshed settings).get (.derived .ratedPointSum) =
      if Derived.ratedPointSum.defect? settings store = none then some (Derived.ratedPointSum.rebuild settings store)
      else store.get (.derived .ratedPointSum) := by
  rw [get_refreshed, Derived.settled_ratedPointSum]
  simp only [ratedPointSum_mem_replacedTables]

theorem ratedPointSum_again (same : (store.refreshed settings).rows (.derived .points) = store.rows (.derived .points)) :
    ((store.refreshed settings).refreshed settings).get (.derived .ratedPointSum) =
      (store.refreshed settings).get (.derived .ratedPointSum) := by
  have read : ∀ needed ∈ Derived.ratedPointSum.reads, (store.refreshed settings).rows needed = store.rows needed := by
    intro needed member
    rcases List.mem_cons.mp member with rfl | rest
    · exact rows_refreshed fun _ => Table.noConfusion
    · rw [List.mem_singleton.mp rest, same]
  rw [get_refreshed_ratedPointSum settings (store.refreshed settings), Derived.defect?_congr read, Derived.rebuild_congr read]
  split
  next sound => rw [get_refreshed_ratedPointSum, if_pos sound]
  next => rfl

theorem refreshed_of_defect (defect : (Derived.ratedPointSum.defect? settings store).isSome) :
    store.replacedTables settings = [.acceptedCount, .solver] ∧
    (store.refreshed settings).rows (.derived .points) = store.rows (.derived .points) := by
  have early : store.replacedTables settings = [.acceptedCount, .solver] := if_pos defect
  refine ⟨early, ?_⟩
  rw [rows, get_refreshed, early, if_neg (by decide)]
  rfl

theorem refreshed_of_sound (sound : Derived.ratedPointSum.defect? settings store = none) :
    store.replacedTables settings = Derived.order ∧
    (store.refreshed settings).rows (.derived .points) = Derived.points.settled settings store := by
  have whole : store.replacedTables settings = Derived.order := if_neg (by rw [sound]; exact Bool.false_ne_true)
  refine ⟨whole, ?_⟩
  rw [rows, get_refreshed, whole, if_pos (Derived.mem_order _)]
  rfl

theorem replacedTables_refreshed {table : Derived}
    (member : table ∈ (store.refreshed settings).replacedTables settings) : table ∈ store.replacedTables settings := by
  cases found : Derived.ratedPointSum.defect? settings store with
  | none =>
    rw [(refreshed_of_sound found).1]
    exact Derived.mem_order table
  | some cause =>
    have defect : (Derived.ratedPointSum.defect? settings store).isSome := by rw [found]; rfl
    obtain ⟨early, same⟩ := refreshed_of_defect defect
    have again : Derived.ratedPointSum.defect? settings (store.refreshed settings) = some cause := by
      rw [← found]
      apply Derived.defect?_congr
      intro needed inside
      rcases List.mem_cons.mp inside with rfl | rest
      · exact rows_refreshed fun _ => Table.noConfusion
      · rw [List.mem_singleton.mp rest, same]
    rw [replacedTables, again] at member
    exact early ▸ member

theorem get_refreshed_again (keyed : store.Keyed) {table : Derived} (different : table ≠ .ratedPointSum) :
    ((store.refreshed settings).refreshed settings).get (.derived table) =
      (store.refreshed settings).get (.derived table) := by
  rw [get_refreshed settings (store.refreshed settings)]
  split
  next member =>
    have before := replacedTables_refreshed member
    rw [settled_refreshed keyed different before, get_refreshed, if_pos before]
  next => rfl

/-- Where the first run succeeds, the second is stopped only by a sum that is no number. -/
theorem defect?_refreshed (sound : Derived.ratedPointSum.defect? settings store = none) :
    Derived.ratedPointSum.rebuild settings (store.refreshed settings) =
      store.sums settings (Derived.points.settled settings store) ∧
    ((Derived.ratedPointSum.defect? settings (store.refreshed settings)).isSome ↔
      (store.sums settings (Derived.points.settled settings store)).any (·.total.isNaN)) := by
  have rebuilt : Derived.ratedPointSum.rebuild settings (store.refreshed settings) =
      store.sums settings (Derived.points.settled settings store) := by
    simp only [Derived.rebuild, (refreshed_of_sound sound).2, solved_refreshed]
    rfl
  have usable : Derived.ratedPointSum.sourceError? settings (store.refreshed settings) = none := by
    have before := (Option.or_eq_none_iff.mp sound).1
    simp only [Derived.sourceError?, solved_refreshed] at before ⊢
    exact before
  refine ⟨rebuilt, ?_⟩
  rw [Derived.defect?, usable, Option.none_or, Option.isSome_map, rebuilt, List.findSome?_isSome_iff, List.any_eq_true]
  apply exists_congr
  intro row
  apply and_congr_right
  intro _
  change (if row.total.isNaN then some "point_sum" else none).isSome ↔ _
  cases row.total.isNaN <;> simp

/-- The sums of rated points stay if they could not be written in one of the two runs, or come out the same from the points
of before and from those that the first run has left. -/
theorem ratedPointSum_stays_iff :
    ((store.refreshed settings).refreshed settings).get (.derived .ratedPointSum) =
        (store.refreshed settings).get (.derived .ratedPointSum) ↔
      (Derived.ratedPointSum.defect? settings store).isSome ∨
      (store.sums settings (Derived.points.settled settings store)).any (·.total.isNaN) ∨
      store.sums settings (Derived.points.settled settings store) =
        store.sums settings (store.rows (.derived .points)) := by
  cases found : Derived.ratedPointSum.defect? settings store with
  | some cause =>
    have defect : (Derived.ratedPointSum.defect? settings store).isSome := by rw [found]; rfl
    exact iff_of_true (ratedPointSum_again (refreshed_of_defect defect).2) (.inl rfl)
  | none =>
    obtain ⟨rebuilt, stopped⟩ := defect?_refreshed found
    have left : (store.refreshed settings).get (.derived .ratedPointSum) =
        some (store.sums settings (store.rows (.derived .points))) := by
      rw [get_refreshed_ratedPointSum, if_pos found]
      rfl
    rw [get_refreshed_ratedPointSum settings (store.refreshed settings), left, rebuilt]
    by_cases sound : Derived.ratedPointSum.defect? settings (store.refreshed settings) = none
    · have numbers : ¬ (store.sums settings (Derived.points.settled settings store)).any (·.total.isNaN) := by
        rw [← stopped, sound]
        exact Bool.false_ne_true
      rw [if_pos sound, Option.some_inj]
      exact ⟨fun same => .inr (.inr same), fun cases => (cases.resolve_left Bool.false_ne_true).resolve_left numbers⟩
    · rw [if_neg sound]
      exact iff_of_true rfl (.inr (.inl (stopped.mp (Option.isSome_iff_ne_none.mpr sound))))

/-- A full run done again leaves every table as it is, but for the sums of rated points: they stay exactly if a run was
stopped at them, or if the points that the first run has left give the sums that the points before it have given. -/
theorem second_run_stays_iff (free : store.Open) (keyed : store.Keyed) (positive : 0 < settings.batchSize) :
    let first := (store.updateAll settings none).state
    let second := (first.updateAll settings none).state
    let worth := Derived.points.settled settings store
    (∀ table, table ≠ .ratedPointSum → second.get (.derived table) = first.get (.derived table)) ∧
    ((∀ table, second.get (.derived table) = first.get (.derived table)) ↔
      (Derived.ratedPointSum.defect? settings store).isSome ∨
      (store.sums settings worth).any (·.total.isNaN) ∨
      store.sums settings worth = store.sums settings (store.rows (.derived .points))) := by
  intro first second worth
  have opened : (store.refreshed settings).Open := free.rewriteAll _
  have once : first = store.refreshed settings := (updateAll_eq free positive).1
  have twice : second = (store.refreshed settings).refreshed settings := by
    change (first.updateAll settings none).state = _
    rw [once]
    exact (updateAll_eq opened positive).1
  rw [once, twice, ← ratedPointSum_stays_iff]
  refine ⟨fun table different => get_refreshed_again keyed different, fun stays => stays _, fun stays table => ?_⟩
  by_cases rated : table = .ratedPointSum
  · rw [rated]
    exact stays
  · exact get_refreshed_again keyed rated

def firstContest (points : List ProblemPoint) : Store where
  contests := some [⟨"abc1", 1500000000, 6000, "first", "All"⟩]
  submissions := some [⟨1, 1500000100, "a", "abc1", "ann", "C++", some 100, 20, "AC", some 3⟩]
  points := some points

theorem firstContest_open (points : List ProblemPoint) : (firstContest points).Open := by
  refine ⟨fun table => ?_, rfl⟩
  rcases table with _ | _ | (_ | _ | _ | _ | (_ | _ | _) | (_ | _ | _) | _) <;> rfl

/-- With the points of the contest there from the start, the first run already gives the last sums. -/
theorem second_run_stays_of_points :
    let store := firstContest [⟨"a", some 100⟩]
    let first := (store.updateAll {} none).state
    store.Open ∧ store.Keyed ∧ 0 < ({} : Settings).batchSize ∧
    ∀ table, (first.updateAll {} none).state.get (.derived table) = first.get (.derived table) := by
  intro store first
  have free : store.Open := firstContest_open _
  have keyed : store.Keyed := ⟨by decide, List.pairwise_singleton ..⟩
  refine ⟨free, keyed, by decide, (second_run_stays_iff free keyed (by decide)).2.mpr (.inr (.inr ?_))⟩
  decide +kernel

/-- Without them the first run gives no sums, and the second gives sums from the points that the first has found. -/
theorem second_run_changes_sums :
    let store := firstContest []
    let first := (store.updateAll {} none).state
    let second := (first.updateAll {} none).state
    store.Open ∧ store.Keyed ∧ 0 < ({} : Settings).batchSize ∧
    (∀ row ∈ Derived.ratedPointSum.rebuild {} store, row.total.isNaN = false) ∧
    (∀ row ∈ Derived.ratedPointSum.rebuild {} first, row.total.isNaN = false) ∧
    first.ratedPointSum = some [] ∧ second.ratedPointSum = some [⟨"ann", 100⟩] := by
  intro store first second
  refine ⟨firstContest_open _, ⟨by decide, .nil⟩, ?_⟩
  decide +kernel

end Store

end JudgeStats
