import JudgeStats.Proofs.BestRows
import JudgeStats.Proofs.FullRefresh

/-! What a full run gives depends on contests, solved submissions and points alone. Two stores that agree on these, in
whatever order their rows are, get the same tables, whatever other submissions they have and whatever their derived tables
held before. -/

namespace JudgeStats

/-- Stores that have the same contests, the same solved submissions and the same points. -/
structure Store.SameSources (settings : Settings) (one other : Store) : Prop where
  contests : ∀ contest, contest ∈ one.rows .contests ↔ contest ∈ other.rows .contests
  solved : ∀ submission, submission ∈ one.solved settings ↔ submission ∈ other.solved settings
  points : ∀ row, row ∈ one.rows (.derived .points) ↔ row ∈ other.rows (.derived .points)

/-- The points of submissions are in the form in which a table holds them. -/
def Store.HasSavedPoints (store : Store) : Prop :=
  ∀ submission ∈ store.rows .submissions, ∀ amount, submission.point = some amount → Amount.IsSaved amount

instance (store : Store) : Decidable store.HasSavedPoints :=
  decidable_of_iff (∀ submission ∈ store.rows .submissions, ∀ amount ∈ submission.point, Amount.IsSaved amount) Iff.rfl

namespace Store
variable {settings : Settings} {one other : Store}

theorem Keyed.eq_of_id_eq {store : Store} (keyed : store.Keyed) {a b : Submission} (member : a ∈ store.rows .submissions)
    (inside : b ∈ store.rows .submissions) (same : a.id = b.id) : a = b :=
  List.inj_on_of_nodup_map keyed.submissions member inside same

theorem mem_of_mem_solved {store : Store} {submission : Submission} (member : submission ∈ store.solved settings) :
    submission ∈ store.rows .submissions :=
  (mem_solved_iff.mp member).1

theorem mem_named_iff {store : Store} (keyed : store.Keyed) {measure : Measure} {submission : Submission} :
    submission ∈ Statistic.named ((Derived.great measure).rebuild settings store) (store.rows .submissions) ↔
      submission ∈ Statistic.named ((Derived.great measure).rebuild settings store) (store.solved settings) := by
  refine ⟨fun member => ?_, fun member => ?_⟩
  · obtain ⟨inside, found⟩ := List.mem_filter.mp member
    refine List.mem_filter.mpr ⟨?_, found⟩
    obtain ⟨row, great, same⟩ := List.any_eq_true.mp found
    obtain ⟨winner, among, _, rfl⟩ := Statistic.mem_bestByProblem_iff.mp great
    have solved : winner ∈ store.solved settings := List.mem_of_mem_filter among
    rw [← keyed.eq_of_id_eq (mem_of_mem_solved solved) inside (beq_iff_eq.mp same)]
    exact solved
  · obtain ⟨inside, found⟩ := List.mem_filter.mp member
    exact List.mem_filter.mpr ⟨mem_of_mem_solved inside, found⟩

section Same
variable (same : one.SameSources settings other) (keyed : one.Keyed) (ordered : other.Keyed)
include same

private theorem startedBefore_congr : Statistic.startedBefore (one.rows .contests) =
    Statistic.startedBefore (other.rows .contests) := by
  funext submission
  apply Bool.eq_iff_iff.mpr
  simp only [Statistic.startedBefore, List.any_eq_true, same.contests]

private theorem isRated_congr : Statistic.isRated settings (one.rows .contests) =
    Statistic.isRated settings (other.rows .contests) := by
  funext submission
  apply Bool.eq_iff_iff.mpr
  simp only [Statistic.isRated, List.any_eq_true, same.contests]

private theorem competing_congr (submission : Submission) :
    submission ∈ (one.solved settings).filter (Statistic.startedBefore (one.rows .contests)) ↔
      submission ∈ (other.solved settings).filter (Statistic.startedBefore (other.rows .contests)) := by
  rw [startedBefore_congr same]
  exact Ascending.mem_filter_congr same.solved _ submission

include keyed

private theorem great_congr (measure : Measure) :
    (Derived.great measure).rebuild settings one = (Derived.great measure).rebuild settings other := by
  apply Statistic.bestByProblem_congr (competing_congr same)
  intro a member b inside equal
  exact keyed.eq_of_id_eq (mem_of_mem_solved (List.mem_of_mem_filter member))
    (mem_of_mem_solved (List.mem_of_mem_filter inside)) equal

include ordered

private theorem points_eq : one.rows (.derived .points) = other.rows (.derived .points) :=
  Ascending.eq_of_mem_iff keyed.points ordered.points same.points

theorem SameSources.fresh_eq (saved : one.HasSavedPoints) (table : Derived) :
    table.fresh settings one = table.fresh settings other := by
  cases table with
  | acceptedCount => exact Statistic.problemsByUser_congr same.solved
  | solver => exact Statistic.usersByProblem_congr same.solved
  | languageCount => exact Statistic.problemsByLanguage_congr same.solved
  | ratedPointSum =>
    change Statistic.pointsByUser _ _ = Statistic.pointsByUser _ _
    rw [points_eq same keyed ordered]
    exact Statistic.pointsByUser_congr (Ascending.mem_filter_congr same.solved _) _
  | great measure => exact great_congr same keyed measure
  | greatCount measure =>
    apply Statistic.problemsByUser_congr
    intro submission
    rw [mem_named_iff keyed, mem_named_iff ordered, great_congr same keyed measure]
    exact Ascending.mem_filter_congr same.solved _ submission
  | points =>
    change Statistic.mostPoints _ = Statistic.mostPoints _
    rw [isRated_congr same]
    apply Statistic.mostPoints_congr (Ascending.mem_filter_congr same.solved _)
    intro submission member amount point
    exact saved submission (mem_of_mem_solved (List.mem_of_mem_filter member)) amount point

theorem SameSources.defect?_eq (saved : one.HasSavedPoints) :
    Derived.ratedPointSum.defect? settings one = Derived.ratedPointSum.defect? settings other := by
  have rebuilt : Derived.ratedPointSum.rebuild settings one = Derived.ratedPointSum.rebuild settings other :=
    same.fresh_eq keyed ordered saved .ratedPointSum
  have empty : (one.solved settings).isEmpty = (other.solved settings).isEmpty := by
    apply Bool.eq_iff_iff.mpr
    simp only [List.isEmpty_iff, List.eq_nil_iff_forall_not_mem, same.solved]
  rw [Derived.defect?, Derived.defect?, rebuilt, Derived.sourceError?, Derived.sourceError?, empty]

theorem SameSources.settled_eq (saved : one.HasSavedPoints) (table : Derived) :
    table.settled settings one = table.settled settings other := by
  rw [Derived.settled, Derived.settled, same.fresh_eq keyed ordered saved table]
  by_cases whole : table = .points
  · subst whole
    rw [points_eq same keyed ordered]
  · rw [Derived.kept_eq_nil whole, Derived.kept_eq_nil whole]

end Same

/-- Two stores with the same sources are not told apart by a full run: it fails on both or on none, and where it succeeds it
answers the same and leaves the same in every derived table. -/
theorem updateAll_of_sameSources (positive : 0 < settings.batchSize) (free : one.Open) (opened : other.Open)
    (keyed : one.Keyed) (ordered : other.Keyed) (saved : one.HasSavedPoints) (same : one.SameSources settings other) :
    (one.updateAll settings none).result.isOk = (other.updateAll settings none).result.isOk ∧
    ∀ answers, (one.updateAll settings none).result = .ok answers →
      (other.updateAll settings none).result = .ok answers ∧
      ∀ table, (one.updateAll settings none).state.get (.derived table) =
        (other.updateAll settings none).state.get (.derived table) := by
  obtain ⟨left, stopped⟩ := updateAll_eq free positive
  obtain ⟨right, refused⟩ := updateAll_eq opened positive
  have defect := same.defect?_eq keyed ordered saved
  refine ⟨by rw [stopped, refused, defect], fun answers finished => ?_⟩
  have sound : Derived.ratedPointSum.defect? settings one = none := by
    rw [finished] at stopped
    exact Option.isNone_iff_eq_none.mp stopped.symm
  constructor
  · rw [← finished, updateAll_ok free positive sound, updateAll_ok opened positive (defect ▸ sound)]
    simp only [same.fresh_eq keyed ordered saved]
  · intro table
    have member : ∀ store : Store, Derived.ratedPointSum.defect? settings store = none →
        table ∈ store.replacedTables settings := by
      intro store none
      rw [replacedTables, none]
      exact Derived.mem_order table
    rw [left, right, get_refreshed, get_refreshed, if_pos (member one sound), if_pos (member other (defect ▸ sound)),
      same.settled_eq keyed ordered saved]

def twoSolved (submissions : List Submission) (counts : List UserCount) : Store where
  contests := some [⟨"abc1", 1500000000, 6000, "first", "All"⟩]
  submissions := some submissions
  acceptedCount := some counts

theorem twoSolved_open (submissions : List Submission) (counts : List UserCount) : (twoSolved submissions counts).Open := by
  refine ⟨fun table => ?_, rfl⟩
  rcases table with _ | _ | (_ | _ | _ | _ | (_ | _ | _) | (_ | _ | _) | _) <;> rfl

/-- Neither the order of submissions nor a wrong answer nor an old count shows in the tables. -/
theorem updateAll_of_other_order :
    let early : Submission := ⟨1, 1500000100, "a", "abc1", "ann", "C++", some 100, 20, "AC", some 3⟩
    let late : Submission := ⟨2, 1500000200, "a", "abc1", "bob", "Rust", some 300, 10, "AC", none⟩
    let wrong : Submission := ⟨3, 1500000050, "a", "abc1", "eve", "C++", some 900, 5, "WA", some 1⟩
    let one := twoSolved [early, late] []
    let other := twoSolved [wrong, late, early] [⟨"eve", 7⟩]
    one.Open ∧ other.Open ∧ one.Keyed ∧ other.Keyed ∧ one.HasSavedPoints ∧ one.SameSources {} other ∧
    (one.updateAll {} none).result.isOk ∧
    ∀ table, (one.updateAll {} none).state.get (.derived table) = (other.updateAll {} none).state.get (.derived table) := by
  intro early late wrong one other
  have free : one.Open := twoSolved_open _ _
  have opened : other.Open := twoSolved_open _ _
  have keyed : one.Keyed := ⟨by decide, .nil⟩
  have ordered : other.Keyed := ⟨by decide, .nil⟩
  have saved : one.HasSavedPoints := by
    have all : ∀ submission ∈ one.rows .submissions, Amount.IsSaved (submission.point.getD 0) := by decide +kernel
    intro submission member amount point
    have held := all submission member
    rw [point] at held
    exact held
  have same : one.SameSources {} other := by
    refine ⟨fun _ => Iff.rfl, fun submission => ?_, fun _ => Iff.rfl⟩
    have left : one.solved {} = [early, late] := by decide +kernel
    have right : other.solved {} = [late, early] := by decide +kernel
    rw [left, right]
    exact (List.Perm.swap late early []).mem_iff
  have succeeded : (one.updateAll {} none).result.isOk := by decide +kernel
  refine ⟨free, opened, keyed, ordered, saved, same, succeeded, ?_⟩
  cases finished : (one.updateAll {} none).result with
  | error error => rw [finished] at succeeded; cases succeeded
  | ok answers =>
    exact ((updateAll_of_sameSources (by decide) free opened keyed ordered saved same).2 answers finished).2

end Store

end JudgeStats
