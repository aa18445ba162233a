import JudgeStats.Proofs.Tallies
import JudgeStats.Statistic.Rebuild

/-! What a rebuild gives and what a table holds afterwards. A rebuild ascends by key whatever the order of its sources is,
and looks at few tables. Only the points keep rows of before: those without points on problems that get no new row. -/

namespace JudgeStats

namespace Statistic

theorem bestByProblem_ascending (measure : Measure) (submissions : List Submission) :
    Ascending Schema.key (bestByProblem measure submissions) := by
  apply (Ascending.distinct_ascending (submissions.map (·.problem))).filterMap
  intro first later row other less made found
  obtain ⟨_, _, rfl⟩ := Option.map_eq_some_iff.mp made
  obtain ⟨_, _, rfl⟩ := Option.map_eq_some_iff.mp found
  exact less

theorem mostPoints_ascending (submissions : List Submission) : Ascending Schema.key (mostPoints submissions) :=
  (Ascending.distinct_ascending _).map _ fun _ _ less => less

theorem pointsByUser_ascending (points : List ProblemPoint) (submissions : List Submission) :
    Ascending Schema.key (pointsByUser points submissions) :=
  (Ascending.distinct_ascending _).map _ fun _ _ less => less

end Statistic

namespace Store

/-- A user has an accepted submission on a problem. -/
def Solves (settings : Settings) (store : Store) (user problem : String) : Prop :=
  ∃ submission ∈ store.rows .submissions, submission.result = settings.acceptedResult ∧ submission.user = user ∧
    submission.problem = problem

theorem solves_iff {settings : Settings} {store : Store} {user problem : String} : store.Solves settings user problem ↔
    ∃ submission ∈ store.solved settings, submission.user = user ∧ submission.problem = problem := by
  simp only [Solves, mem_solved_iff, and_assoc]

theorem solved_congr {settings : Settings} {store other : Store} (same : store.rows .submissions = other.rows .submissions) :
    store.solved settings = other.solved settings := by
  rw [solved, solved, same]

end Store

namespace Derived
open Statistic

theorem rebuild_ascending (settings : Settings) (store : Store) (table : Derived) :
    Ascending Schema.key (table.rebuild settings store) := by
  cases table with
  | acceptedCount => exact problemsByUser_ascending _
  | solver => exact usersByProblem_ascending _
  | ratedPointSum => exact pointsByUser_ascending _ _
  | languageCount => exact problemsByLanguage_ascending _
  | great measure => exact bestByProblem_ascending measure _
  | greatCount measure => exact problemsByUser_ascending _
  | points => exact mostPoints_ascending _

/-- The tables whose rows a rebuild looks at. -/
def reads : Derived → List Table
  | acceptedCount | solver | languageCount => [.submissions]
  | ratedPointSum => [.submissions, .derived points]
  | great _ | points => [.submissions, .contests]
  | greatCount measure => [.submissions, .derived (great measure)]

section Reads
variable {settings : Settings} {store other : Store} {table : Derived}
  (same : ∀ needed ∈ table.reads, store.rows needed = other.rows needed)
include same

private theorem solved_eq_of_reads : store.solved settings = other.solved settings := by
  apply Store.solved_congr
  apply same
  cases table <;> exact List.mem_cons_self

theorem rebuild_congr : table.rebuild settings store = table.rebuild settings other := by
  have solved : store.solved settings = other.solved settings := solved_eq_of_reads same
  cases table with
  | acceptedCount | solver | languageCount => simp only [rebuild, solved]
  | ratedPointSum => simp only [rebuild, solved, same (.derived points) (by simp [reads])]
  | great measure | points => simp only [rebuild, solved, same .contests (by simp [reads])]
  | greatCount measure =>
    simp only [rebuild, same .submissions (by simp [reads]), same (.derived (great measure)) (by simp [reads])]

theorem sourceError?_congr : table.sourceError? settings store = table.sourceError? settings other := by
  have solved : store.solved settings = other.solved settings := solved_eq_of_reads same
  cases table with
  | ratedPointSum => simp only [sourceError?, solved]
  | _ => rfl

end Reads

/-- What a derived table holds after it was replaced: the rows of its rebuild, put among the rows that are not stale. -/
def rewritten (settings : Settings) (store : Store) (table : Derived) : List table.Row :=
  Ascending.putAll Schema.key (table.rebuild settings store) ((store.rows (.derived table)).filter (!table.isStale ·))

theorem isStale_points_eq_false_iff {row : ProblemPoint} : points.isStale row = false ↔ row.point = none :=
  Option.isSome_eq_false_iff.trans Option.isNone_iff_eq_none

theorem kept_eq_nil {table : Derived} (whole : table ≠ points) (rows : List table.Row) :
    rows.filter (!table.isStale ·) = [] := by
  apply List.filter_eq_nil_iff.mpr
  intro row _
  cases table with
  | points => exact absurd rfl whole
  | _ => exact Bool.false_ne_true

theorem rewritten_eq_rebuild (settings : Settings) (store : Store) {table : Derived} (whole : table ≠ points) :
    table.rewritten settings store = table.rebuild settings store := by
  rw [rewritten, kept_eq_nil whole]
  exact Ascending.putAll_nil (rebuild_ascending settings store table)

section Ordered
variable (settings : Settings) {store : Store} {table : Derived}
  (ordered : Ascending Schema.key (store.rows (.derived table)))
include ordered

theorem rewritten_ascending : Ascending Schema.key (table.rewritten settings store) :=
  Ascending.putAll_ascending (ordered.filter _) _

theorem mem_rewritten_iff {row : table.Row} : row ∈ table.rewritten settings store ↔
    row ∈ table.rebuild settings store ∨ (row ∈ store.rows (.derived table) ∧ table.isStale row = false) ∧
      ∀ built ∈ table.rebuild settings store, Schema.key row ≠ Schema.key built := by
  rw [rewritten, Ascending.mem_putAll_iff (rebuild_ascending settings store table) (ordered.filter _), List.mem_filter,
    Bool.not_eq_true']

end Ordered

/-- The rows with points are the new ones. -/
theorem mem_rewritten_points_of_isSome (settings : Settings) {store : Store}
    (ordered : Ascending Schema.key (store.rows (.derived points))) {row : ProblemPoint} (some : row.point.isSome) :
    row ∈ points.rewritten settings store ↔ row ∈ points.rebuild settings store := by
  rw [mem_rewritten_iff settings ordered]
  refine or_iff_left ?_
  rintro ⟨⟨_, fresh⟩, _⟩
  exact Bool.false_ne_true (fresh.symm.trans some)

end Derived

end JudgeStats
