import JudgeStats.Proofs.AddedRows
import JudgeStats.Proofs.RepeatedRefresh
import JudgeStats.Store.Edit

/-! One more submission before a full run. If it is not accepted no table differs. If it is, the counts differ at its user,
problem and language, the points at its problem, the sums at its user, and it takes over the best submission on its problem
from the one before or leaves everything about the best submissions as it is. -/

namespace JudgeStats

namespace Store
open Statistic

/-- The store with one more submission, as an insertion leaves it. -/
def adding (store : Store) (submission : Submission) : Store :=
  store.set .submissions (some (Ascending.put Schema.key submission (store.rows .submissions)))

variable {settings : Settings} {store : Store} {submission : Submission}

theorem rows_adding_of_ne {table : Table} (other : table ≠ .submissions) :
    (store.adding submission).rows table = store.rows table :=
  congrArg (·.getD []) (get_set_of_ne store other _)

/-- Cells that are read as a submission when they are inserted. -/
def Gives (given : List (String × Cell)) (submission : Submission) : Prop :=
  let fields := Fields.override (withoutNullKey .submissions given) (.absent (Schema.columns Submission))
  (Schema.columns Submission).all (fun column => (fields column.name).fits) ∧ Schema.read fields = .ok submission

theorem Open.adding (free : store.Open) (submission : Submission) : (store.adding submission).Open := by
  refine ⟨fun table => ?_, (denials_set store _ _).trans free.permitted⟩
  by_cases same : table = .submissions
  · rw [same, Store.adding, get_set_self]
    rfl
  · rw [Store.adding, get_set_of_ne store same]
    exact free.present table

section Fresh
variable (fresh : ∀ old ∈ store.rows .submissions, old.id ≠ submission.id)
include fresh

/-- Nothing keeps a submission with an unused id from being inserted. -/
theorem Open.insert_eq (free : store.Open) {given : List (String × Cell)} (gives : Gives given submission) :
    store.insert .submissions [given] = .ok (store.adding submission, 1) := by
  obtain ⟨fits, made⟩ := gives
  obtain ⟨rows, held⟩ := Option.isSome_iff_exists.mp (free.present .submissions)
  have same : store.rows .submissions = rows := congrArg (·.getD []) held
  have single : rows.any (fun old => Schema.key old == Schema.key submission) = false := by
    rw [List.any_eq_false]
    intro old member equal
    exact fresh old (same ▸ member) (Key.number.inj (beq_iff_eq.mp equal))
  have row : store.insertRow .submissions rows given = .ok (Ascending.put Schema.key submission rows) := by
    have allowed (first : Cell) : store.permit .submissions .insert first = .ok () := by
      rw [permit, free.refusal?_eq_none]
    unfold insertRow
    dsimp only
    rw [if_pos fits, allowed, made]
    exact if_neg (Bool.eq_false_iff.mp single)
  simp only [insert, held, List.foldlM_cons, row]
  rw [Store.adding, same]
  rfl

theorem adds_adding : Adds submission (store.rows .submissions) ((store.adding submission).rows .submissions) := by
  have placed : (store.adding submission).rows .submissions =
      Ascending.put Schema.key submission (store.rows .submissions) := rfl
  rw [placed]
  exact Ascending.adds_put fun old member same => fresh old member (Key.number.inj same)

theorem Keyed.adding (keyed : store.Keyed) : (store.adding submission).Keyed := by
  refine ⟨?_, ?_⟩
  · rw [((adds_adding fresh).perm.map _).nodup_iff]
    refine List.nodup_cons.mpr ⟨fun member => ?_, keyed.submissions⟩
    obtain ⟨old, inside, same⟩ := List.mem_map.mp member
    exact fresh old inside same
  · rw [rows_adding_of_ne (by simp)]
    exact keyed.points

theorem solved_adding (accepted : submission.result = settings.acceptedResult) :
    Adds submission (store.solved settings) ((store.adding submission).solved settings) :=
  (adds_adding fresh).filter_of_pos (beq_iff_eq.mpr accepted)

theorem solved_adding_of_ne (failed : submission.result ≠ settings.acceptedResult) :
    (store.adding submission).solved settings = store.solved settings :=
  (adds_adding fresh).filter_of_neg (beq_eq_false_iff_ne.mpr failed)

end Fresh

theorem exists_of_mem_great {measure : Measure} {best : GreatSubmission}
    (member : best ∈ (Derived.great measure).rebuild settings store) :
    ∃ old ∈ store.rows .submissions, old.id = best.submission := by
  obtain ⟨winner, among, _, rfl⟩ := mem_bestByProblem_iff.mp member
  exact ⟨winner, mem_of_mem_solved (List.mem_of_mem_filter among), rfl⟩

theorem great_problems_nodup (measure : Measure) (store : Store) :
    (((Derived.great measure).rebuild settings store).map (·.problem)).Nodup := by
  change ((bestByProblem measure _).map (·.problem)).Nodup
  rw [map_problem_bestByProblem]
  exact (Ascending.distinct_ascending _).nodup

section Fresh
variable (fresh : ∀ old ∈ store.rows .submissions, old.id ≠ submission.id)
include fresh

theorem named_adding (measure : Measure) :
    named ((Derived.great measure).rebuild settings store) ((store.adding submission).rows .submissions) =
      named ((Derived.great measure).rebuild settings store) (store.rows .submissions) := by
  apply (adds_adding fresh).filter_of_neg
  rw [List.any_eq_false]
  intro best member same
  obtain ⟨old, inside, number⟩ := exists_of_mem_great member
  exact fresh old inside (number.trans (beq_iff_eq.mp same))

/-- Where the best submissions stay the same their counts do. -/
theorem fresh_greatCount_adding {measure : Measure} (same : (Derived.great measure).rebuild settings (store.adding submission) =
      (Derived.great measure).rebuild settings store) :
    (Derived.greatCount measure).fresh settings (store.adding submission) =
      (Derived.greatCount measure).fresh settings store := by
  change problemsByUser (named _ _) = problemsByUser (named _ _)
  rw [same, named_adding fresh]

theorem fresh_adding_of_ne (failed : submission.result ≠ settings.acceptedResult) (table : Derived) :
    table.fresh settings (store.adding submission) = table.fresh settings store := by
  have solved := solved_adding_of_ne fresh failed
  have contests : (store.adding submission).rows .contests = store.rows .contests := rows_adding_of_ne (by simp)
  have points : (store.adding submission).rows (.derived .points) = store.rows (.derived .points) :=
    rows_adding_of_ne (by simp)
  cases table with
  | greatCount measure =>
    apply fresh_greatCount_adding fresh
    simp only [Derived.rebuild, solved, contests]
  | _ => simp only [Derived.fresh, Derived.rebuild, solved, contests, points]

variable (keyed : store.Keyed) (accepted : submission.result = settings.acceptedResult)
include keyed accepted

/-- The new submission changes nothing about the best ones, or it is the best one on its problem. -/
theorem great_adding (measure : Measure) :
    (Derived.great measure).rebuild settings (store.adding submission) = (Derived.great measure).rebuild settings store ∨
    ∀ row : GreatSubmission, row ∈ (Derived.great measure).rebuild settings (store.adding submission) ↔
      row = ⟨submission.problem, submission.id, submission.contest⟩ ∨
        row.problem ≠ submission.problem ∧ row ∈ (Derived.great measure).rebuild settings store := by
  have contests : (store.adding submission).rows .contests = store.rows .contests := rows_adding_of_ne (by simp)
  have solved := solved_adding fresh accepted
  have rebuilt (current : Store) : (Derived.great measure).rebuild settings current =
      bestByProblem measure ((current.solved settings).filter (startedBefore (current.rows .contests))) := rfl
  rw [rebuilt, rebuilt, contests]
  cases competes : startedBefore (store.rows .contests) submission with
  | false => exact .inl (congrArg _ (solved.filter_of_neg competes))
  | true =>
    apply bestByProblem_adds (solved.filter_of_pos competes)
    intro a member b inside
    exact (keyed.adding fresh).eq_of_id_eq (mem_of_mem_solved (List.mem_of_mem_filter member))
      (mem_of_mem_solved (List.mem_of_mem_filter inside))

end Fresh

theorem shares_fresh (keyed : store.Keyed) (measure : Measure) : Shares (store.rows .submissions)
    ((Derived.great measure).rebuild settings store) ((Derived.greatCount measure).fresh settings store) :=
  shares_problemsByUser (fun _ member _ inside => keyed.eq_of_id_eq member inside)
    (fun _ member => mem_of_mem_solved (List.mem_of_mem_filter member)) measure

theorem get_updateAll (free : store.Open) (positive : 0 < settings.batchSize)
    (finished : (store.updateAll settings none).result.isOk) (table : Derived) :
    (store.updateAll settings none).state.get (.derived table) = some (table.settled settings store) := by
  obtain ⟨state, result⟩ := updateAll_eq free positive
  have sound : Derived.ratedPointSum.defect? settings store = none :=
    Option.isNone_iff_eq_none.mp (result.symm.trans finished)
  rw [state, get_refreshed, (refreshed_of_sound sound).1, if_pos (Derived.mem_order table)]

/-- What one more solved submission changes in the derived tables. -/
structure LocalChange (settings : Settings) (store : Store) (submission : Submission)
    (before after : (table : Derived) → List table.Row) : Prop where
  byUser : Gains UserCount.mk (·.user) (·.problem) (store.solved settings) submission
    (before .acceptedCount) (after .acceptedCount)
  byProblem : Gains SolverCount.mk (·.problem) (·.user) (store.solved settings) submission (before .solver) (after .solver)
  byLanguage : Gains (fun place count => LanguageCount.mk place.1 place.2 count) place (·.problem) (store.solved settings)
    submission (before .languageCount) (after .languageCount)
  sums : ∀ row : PointSum, row.user ≠ submission.user → (row ∈ after .ratedPointSum ↔ row ∈ before .ratedPointSum)
  points : ∀ row : ProblemPoint, row.problem ≠ submission.problem → (row ∈ after .points ↔ row ∈ before .points)
  /-- Nothing changes, or the submission is the best one on its problem from now on, counts for its user and no longer for
  the one before, if there was one. -/
  great : ∀ measure,
    (after (.great measure) = before (.great measure) ∧ after (.greatCount measure) = before (.greatCount measure)) ∨
    (∀ row : GreatSubmission, row ∈ after (.great measure) ↔
      row = ⟨submission.problem, submission.id, submission.contest⟩ ∨
        row.problem ≠ submission.problem ∧ row ∈ before (.great measure)) ∧
    ∃ number other, Counts UserCount.mk number (before (.greatCount measure)) ∧
      Counts UserCount.mk other (after (.greatCount measure)) ∧
      ∀ user, other user + (if ownerOf? (before (.great measure)) (store.rows .submissions) submission.problem = some user
        then 1 else 0) = number user + if submission.user = user then 1 else 0

section Run
variable (fresh : ∀ old ∈ store.rows .submissions, old.id ≠ submission.id)
include fresh

theorem mem_sums_adding (accepted : submission.result = settings.acceptedResult) {row : PointSum}
    (apart : row.user ≠ submission.user) :
    row ∈ Derived.ratedPointSum.rebuild settings (store.adding submission) ↔
      row ∈ Derived.ratedPointSum.rebuild settings store := by
  have worth : (store.adding submission).rows (.derived .points) = store.rows (.derived .points) :=
    rows_adding_of_ne (by simp)
  change row ∈ pointsByUser _ _ ↔ row ∈ pointsByUser _ _
  rw [worth]
  rcases (solved_adding fresh accepted).filter_cases fun solved => !isExcluded settings solved.user &&
    (pointOf? (store.rows (.derived .points)) solved.problem).isSome with added | same
  · exact mem_pointsByUser_adds added apart
  · rw [same]

variable (keyed : store.Keyed)
include keyed

theorem mem_settled_points_adding (accepted : submission.result = settings.acceptedResult) {row : ProblemPoint}
    (apart : row.problem ≠ submission.problem) :
    row ∈ Derived.points.settled settings (store.adding submission) ↔ row ∈ Derived.points.settled settings store := by
  have contests : (store.adding submission).rows .contests = store.rows .contests := rows_adding_of_ne (by simp)
  have worth : (store.adding submission).rows (.derived .points) = store.rows (.derived .points) :=
    rows_adding_of_ne (by simp)
  have rebuilt (other : ProblemPoint) (apart : other.problem ≠ submission.problem) :
      other ∈ Derived.points.rebuild settings (store.adding submission) ↔ other ∈ Derived.points.rebuild settings store := by
    change other ∈ mostPoints _ ↔ other ∈ mostPoints _
    rw [contests]
    rcases (solved_adding fresh accepted).filter_cases (isRated settings (store.rows .contests)) with added | same
    · exact mem_mostPoints_adds added apart
    · rw [same]
  change row ∈ Derived.points.rewritten settings _ ↔ row ∈ Derived.points.rewritten settings _
  rw [Derived.mem_rewritten_iff settings (keyed.adding fresh).points, Derived.mem_rewritten_iff settings keyed.points,
    worth, rebuilt row apart]
  -- A row that is kept gives way to a new one on its own problem only, and that one is not new.
  have problem {built : ProblemPoint} (same : Schema.key row = Schema.key built) : built.problem ≠ submission.problem := by
    rw [← Key.text.inj same]
    exact apart
  refine or_congr_right (and_congr_right fun _ => ⟨fun alone built member same => ?_, fun alone built member same => ?_⟩)
  · exact alone built ((rebuilt built (problem same)).mpr member) same
  · exact alone built ((rebuilt built (problem same)).mp member) same

theorem localChange_settled (accepted : submission.result = settings.acceptedResult) : LocalChange settings store submission
    (fun table => table.settled settings store) (fun table => table.settled settings (store.adding submission)) := by
  have solved := solved_adding fresh accepted
  have settled {table : Derived} (whole : table ≠ .points) (current : Store) :
      table.settled settings current = table.fresh settings current := Derived.settled_eq_fresh settings current whole
  constructor
  case byUser =>
    rw [settled (by simp), settled (by simp)]
    exact gains_of_counts solved (counts_problemsByUser _) (counts_problemsByUser _)
  case byProblem =>
    rw [settled (by simp), settled (by simp)]
    exact gains_of_counts solved (counts_usersByProblem _) (counts_usersByProblem _)
  case byLanguage =>
    rw [settled (by simp), settled (by simp)]
    exact gains_of_counts solved (counts_problemsByLanguage _) (counts_problemsByLanguage _)
  case sums =>
    intro row apart
    rw [settled (by simp), settled (by simp)]
    exact mem_sums_adding fresh accepted apart
  case points => exact fun row apart => mem_settled_points_adding fresh keyed accepted apart
  case great =>
    intro measure
    simp only [settled (by simp : Derived.great measure ≠ .points), settled (by simp : Derived.greatCount measure ≠ .points)]
    rcases great_adding fresh keyed accepted measure with same | taken
    · exact .inl ⟨same, fresh_greatCount_adding fresh same⟩
    · refine .inr ⟨taken, _, _, (shares_fresh keyed measure).counts_countP,
        (shares_fresh (keyed.adding fresh) measure).counts_countP, fun user => ?_⟩
      exact countP_adds (adds_adding fresh) fresh (fun a member b inside => keyed.eq_of_id_eq member inside)
        (fun best member => exists_of_mem_great member) (great_problems_nodup measure store)
        ((great_problems_nodup measure (store.adding submission)).of_map _) taken

end Run

/-- A submission with an unused id can be inserted. It has no effect on a full run if it is not accepted, and a local one if it
is. -/
theorem updateAll_adding (free : store.Open) (keyed : store.Keyed) (positive : 0 < settings.batchSize)
    (fresh : ∀ old ∈ store.rows .submissions, old.id ≠ submission.id) (finished : (store.updateAll settings none).result.isOk)
    (done : ((store.adding submission).updateAll settings none).result.isOk) :
    let before := (store.updateAll settings none).state
    let after := ((store.adding submission).updateAll settings none).state
    (∀ given, Gives given submission → store.insert .submissions [given] = .ok (store.adding submission, 1)) ∧
    (submission.result ≠ settings.acceptedResult → ∀ table, after.get (.derived table) = before.get (.derived table)) ∧
    (submission.result = settings.acceptedResult → LocalChange settings store submission
      (fun table => before.rows (.derived table)) fun table => after.rows (.derived table)) := by
  intro before after
  have left := get_updateAll free positive finished
  have right := get_updateAll (free.adding submission) positive done
  refine ⟨fun given => free.insert_eq fresh, ?_, ?_⟩
  · intro failed table
    rw [left, right, Derived.settled, Derived.settled, fresh_adding_of_ne fresh failed, rows_adding_of_ne (by simp)]
  · intro accepted
    have old : (fun table : Derived => before.rows (.derived table)) = fun table => table.settled settings store :=
      funext fun table => congrArg (·.getD []) (left table)
    have new : (fun table : Derived => after.rows (.derived table)) =
        fun table => table.settled settings (store.adding submission) :=
      funext fun table => congrArg (·.getD []) (right table)
    rw [old, new]
    exact localChange_settled fresh keyed accepted

/-- An earlier submission of another user takes over the first place, and the user before has no row any more. -/
theorem updateAll_adding_firstContest :
    let store := firstContest [⟨"a", some 100⟩]
    let submission : Submission := ⟨2, 1500000050, "a", "abc1", "bob", "Rust (1.42.0)", some 300, 30, "AC", none⟩
    let given := [("id", .number 2), ("epoch_second", .number 1500000050), ("problem_id", .text "a"), ("contest_id", .text "abc1"),
      ("user_id", .text "bob"), ("language", .text "Rust (1.42.0)"), ("point", .amount 300), ("length", .number 30),
      ("result", .text "AC")]
    let before := (store.updateAll {} none).state
    let after := ((store.adding submission).updateAll {} none).state
    store.Open ∧ store.Keyed ∧ (∀ old ∈ store.rows .submissions, old.id ≠ submission.id) ∧
    store.insert .submissions [given] = .ok (store.adding submission, 1) ∧
    LocalChange {} store submission (fun table => before.rows (.derived table)) (fun table => after.rows (.derived table)) ∧
    before.firstCount = some [⟨"ann", 1⟩] ∧ after.firstCount = some [⟨"bob", 1⟩] ∧
    after.shortestCount = before.shortestCount := by
  intro store submission given before after
  have free : store.Open := firstContest_open _
  have keyed : store.Keyed := ⟨by decide, List.pairwise_singleton ..⟩
  have fresh : ∀ old ∈ store.rows .submissions, old.id ≠ submission.id := by decide
  have finished : (store.updateAll {} none).result.isOk := by decide +kernel
  have done : ((store.adding submission).updateAll {} none).result.isOk := by decide +kernel
  obtain ⟨inserted, _, change⟩ := updateAll_adding free keyed (by decide) fresh finished done
  have gives : Gives given submission := ⟨by decide, by decide +kernel⟩
  exact ⟨free, keyed, fresh, inserted given gives, change rfl, by decide +kernel, by decide +kernel, by decide +kernel⟩

end Store

end JudgeStats
