import JudgeStats.Proofs.CommitRecord
import JudgeStats.Proofs.PointRows
import JudgeStats.Proofs.SourceRows

/-! What problems are worth after their points were replaced: the most that an accepted submission got in a rated contest
from the cutoff on. Rows with points do not outlive their submissions. Rows without points stay until there are points to
fill them with, so the old rows do not show in the points, and replacing them once more has no further effect. -/

namespace JudgeStats

namespace Statistic

/-- Rows that have the points that some submissions give, and the problems of old rows without points. -/
structure HoldsHighest (gives : Submission → Prop) (old rows : List ProblemPoint) : Prop where
  single : (rows.map (·.problem)).Nodup
  present : ∀ problem, (∃ row ∈ rows, row.problem = problem) ↔
    (∃ submission, gives submission ∧ submission.problem = problem) ∨ ⟨problem, none⟩ ∈ old
  highest : ∀ row ∈ rows, IsHighest
    (fun amount => ∃ submission, gives submission ∧ submission.problem = row.problem ∧ submission.point = some amount) row.point
  gone : ∀ row ∈ old, row.point.isSome → (∀ submission, gives submission → submission.problem ≠ row.problem) →
    ∀ other ∈ rows, other.problem ≠ row.problem
  kept : ∀ row ∈ old, row.point = none →
    (row ∈ rows ↔ ∀ submission, gives submission → submission.problem = row.problem → submission.point = none)

/-- What becomes of the old rows follows from what is there and how high it is. -/
theorem holdsHighest_of_present {gives : Submission → Prop} {old rows : List ProblemPoint}
    (alone : (old.map (·.problem)).Nodup) (single : (rows.map (·.problem)).Nodup)
    (present : ∀ problem, (∃ row ∈ rows, row.problem = problem) ↔
      (∃ submission, gives submission ∧ submission.problem = problem) ∨ ⟨problem, none⟩ ∈ old)
    (highest : ∀ row ∈ rows, IsHighest (fun amount =>
      ∃ submission, gives submission ∧ submission.problem = row.problem ∧ submission.point = some amount) row.point) :
    HoldsHighest gives old rows := by
  refine ⟨single, present, highest, fun row member some apart other inside same => ?_, fun row member none => ?_⟩
  · rcases (present row.problem).mp ⟨other, inside, same⟩ with ⟨submission, given, on⟩ | empty
    · exact apart submission given on
    · rw [List.inj_on_of_nodup_map alone member empty rfl] at some
      cases some
  · constructor
    · intro stays submission given on
      have lacking := highest row stays
      rw [none] at lacking
      cases point : submission.point with
      | none => rfl
      | some amount => exact absurd ⟨submission, given, on, point⟩ (lacking amount)
    · intro lacking
      have empty : (⟨row.problem, .none⟩ : ProblemPoint) = row := none ▸ rfl
      obtain ⟨⟨_, point⟩, inside, rfl⟩ := (present row.problem).mpr (.inr (empty ▸ member))
      cases point with
      | none => exact empty ▸ inside
      | some amount =>
        obtain ⟨submission, given, on, held⟩ := (highest _ inside).1
        rw [lacking submission given on] at held
        cases held

end Statistic

namespace Store
open Statistic
variable {settings : Settings} {store other : Store}

/-- An accepted submission for a contest from the cutoff on that changes ratings. -/
def GivesPoints (settings : Settings) (store : Store) (submission : Submission) : Prop :=
  submission ∈ store.rows .submissions ∧ submission.result = settings.acceptedResult ∧
    ∃ contest ∈ store.rows .contests, contest.id = submission.contest ∧ settings.pointsCutoff ≤ contest.start ∧
      contest.rateChange ≠ settings.unratedContest

theorem mem_rated_iff {submission : Submission} :
    submission ∈ (store.solved settings).filter (isRated settings (store.rows .contests)) ↔
      store.GivesPoints settings submission := by
  simp only [GivesPoints, List.mem_filter, mem_solved_iff, isRated, List.any_eq_true, Bool.and_eq_true, beq_iff_eq,
    decide_eq_true_eq, bne_iff_ne, and_assoc]

theorem exists_built_iff {problem : String} : (∃ row ∈ Derived.points.rebuild settings store, row.problem = problem) ↔
    ∃ submission, store.GivesPoints settings submission ∧ submission.problem = problem := by
  refine (Ascending.exists_iff_of_map_eq (map_problem_mostPoints _)).trans ?_
  simp only [mem_rated_iff]

theorem isHighest_of_mem_built (saved : store.HasSavedPoints) {row : ProblemPoint}
    (built : row ∈ Derived.points.rebuild settings store) : IsHighest (fun amount => ∃ submission,
      store.GivesPoints settings submission ∧ submission.problem = row.problem ∧ submission.point = some amount) row.point := by
  simp only [← mem_rated_iff]
  exact isHighest_of_mem_mostPoints (fun submission member => saved submission
    (mem_of_mem_solved (List.mem_of_mem_filter member))) built

section Keyed
variable (keyed : store.Keyed)
include keyed

theorem mem_rewritten_points_iff {row : ProblemPoint} : row ∈ Derived.points.rewritten settings store ↔
    row ∈ Derived.points.rebuild settings store ∨ (row ∈ store.rows (.derived .points) ∧ row.point = none) ∧
      ∀ submission, store.GivesPoints settings submission → submission.problem ≠ row.problem := by
  rw [Derived.mem_rewritten_iff settings keyed.points]
  have apart : (∀ built ∈ Derived.points.rebuild settings store, Schema.key row ≠ Schema.key built) ↔
      ∀ submission, store.GivesPoints settings submission → submission.problem ≠ row.problem := by
    constructor
    · intro apart submission gives same
      obtain ⟨built, inside, on⟩ := exists_built_iff.mpr ⟨submission, gives, same⟩
      exact apart built inside (congrArg Key.text on.symm)
    · intro apart built inside same
      obtain ⟨submission, gives, on⟩ := exists_built_iff.mp ⟨built, inside, rfl⟩
      exact apart submission gives (on.trans (Key.text.inj same).symm)
  rw [Derived.isStale_points_eq_false_iff, apart]

theorem exists_rewritten_iff {problem : String} : (∃ row ∈ Derived.points.rewritten settings store, row.problem = problem) ↔
    (∃ submission, store.GivesPoints settings submission ∧ submission.problem = problem) ∨
      ⟨problem, none⟩ ∈ store.rows (.derived .points) := by
  constructor
  · rintro ⟨row, member, rfl⟩
    rcases (mem_rewritten_points_iff keyed).mp member with built | ⟨⟨old, none⟩, _⟩
    · exact .inl (exists_built_iff.mp ⟨row, built, rfl⟩)
    · exact .inr (none ▸ old)
  · intro source
    by_cases given : ∃ submission, store.GivesPoints settings submission ∧ submission.problem = problem
    · obtain ⟨row, built, on⟩ := exists_built_iff.mpr given
      exact ⟨row, (mem_rewritten_points_iff keyed).mpr (.inl built), on⟩
    · refine ⟨⟨problem, none⟩, (mem_rewritten_points_iff keyed).mpr (.inr ⟨⟨source.resolve_left given, rfl⟩, ?_⟩), rfl⟩
      exact fun submission gives same => given ⟨submission, gives, same⟩

theorem isHighest_of_mem_rewritten (saved : store.HasSavedPoints) {row : ProblemPoint}
    (member : row ∈ Derived.points.rewritten settings store) : IsHighest (fun amount => ∃ submission,
      store.GivesPoints settings submission ∧ submission.problem = row.problem ∧ submission.point = some amount) row.point := by
  rcases (mem_rewritten_points_iff keyed).mp member with built | ⟨⟨_, none⟩, apart⟩
  · exact isHighest_of_mem_built saved built
  · rw [none]
    rintro amount ⟨submission, gives, same, _⟩
    exact apart submission gives same

theorem holdsHighest_rewritten (saved : store.HasSavedPoints) : HoldsHighest (store.GivesPoints settings)
    (store.rows (.derived .points)) (Derived.points.rewritten settings store) :=
  have named (row : ProblemPoint) : Schema.key row = .text row.problem := rfl
  holdsHighest_of_present (Ascending.nodup_names named keyed.points)
    (Ascending.nodup_names named (Derived.rewritten_ascending settings keyed.points))
    (fun _ => exists_rewritten_iff keyed) fun _ => isHighest_of_mem_rewritten keyed saved

theorem filter_rewritten : (Derived.points.rewritten settings store).filter (·.point.isSome) =
    (Derived.points.rebuild settings store).filter (·.point.isSome) := by
  apply Ascending.eq_of_mem_iff ((Derived.rewritten_ascending settings keyed.points).filter _)
    ((Derived.rebuild_ascending settings store .points).filter _)
  intro row
  rw [List.mem_filter, List.mem_filter]
  exact and_congr_left fun some => Derived.mem_rewritten_points_of_isSome settings keyed.points some

theorem rewritten_points_again :
    Derived.points.rewritten settings (store.rewrite settings .points) = Derived.points.rewritten settings store := by
  have built : Derived.points.rebuild settings (store.rewrite settings .points) = Derived.points.rebuild settings store := by
    change Derived.points.rebuild settings (store.rewriteAll settings [.points]) = _
    exact rebuild_rewriteAll (by simp [Derived.reads])
  have held : (store.rewrite settings .points).rows (.derived .points) = Derived.points.rewritten settings store := by
    rw [rows, rewrite, get_set_self]
    rfl
  rw [Derived.rewritten, built, held]
  exact Ascending.putAll_again (Derived.rebuild_ascending settings store .points) keyed.points _

theorem rewrite_points_again : (store.rewrite settings .points).rewrite settings .points = store.rewrite settings .points := by
  refine eq_of_get_eq (fun table => ?_) (denials_set _ _ _)
  by_cases same : table = .derived .points
  · subst same
    rw [rewrite, get_set_self, rewritten_points_again keyed, rewrite, get_set_self]
  · exact get_set_of_ne _ same _

/-- A second replacement changes nothing, whether it succeeds or fails. -/
theorem state_run_points_again (finished : (Operation.problemPoints.run settings store).result.isOk) :
    (Operation.problemPoints.run settings (Operation.problemPoints.run settings store).state).state =
      (Operation.problemPoints.run settings store).state := by
  cases again : (Operation.problemPoints.run settings (Operation.problemPoints.run settings store).state).result.isOk with
  | false => exact (run_clean (by decide) again).1
  | true =>
    rw [run_state again, run_state finished]
    exact rewrite_points_again keyed

end Keyed

/-- The problems that have a submission that gives points. -/
def rated (settings : Settings) (store : Store) : Finset String :=
  (((store.solved settings).filter (isRated settings (store.rows .contests))).map (·.problem)).toFinset

theorem mem_rated_problems_iff {problem : String} : problem ∈ store.rated settings ↔
    ∃ submission, store.GivesPoints settings submission ∧ submission.problem = problem := by
  simp only [rated, List.mem_toFinset, List.mem_map, mem_rated_iff]

theorem count_run_points {count : Nat} (finished : (Operation.problemPoints.run settings store).result = .ok count) :
    count = (store.rated settings).card := by
  have rows : (Derived.points.rebuild settings store).length = (store.rated settings).card := by
    rw [rated, ← Ascending.length_distinct, ← map_problem_mostPoints, List.length_map]
    rfl
  rw [run_count finished, ← rows]
  rfl

theorem rated_congr (submissions : other.rows .submissions = store.rows .submissions)
    (contests : other.rows .contests = store.rows .contests) : other.rated settings = store.rated settings := by
  rw [rated, rated, solved_congr submissions, contests]

/-- When the points were replaced, every problem with a qualifying submission has the highest of their points, and every other
one with a row has none and had none before. -/
theorem problemPoints_hold_highest (keyed : store.Keyed) (saved : store.HasSavedPoints) {count : Nat}
    (finished : (Operation.problemPoints.run settings store).result = .ok count) :
    let outcome := Operation.problemPoints.run settings store
    (∃ rows, outcome.state.points = some rows ∧
      HoldsHighest (store.GivesPoints settings) (store.rows (.derived .points)) rows ∧ count ≤ rows.length) ∧
    (∃ problems : Finset String, (∀ problem, problem ∈ problems ↔
        ∃ submission, store.GivesPoints settings submission ∧ submission.problem = problem) ∧ count = problems.card) ∧
    (∀ other : Store, other.Keyed → other.rows .submissions = store.rows .submissions →
      other.rows .contests = store.rows .contests → (Operation.problemPoints.run settings other).result.isOk →
      ((Operation.problemPoints.run settings other).state.rows (.derived .points)).filter (·.point.isSome) =
        (outcome.state.rows (.derived .points)).filter (·.point.isSome)) ∧
    (Operation.problemPoints.run settings outcome.state).state = outcome.state ∧
    ∀ again, (Operation.problemPoints.run settings outcome.state).result = .ok again → again = count := by
  intro outcome
  have succeeded : outcome.result.isOk := by
    rw [finished]
    rfl
  have held : outcome.state.get (.derived .points) = some (Derived.points.rewritten settings store) := get_run succeeded rfl
  have highest : HoldsHighest (store.GivesPoints settings) (store.rows (.derived .points))
    (Derived.points.rewritten settings store) := holdsHighest_rewritten keyed saved
  have counted := count_run_points finished
  refine ⟨⟨_, held, highest, ?_⟩, ⟨_, fun _ => mem_rated_problems_iff, counted⟩, ?_, state_run_points_again keyed succeeded, ?_⟩
  · have covered : store.rated settings ⊆ ((Derived.points.rewritten settings store).map (·.problem)).toFinset := by
      intro problem member
      rw [List.mem_toFinset, List.mem_map]
      exact (highest.present problem).mpr (.inl (mem_rated_problems_iff.mp member))
    have limited := (Finset.card_le_card covered).trans (List.toFinset_card_le _)
    rwa [List.length_map, ← counted] at limited
  · intro other ordered submissions contests fine
    have built : Derived.points.rebuild settings other = Derived.points.rebuild settings store := by
      apply Derived.rebuild_congr
      simp [Derived.reads, submissions, contests]
    rw [rows, rows, get_run fine rfl, held, Option.getD_some, Option.getD_some, filter_rewritten ordered, filter_rewritten keyed,
      built]
  · intro again repeated
    have kept (table : Table) (source : ∀ target, table ≠ .derived target) : outcome.state.rows table = store.rows table := by
      rw [rows, rows, get_run_of_ne succeeded fun target _ => source target]
    rw [counted, count_run_points repeated, rated_congr (kept _ fun _ => Table.noConfusion) (kept _ fun _ => Table.noConfusion)]

/-- Of two rows without points one is filled, of two with points one goes, and an unrated contest gives nothing. -/
theorem points_hold_highest_of_mixed_rows :
    let store : Store :=
      { contests := some [⟨"abc1", 1500000000, 6000, "first", "All"⟩, ⟨"abc2", 1500000500, 6000, "second", "-"⟩]
        submissions := some [⟨1, 1500000100, "a", "abc1", "ann", "C++", some 100, 20, "AC", some 3⟩,
          ⟨2, 1500000200, "a", "abc1", "bob", "Rust", some 300, 10, "AC", none⟩,
          ⟨3, 1500000300, "a", "abc1", "bob", "Rust", some 900, 10, "WA", none⟩,
          ⟨4, 1500000900, "b", "abc2", "cid", "C", some 200, 10, "AC", none⟩,
          ⟨5, 1500000100, "c", "abc1", "ann", "C++", none, 20, "AC", none⟩]
        points := some [⟨"a", none⟩, ⟨"b", some 200⟩, ⟨"c", some 50⟩, ⟨"d", none⟩] }
    let outcome := Operation.problemPoints.run {} store
    store.Keyed ∧ store.HasSavedPoints ∧ outcome.result = .ok 2 ∧
    outcome.state.points = some [⟨"a", some 300⟩, ⟨"c", none⟩, ⟨"d", none⟩] ∧
    HoldsHighest (store.GivesPoints {}) (store.rows (.derived .points)) (outcome.state.rows (.derived .points)) ∧
    (Operation.problemPoints.run {} outcome.state).state = outcome.state := by
  intro store outcome
  have keyed : store.Keyed := by decide +kernel
  have saved : store.HasSavedPoints := by decide +kernel
  have finished : outcome.result = .ok 2 := by decide +kernel
  obtain ⟨⟨rows, held, highest, _⟩, _, _, again, _⟩ := problemPoints_hold_highest keyed saved finished
  have same : outcome.state.rows (.derived .points) = rows := congrArg (·.getD []) held
  exact ⟨keyed, saved, finished, by decide +kernel, same ▸ highest, again⟩

end Store

end JudgeStats
