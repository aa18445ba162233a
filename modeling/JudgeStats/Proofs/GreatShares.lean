import JudgeStats.Proofs.SourceRows
import Mathlib.Algebra.BigOperators.Group.List.Lemmas
import Mathlib.Algebra.BigOperators.Ring.Finset

/-! The counts of best submissions share out the tables of best submissions among the users. Every row of such a table names
one submission, that of its own problem, so it belongs to one user, and a user's count of problems is the number of rows
that belong to the user. No row is lost and none counts twice. -/

namespace JudgeStats

namespace Statistic

/-- Whether a row of a table of best submissions names a submission of a user. -/
def belongsTo (submissions : List Submission) (user : String) (best : GreatSubmission) : Bool :=
  submissions.any fun submission => submission.id == best.submission && submission.user == user

/-- Counts that share out the rows of a table of best submissions among users. -/
structure Shares (submissions : List Submission) (great : List GreatSubmission) (counts : List UserCount) : Prop where
  present : ∀ user, (∃ count ∈ counts, count.user = user) ↔ ∃ best ∈ great, belongsTo submissions user best
  counted : ∀ count ∈ counts, count.problems = great.countP (belongsTo submissions count.user)
  single : (counts.map (·.user)).Nodup
  whole : (counts.map (·.problems)).sum = great.length

theorem map_problem_bestByProblem (measure : Measure) (submissions : List Submission) :
    (bestByProblem measure submissions).map (·.problem) = Ascending.distinct (submissions.map (·.problem)) := by
  have some : ∀ problem ∈ Ascending.distinct (submissions.map (·.problem)),
      ((best? measure.better (submissions.filter (·.problem == problem))).map fun winner =>
        (⟨problem, winner.id, winner.contest⟩ : GreatSubmission)).map (·.problem) = .some problem := by
    intro problem member
    obtain ⟨submission, inside, same⟩ := List.mem_map.mp (Ascending.mem_distinct.mp member)
    cases found : best? measure.better (submissions.filter (·.problem == problem)) with
    | none =>
      have empty := best?_eq_none_iff.mp found
      have among : submission ∈ submissions.filter (·.problem == problem) :=
        List.mem_filter.mpr ⟨inside, beq_iff_eq.mpr same⟩
      rw [empty] at among
      cases among
    | some winner => rfl
  rw [bestByProblem, List.map_filterMap, List.filterMap_congr some]
  exact List.filterMap_some

/-- Where each row belongs to one user, the numbers of rows of all users together are the number of rows. -/
private theorem sum_countP_eq_length {ι : Type} {rows : List ι} {users : List String} {has : String → ι → Bool}
    (owned : ∀ row ∈ rows, ∃ owner, ∀ user, has user row ↔ owner = user) (single : users.Nodup)
    (present : ∀ user, user ∈ users ↔ ∃ row ∈ rows, has user row) :
    (users.map fun user => rows.countP (has user)).sum = rows.length := by
  choose! owner alone using owned
  have counted (user : String) : rows.countP (has user) = (rows.map owner).count user := by
    rw [List.count_eq_countP, List.countP_map]
    apply List.countP_congr
    intro row member
    exact (alone row member user).trans beq_iff_eq.symm
  -- The users are the owners of the rows, each of them once.
  have order : users.Perm (rows.map owner).dedup := by
    apply (List.perm_ext_iff_of_nodup single (List.nodup_dedup _)).mpr
    intro user
    rw [present, List.mem_dedup, List.mem_map]
    exact exists_congr fun row => and_congr_right fun member => alone row member user
  simp only [counted]
  rw [(order.map _).sum_eq, List.sum_map_count_dedup_eq_length, List.length_map]

section Rows
variable {submissions competing : List Submission} {measure : Measure}
  (unique : ∀ a ∈ submissions, ∀ b ∈ submissions, a.id = b.id → a = b) (part : ∀ submission ∈ competing, submission ∈ submissions)
include unique part

/-- A submission is named by a row of the best ones exactly if that row is its own. -/
theorem mem_named_bestByProblem_iff {submission : Submission} :
    submission ∈ named (bestByProblem measure competing) submissions ↔ submission ∈ submissions ∧
      ⟨submission.problem, submission.id, submission.contest⟩ ∈ bestByProblem measure competing := by
  rw [named, List.mem_filter]
  apply and_congr_right
  intro inside
  rw [List.any_eq_true]
  constructor
  · rintro ⟨best, member, same⟩
    obtain ⟨winner, among, _, rfl⟩ := mem_bestByProblem_iff.mp member
    rw [← unique winner (part winner among) submission inside (beq_iff_eq.mp same)]
    exact member
  · intro member
    exact ⟨_, member, beq_self_eq_true _⟩

theorem belongsTo_iff {user : String} {best : GreatSubmission} (member : best ∈ bestByProblem measure competing) :
    belongsTo submissions user best ↔ ∃ submission ∈ named (bestByProblem measure competing) submissions,
      submission.user = user ∧ best = ⟨submission.problem, submission.id, submission.contest⟩ := by
  rw [belongsTo, List.any_eq_true]
  constructor
  · rintro ⟨submission, inside, same⟩
    obtain ⟨number, owner⟩ := Bool.and_eq_true_iff.mp same
    obtain ⟨winner, among, _, rfl⟩ := mem_bestByProblem_iff.mp member
    obtain rfl := unique submission inside winner (part winner among) (beq_iff_eq.mp number)
    exact ⟨submission, (mem_named_bestByProblem_iff unique part).mpr ⟨inside, member⟩, beq_iff_eq.mp owner, rfl⟩
  · rintro ⟨submission, inside, rfl, rfl⟩
    exact ⟨submission, List.mem_of_mem_filter inside, by simp⟩

/-- A user has as many problems among the named submissions as rows belong to the user. -/
theorem numberOf_eq_countP (user : String) :
    numberOf (·.user) (·.problem) (named (bestByProblem measure competing) submissions) user =
      (bestByProblem measure competing).countP (belongsTo submissions user) := by
  have same : valuesOf (·.user) (·.problem) (named (bestByProblem measure competing) submissions) user =
      (((bestByProblem measure competing).filter (belongsTo submissions user)).map (·.problem)).toFinset := by
    ext problem
    rw [mem_valuesOf_iff, List.mem_toFinset, List.mem_map]
    constructor
    · rintro ⟨submission, inside, owner, rfl⟩
      have member := ((mem_named_bestByProblem_iff unique part).mp inside).2
      have belongs := (belongsTo_iff unique part member).mpr ⟨submission, inside, owner, rfl⟩
      exact ⟨_, List.mem_filter.mpr ⟨member, belongs⟩, rfl⟩
    · rintro ⟨best, among, rfl⟩
      obtain ⟨member, belongs⟩ := List.mem_filter.mp among
      obtain ⟨submission, inside, owner, rfl⟩ := (belongsTo_iff unique part member).mp belongs
      exact ⟨submission, inside, owner, rfl⟩
  have single : (((bestByProblem measure competing).filter (belongsTo submissions user)).map (·.problem)).Nodup := by
    apply List.Nodup.sublist (List.filter_sublist.map _)
    rw [map_problem_bestByProblem]
    exact (Ascending.distinct_ascending _).nodup
  rw [numberOf, same, List.toFinset_card_of_nodup single, List.length_map, List.countP_eq_length_filter]

theorem shares_problemsByUser (measure : Measure) : Shares submissions (bestByProblem measure competing)
    (problemsByUser (named (bestByProblem measure competing) submissions)) := by
  have present (user : String) : (∃ count ∈ problemsByUser (named (bestByProblem measure competing) submissions),
      count.user = user) ↔ ∃ best ∈ bestByProblem measure competing, belongsTo submissions user best := by
    rw [exists_userCount_iff]
    constructor
    · intro ⟨submission, inside, owner⟩
      have row := ((mem_named_bestByProblem_iff unique part).mp inside).2
      exact ⟨_, row, (belongsTo_iff unique part row).mpr ⟨submission, inside, owner, rfl⟩⟩
    · intro ⟨best, member, belongs⟩
      obtain ⟨submission, inside, owner, _⟩ := (belongsTo_iff unique part member).mp belongs
      exact ⟨submission, inside, owner⟩
  have counted : ∀ count ∈ problemsByUser (named (bestByProblem measure competing) submissions),
      count.problems = (bestByProblem measure competing).countP (belongsTo submissions count.user) := by
    intro count member
    rw [(mem_problemsByUser_iff.mp member).2, numberOf_eq_countP unique part]
  have single := problemsByUser_users_nodup (named (bestByProblem measure competing) submissions)
  refine ⟨present, counted, single, ?_⟩
  have owned : ∀ best ∈ bestByProblem measure competing, ∃ owner, ∀ user,
      belongsTo submissions user best ↔ owner = user := by
    intro best member
    obtain ⟨winner, among, _, rfl⟩ := mem_bestByProblem_iff.mp member
    refine ⟨winner.user, fun user => (belongsTo_iff unique part member).trans ⟨?_, fun same => ?_⟩⟩
    · rintro ⟨submission, inside, owner, same⟩
      have equal := unique winner (part winner among) submission (List.mem_of_mem_filter inside)
        (GreatSubmission.mk.inj same).2.1
      rw [equal, owner]
    · exact ⟨winner, (mem_named_bestByProblem_iff unique part).mpr ⟨part winner among, member⟩, same, rfl⟩
  have shared := sum_countP_eq_length owned single fun user => List.mem_map.trans (present user)
  rw [← shared, List.map_congr_left counted, Nat.cast_list_sum, List.map_map, List.map_map]
  rfl

end Rows

end Statistic

namespace Store
variable {settings : Settings} {store : Store}

section Bound
variable (keyed : store.Keyed) (measure : Measure)
include keyed

/-- A user has solved all problems on which the user has a best submission. -/
theorem valuesOf_named_subset (user : String) : Statistic.valuesOf (·.user) (·.problem)
      (Statistic.named ((Derived.great measure).rebuild settings store) (store.rows .submissions)) user ⊆
    Statistic.valuesOf (·.user) (·.problem) (store.solved settings) user := by
  intro problem found
  obtain ⟨submission, named, owner, on⟩ := Statistic.mem_valuesOf_iff.mp found
  have solved : submission ∈ store.solved settings := List.mem_of_mem_filter ((mem_named_iff keyed).mp named)
  exact Statistic.mem_valuesOf_iff.mpr ⟨submission, solved, owner, on⟩

theorem exists_solved_of_count : ∀ count ∈ Statistic.problemsByUser
      (Statistic.named ((Derived.great measure).rebuild settings store) (store.rows .submissions)),
    ∃ problems : Finset String, (∀ problem, problem ∈ problems ↔ store.Solves settings count.user problem) ∧
      count.problems ≤ problems.card := by
  intro count member
  refine ⟨Statistic.valuesOf (·.user) (·.problem) (store.solved settings) count.user, fun problem => ?_, ?_⟩
  · rw [Statistic.mem_valuesOf_iff, solves_iff]
  · rw [(Statistic.mem_problemsByUser_iff.mp member).2, Int.ofNat_le]
    exact Finset.card_le_card (valuesOf_named_subset keyed measure count.user)

/-- A user has at most as many problems among the best submissions as among all solved ones. -/
theorem problems_le_solved : ∀ count ∈ Statistic.problemsByUser
      (Statistic.named ((Derived.great measure).rebuild settings store) (store.rows .submissions)),
    ∃ solved ∈ Statistic.problemsByUser (store.solved settings), solved.user = count.user ∧
      count.problems ≤ solved.problems := by
  intro count member
  obtain ⟨⟨submission, named, owner⟩, counted⟩ := Statistic.mem_problemsByUser_iff.mp member
  have among : submission ∈ store.solved settings := List.mem_of_mem_filter ((mem_named_iff keyed).mp named)
  obtain ⟨solved, present, user⟩ := Statistic.exists_userCount_iff.mpr ⟨submission, among, owner⟩
  refine ⟨solved, present, user, ?_⟩
  rw [counted, (Statistic.mem_problemsByUser_iff.mp present).2, user, Int.ofNat_le]
  exact Finset.card_le_card (valuesOf_named_subset keyed measure count.user)

end Bound

section Run
variable (built : (Operation.greatSubmissions.run settings store).result.isOk)
include built

theorem get_great (measure : Measure) : (Operation.greatSubmissions.run settings store).state.get
    (.derived (.great measure)) = some ((Derived.great measure).rebuild settings store) :=
  get_run_of_whole built rfl (by simp)

variable (counted : (Operation.greatCounts.run settings (Operation.greatSubmissions.run settings store).state).result.isOk)
include counted

theorem get_greatCounts (measure : Measure) :
    let final := (Operation.greatCounts.run settings (Operation.greatSubmissions.run settings store).state).state
    final.get (.derived (.great measure)) = some ((Derived.great measure).rebuild settings store) ∧
    final.get (.derived (.greatCount measure)) = some (Statistic.problemsByUser
      (Statistic.named ((Derived.great measure).rebuild settings store) (store.rows .submissions))) := by
  intro final
  have left : final.get (.derived (.great measure)) =
      (Operation.greatSubmissions.run settings store).state.get (.derived (.great measure)) :=
    get_run_of_ne counted fun target own same => by cases same; cases own
  have great : (Operation.greatSubmissions.run settings store).state.rows (.derived (.great measure)) =
      (Derived.great measure).rebuild settings store := by
    rw [rows, get_great built measure]
    rfl
  have submissions : (Operation.greatSubmissions.run settings store).state.rows .submissions = store.rows .submissions := by
    rw [rows, rows, get_run_of_ne built fun _ _ => Table.noConfusion]
  constructor
  · rw [left, get_great built measure]
  · have rebuilt (middle : Store) : (Derived.greatCount measure).rebuild settings middle = Statistic.problemsByUser
        (Statistic.named (middle.rows (.derived (.great measure))) (middle.rows .submissions)) := rfl
    rw [get_run_of_whole counted rfl (by simp), rebuilt, great, submissions]

theorem rows_greatCounts (measure : Measure) :
    (Operation.greatCounts.run settings (Operation.greatSubmissions.run settings store).state).state.rows
        (.derived (.greatCount measure)) = Statistic.problemsByUser
      (Statistic.named ((Derived.great measure).rebuild settings store) (store.rows .submissions)) := by
  rw [rows, (get_greatCounts built counted measure).2]
  rfl

end Run

/-- Each measure has a best submission of every problem that one of them has, so the tables are equally long. -/
theorem length_rebuild_great (settings : Settings) (store : Store) (measure other : Measure) :
    ((Derived.great measure).rebuild settings store).length = ((Derived.great other).rebuild settings store).length := by
  rw [Derived.rebuild, Derived.rebuild, ← List.length_map (·.problem), Statistic.map_problem_bestByProblem,
    ← Statistic.map_problem_bestByProblem other, List.length_map]

/-- After the best submissions and then their counts were replaced, the counts share out each table of best submissions.
All three tables have as many rows. No user has more problems in a count than there are solved ones, and not more than the
count of solved problems says when that is replaced for the same submissions. -/
theorem greatCounts_share (keyed : store.Keyed) (built : (Operation.greatSubmissions.run settings store).result.isOk)
    (counted : (Operation.greatCounts.run settings (Operation.greatSubmissions.run settings store).state).result.isOk) :
    let final := (Operation.greatCounts.run settings (Operation.greatSubmissions.run settings store).state).state
    (∀ measure, ∃ great counts, final.get (.derived (.great measure)) = some great ∧
      final.get (.derived (.greatCount measure)) = some counts ∧ Statistic.Shares (store.rows .submissions) great counts ∧
      ∀ count ∈ counts, ∃ problems : Finset String,
        (∀ problem, problem ∈ problems ↔ store.Solves settings count.user problem) ∧ count.problems ≤ problems.card) ∧
    (∀ measure other, ((final.rows (.derived (.greatCount measure))).map (·.problems)).sum =
      ((final.rows (.derived (.greatCount other))).map (·.problems)).sum) ∧
    ∀ start : Store, start.rows .submissions = store.rows .submissions →
      (Operation.acceptedCount.run settings start).result.isOk →
      ∃ accepted, (Operation.acceptedCount.run settings start).state.acceptedCount = some accepted ∧
        ∀ measure, ∀ count ∈ final.rows (.derived (.greatCount measure)), ∃ solved ∈ accepted,
          solved.user = count.user ∧ count.problems ≤ solved.problems := by
  intro final
  have held := get_greatCounts built counted
  have part : ∀ submission ∈ (store.solved settings).filter (Statistic.startedBefore (store.rows .contests)),
      submission ∈ store.rows .submissions := fun submission member =>
    mem_of_mem_solved (List.mem_of_mem_filter member)
  have shares := Statistic.shares_problemsByUser (fun a member b inside => keyed.eq_of_id_eq member inside) part
  refine ⟨fun measure => ?_, fun measure other => ?_, ?_⟩
  · exact ⟨_, _, (held measure).1, (held measure).2, shares measure, exists_solved_of_count keyed measure⟩
  · rw [rows_greatCounts built counted, rows_greatCounts built counted]
    refine (shares measure).whole.trans (Eq.trans ?_ (shares other).whole.symm)
    exact congrArg Nat.cast (length_rebuild_great settings store measure other)
  · intro start same accepted
    have table : (Operation.acceptedCount.run settings start).state.get (.derived .acceptedCount) =
        some (Statistic.problemsByUser (store.solved settings)) := by
      rw [← solved_congr same]
      exact get_run_of_whole accepted rfl (by decide)
    refine ⟨_, table, fun measure count member => ?_⟩
    rw [rows_greatCounts built counted] at member
    exact problems_le_solved keyed measure count member

/-- Of two solved submissions on a problem one is the first and the other the shortest. A wrong answer that came before both
and is shorter has no part in it, and its user has no row. -/
theorem two_users_share :
    let store : Store :=
      { contests := some [⟨"abc1", 1500000000, 6000, "first", "All"⟩]
        submissions := some [⟨1, 1500000050, "a", "abc1", "eve", "C++", some 900, 5, "WA", some 1⟩,
          ⟨2, 1500000100, "a", "abc1", "ann", "C++", some 100, 20, "AC", some 3⟩,
          ⟨3, 1500000200, "a", "abc1", "bob", "Rust", some 300, 10, "AC", none⟩] }
    let middle := Operation.greatSubmissions.run {} store
    let final := Operation.greatCounts.run {} middle.state
    store.Keyed ∧ middle.result.isOk ∧ final.result.isOk ∧
    final.state.firstCount = some [⟨"ann", 1⟩] ∧ final.state.shortestCount = some [⟨"bob", 1⟩] ∧
    (∀ measure, ∃ great counts, final.state.get (.derived (.great measure)) = some great ∧
      final.state.get (.derived (.greatCount measure)) = some counts ∧ Statistic.Shares (store.rows .submissions) great counts ∧
      ∀ count ∈ counts, ∃ problems : Finset String,
        (∀ problem, problem ∈ problems ↔ store.Solves {} count.user problem) ∧ count.problems ≤ problems.card) ∧
    ∀ measure other, ((final.state.rows (.derived (.greatCount measure))).map (·.problems)).sum =
      ((final.state.rows (.derived (.greatCount other))).map (·.problems)).sum := by
  intro store middle final
  have built : middle.result.isOk := by decide +kernel
  have counted : final.result.isOk := by decide +kernel
  have keyed : store.Keyed := ⟨by decide, .nil⟩
  obtain ⟨shares, sums, _⟩ := greatCounts_share keyed built counted
  exact ⟨keyed, built, counted, by decide +kernel, by decide +kernel, shares, sums⟩

end Store

end JudgeStats
