import JudgeStats.Proofs.RefreshRuns
import Mathlib.Algebra.BigOperators.Group.List.Lemmas
import Mathlib.Algebra.BigOperators.Ring.Finset

/-! Three counts of the same solved submissions: problems by user, users by problem, and problems by user and simplified
language. The first two count the same pairs of a user and a problem, each from its own side. The third splits the problems
of a user into parts that may overlap, so no part has more problems than the user, and all parts together have no fewer. -/

namespace JudgeStats

namespace Statistic

section Tally
variable {ρ κ ν : Type} [Ord κ] [Std.TransOrd κ] [Std.LawfulEqOrd κ] [BEq κ] [LawfulBEq κ] [DecidableEq κ]
  [Ord ν] [Std.TransOrd ν] [Std.LawfulEqOrd ν] [DecidableEq ν]

/-- All counts of a tally together count the pairs of a key and a value. -/
theorem sum_tally (key : ρ → κ) (value : ρ → ν) (rows : List ρ) :
    ((tally key value rows).map Prod.snd).sum = (rows.map fun row => (key row, value row)).toFinset.card := by
  have fiber (k : κ) : (rows.map fun row => (key row, value row)).toFinset.filter (·.1 = k) =
      ((rows.filter (key · == k)).map value).toFinset.image (k, ·) := by
    ext ⟨other, found⟩
    simp only [Finset.mem_filter, Finset.mem_image, List.mem_toFinset, List.mem_map, List.mem_filter, beq_iff_eq,
      Prod.mk.injEq]
    constructor
    · rintro ⟨⟨row, inside, rfl, rfl⟩, rfl⟩
      exact ⟨_, ⟨row, ⟨inside, rfl⟩, rfl⟩, rfl, rfl⟩
    · rintro ⟨_, ⟨row, ⟨inside, rfl⟩, rfl⟩, rfl, rfl⟩
      exact ⟨⟨row, inside, rfl, rfl⟩, rfl⟩
  have counted (k : κ) : (Ascending.distinct ((rows.filter (key · == k)).map value)).length =
      ((rows.map fun row => (key row, value row)).toFinset.filter (·.1 = k)).card := by
    rw [fiber, Finset.card_image_of_injective _ (Prod.mk_right_injective k), Ascending.length_distinct]
  have keys : ∀ pair ∈ (rows.map fun row => (key row, value row)).toFinset,
      pair.1 ∈ (Ascending.distinct (rows.map key)).toFinset := by
    intro pair member
    obtain ⟨row, inside, rfl⟩ := List.mem_map.mp (List.mem_toFinset.mp member)
    exact List.mem_toFinset.mpr (Ascending.mem_distinct.mpr (List.mem_map_of_mem inside))
  rw [Finset.card_eq_sum_card_fiberwise keys, List.sum_toFinset _ (Ascending.distinct_ascending _).nodup, tally,
    List.map_map]
  exact congrArg List.sum (List.map_congr_left fun k _ => counted k)

/-- So do the counts of the rows that are made from a tally. -/
theorem sum_map_tally {β : Type} (key : ρ → κ) (value : ρ → ν) (rows : List ρ) (made : κ × Nat → β) (number : β → Int)
    (counted : ∀ pair, number (made pair) = pair.2) : (((tally key value rows).map made).map number).sum =
      (rows.map fun row => (key row, value row)).toFinset.card := by
  have numbers : ((tally key value rows).map made).map number = ((tally key value rows).map Prod.snd).map Nat.cast := by
    rw [List.map_map, List.map_map]
    exact List.map_congr_left fun pair _ => counted pair
  rw [numbers, ← Nat.cast_list_sum, sum_tally]

end Tally

/-- The users of some submissions, each with each of the user's problems. -/
def userProblems (submissions : List Submission) : Finset (String × String) :=
  (submissions.map fun submission => (submission.user, submission.problem)).toFinset

/-- Counts by user, by problem and by language that fit which users have solved which problems, and each other. -/
structure CountsAgree (solves : String → String → Prop) (byUser : List UserCount) (byProblem : List SolverCount)
    (byLanguage : List LanguageCount) : Prop where
  user : ∀ count, count ∈ byUser ↔ ∃ problems : Finset String, (∀ problem, problem ∈ problems ↔ solves count.user problem) ∧
    0 < problems.card ∧ count.problems = problems.card
  problem : ∀ count, count ∈ byProblem ↔ ∃ users : Finset String, (∀ user, user ∈ users ↔ solves user count.problem) ∧
    0 < users.card ∧ count.users = users.card
  userOnce : (byUser.map (·.user)).Nodup
  problemOnce : (byProblem.map (·.problem)).Nodup
  totals : ∃ pairs : Finset (String × String), (∀ user problem, (user, problem) ∈ pairs ↔ solves user problem) ∧
    (byUser.map (·.problems)).sum = pairs.card ∧ (byProblem.map (·.users)).sum = pairs.card
  sameUsers : ∀ user, (∃ count ∈ byUser, count.user = user) ↔ ∃ part ∈ byLanguage, part.user = user
  /-- No language has more problems than the user. -/
  part : ∀ count ∈ byUser, ∀ part ∈ byLanguage, part.user = count.user → part.problems ≤ count.problems
  /-- The languages together have all problems of the user. -/
  whole : ∀ count ∈ byUser,
    count.problems ≤ ((byLanguage.filter (·.user == count.user)).map (·.problems)).sum

/-- The values of the rows with a key are the only set of what these rows have, and there are none just where no row has the
key. -/
theorem exists_values_iff {ρ κ ν : Type} [BEq κ] [LawfulBEq κ] [DecidableEq ν] {key : ρ → κ} {value : ρ → ν} {rows : List ρ}
    {sought : κ} {has : ν → Prop} (given : ∀ found, has found ↔ ∃ row ∈ rows, key row = sought ∧ value row = found)
    (number : Int) : (∃ values : Finset ν, (∀ found, found ∈ values ↔ has found) ∧ 0 < values.card ∧ number = values.card) ↔
      (∃ row ∈ rows, key row = sought) ∧ number = numberOf key value rows sought := by
  constructor
  · intro ⟨values, same, positive, counted⟩
    have all : values = valuesOf key value rows sought := by
      ext found
      rw [same, given, mem_valuesOf_iff]
    rw [all] at positive counted
    exact ⟨numberOf_pos_iff.mp positive, counted⟩
  · intro ⟨present, counted⟩
    have same (found : ν) : found ∈ valuesOf key value rows sought ↔ has found := by rw [mem_valuesOf_iff, given]
    exact ⟨_, same, numberOf_pos_iff.mpr present, counted⟩

section Counts
variable (submissions : List Submission) (user : String)

theorem mem_userProblems_iff {problem : String} : (user, problem) ∈ userProblems submissions ↔
    ∃ submission ∈ submissions, submission.user = user ∧ submission.problem = problem := by
  simp only [userProblems, List.mem_toFinset, List.mem_map, Prod.mk.injEq]

theorem sum_problemsByUser :
    ((problemsByUser submissions).map (·.problems)).sum = (userProblems submissions).card :=
  sum_map_tally _ _ _ _ _ fun _ => rfl

/-- Seen from the problems, the pairs are the same, the other way round. -/
theorem sum_usersByProblem :
    ((usersByProblem submissions).map (·.users)).sum = (userProblems submissions).card := by
  have swapped : (submissions.map fun submission => (submission.problem, submission.user)).toFinset =
      (userProblems submissions).image Prod.swap := by
    ext ⟨problem, user⟩
    simp only [userProblems, List.mem_toFinset, List.mem_map, Finset.mem_image, Prod.mk.injEq, exists_exists_and_eq_and,
      Prod.swap_prod_mk]
  rw [← Finset.card_image_of_injective _ Prod.swap_injective, ← swapped]
  exact sum_map_tally _ _ _ _ _ fun _ => rfl

/-- The rows of one user in the counts by language. -/
theorem filter_problemsByLanguage : (problemsByLanguage submissions).filter (·.user == user) =
    (tally (simplifyLanguage ·.language) (·.problem) (submissions.filter (·.user == user))).map
      fun (language, count) => ⟨user, language, count⟩ := by
  apply Ascending.eq_of_mem_iff ((problemsByLanguage_ascending submissions).filter _) (languageCounts_ascending user _)
  intro row
  rw [List.mem_filter, mem_problemsByLanguage_iff_tally, List.mem_map, beq_iff_eq]
  constructor
  · rintro ⟨⟨number, same, member⟩, rfl⟩
    exact ⟨(row.language, number), member, by simp only [← same]⟩
  · rintro ⟨⟨language, number⟩, member, rfl⟩
    exact ⟨⟨number, rfl, member⟩, rfl⟩

/-- The languages of a user may share problems, so their counts together may exceed the number of problems. -/
theorem numberOf_le_sum : (numberOf (·.user) (·.problem) submissions user : Int) ≤
    (((problemsByLanguage submissions).filter (·.user == user)).map (·.problems)).sum := by
  let own := submissions.filter (·.user == user)
  have projected : valuesOf (·.user) (·.problem) submissions user =
      (own.map fun submission => (simplifyLanguage submission.language, submission.problem)).toFinset.image Prod.snd := by
    ext problem
    simp only [valuesOf, own, List.mem_toFinset, List.mem_map, Finset.mem_image, exists_exists_and_eq_and]
  have total : (((problemsByLanguage submissions).filter (·.user == user)).map (·.problems)).sum =
      (own.map fun submission => (simplifyLanguage submission.language, submission.problem)).toFinset.card := by
    rw [filter_problemsByLanguage]
    exact sum_map_tally _ _ _ _ _ fun _ => rfl
  rw [total, numberOf, projected, Int.ofNat_le]
  exact Finset.card_image_le

theorem problems_le_numberOf {part : LanguageCount} (member : part ∈ problemsByLanguage submissions) :
    part.problems ≤ numberOf (·.user) (·.problem) submissions part.user := by
  rw [(mem_problemsByLanguage_iff.mp member).2, Int.ofNat_le]
  apply Finset.card_le_card
  intro problem found
  obtain ⟨submission, inside, same, on⟩ := mem_valuesOf_iff.mp found
  exact mem_valuesOf_iff.mpr ⟨submission, inside, congrArg Prod.fst same, on⟩

theorem exists_language_iff : (∃ part ∈ problemsByLanguage submissions, part.user = user) ↔
    ∃ submission ∈ submissions, submission.user = user := by
  constructor
  · rintro ⟨part, member, rfl⟩
    obtain ⟨submission, inside, same⟩ := exists_languageCount_iff.mp ⟨part, member, rfl, rfl⟩
    exact ⟨submission, inside, congrArg Prod.fst same⟩
  · rintro ⟨submission, inside, rfl⟩
    obtain ⟨part, member, owner, _⟩ := exists_languageCount_iff.mpr ⟨submission, inside, rfl⟩
    exact ⟨part, member, owner⟩

/-- Counts of the same submissions agree, whatever submissions these are. -/
theorem countsAgree {solves : String → String → Prop}
    (given : ∀ user problem, solves user problem ↔
      ∃ submission ∈ submissions, submission.user = user ∧ submission.problem = problem) :
    CountsAgree solves (problemsByUser submissions) (usersByProblem submissions) (problemsByLanguage submissions) where
  user count := by
    rw [exists_values_iff (given count.user)]
    exact mem_problemsByUser_iff
  problem count := by
    have swapped (user : String) : solves user count.problem ↔
        ∃ submission ∈ submissions, submission.problem = count.problem ∧ submission.user = user := by
      rw [given]
      exact exists_congr fun submission => and_congr_right fun _ => and_comm
    rw [exists_values_iff swapped]
    exact mem_usersByProblem_iff
  userOnce := problemsByUser_users_nodup submissions
  problemOnce := usersByProblem_problems_nodup submissions
  totals := by
    refine ⟨userProblems submissions, ?_, sum_problemsByUser submissions, sum_usersByProblem submissions⟩
    intro user problem
    rw [mem_userProblems_iff, given]
  sameUsers user := exists_userCount_iff.trans (exists_language_iff submissions user).symm
  part count member part inside same := by
    rw [(mem_problemsByUser_iff.mp member).2, ← same]
    exact problems_le_numberOf submissions inside
  whole count member := by
    rw [(mem_problemsByUser_iff.mp member).2]
    exact numberOf_le_sum submissions count.user

end Counts

end Statistic

namespace Store
variable {settings : Settings} {first second third : Store}

/-- The three operations may be done at different times and in any order, as long as the submissions are the same. -/
theorem counts_agree (same : second.rows .submissions = first.rows .submissions)
    (still : third.rows .submissions = first.rows .submissions)
    (byUser : (Operation.acceptedCount.run settings first).result.isOk)
    (byProblem : (Operation.solverCount.run settings second).result.isOk)
    (byLanguage : (Operation.languageCount.run settings third).result.isOk) :
    ∃ userCounts solverCounts languageCounts,
      (Operation.acceptedCount.run settings first).state.acceptedCount = some userCounts ∧
      (Operation.solverCount.run settings second).state.solver = some solverCounts ∧
      (Operation.languageCount.run settings third).state.languageCount = some languageCounts ∧
      Statistic.CountsAgree (first.Solves settings) userCounts solverCounts languageCounts := by
  have users : (Operation.acceptedCount.run settings first).state.get (.derived .acceptedCount) =
      some (Statistic.problemsByUser (first.solved settings)) :=
    get_run_of_whole byUser rfl (by decide)
  have problems : (Operation.solverCount.run settings second).state.get (.derived .solver) =
      some (Statistic.usersByProblem (first.solved settings)) := by
    rw [← solved_congr same]
    exact get_run_of_whole byProblem rfl (by decide)
  have languages : (Operation.languageCount.run settings third).state.get (.derived .languageCount) =
      some (Statistic.problemsByLanguage (first.solved settings)) := by
    rw [← solved_congr still]
    exact get_run_of_whole byLanguage rfl (by decide)
  exact ⟨_, _, _, users, problems, languages, Statistic.countsAgree (first.solved settings) fun _ _ => solves_iff⟩

/-- One user has solved a problem in two languages, and another one the same problem after a wrong answer. A third one has
only a wrong answer, on a problem that nobody has solved. -/
theorem counts_agree_in_a_row :
    let store : Store :=
      { submissions := some [⟨1, 1500000100, "a", "abc1", "ann", "C++17 (GCC)", none, 20, "AC", none⟩,
          ⟨2, 1500000200, "a", "abc1", "ann", "Rust", none, 10, "AC", none⟩,
          ⟨3, 1500000300, "b", "abc1", "ann", "C++ (Clang)", none, 30, "AC", none⟩,
          ⟨4, 1500000400, "a", "abc1", "bob", "Rust", none, 30, "WA", none⟩,
          ⟨5, 1500000500, "a", "abc1", "bob", "Rust", none, 30, "AC", none⟩,
          ⟨6, 1500000600, "c", "abc1", "eve", "Rust", none, 30, "WA", none⟩] }
    let second := Operation.acceptedCount.run {} store
    let third := Operation.solverCount.run {} second.state
    let last := Operation.languageCount.run {} third.state
    second.result.isOk ∧ third.result.isOk ∧ last.result.isOk ∧
    last.state.acceptedCount = some [⟨"ann", 2⟩, ⟨"bob", 1⟩] ∧ last.state.solver = some [⟨"a", 2⟩, ⟨"b", 1⟩] ∧
    last.state.languageCount = some [⟨"ann", "C++", 2⟩, ⟨"ann", "Rust", 1⟩, ⟨"bob", "Rust", 1⟩] ∧
    ∃ userCounts solverCounts languageCounts, last.state.acceptedCount = some userCounts ∧
      last.state.solver = some solverCounts ∧ last.state.languageCount = some languageCounts ∧
      Statistic.CountsAgree (store.Solves {}) userCounts solverCounts languageCounts := by
  intro store second third last
  have users : second.result.isOk := by decide +kernel
  have problems : third.result.isOk := by decide +kernel
  have languages : last.result.isOk := by decide +kernel
  refine ⟨users, problems, languages, by decide +kernel, by decide +kernel, by decide +kernel, ?_⟩
  have same : second.state.rows .submissions = store.rows .submissions := by decide +kernel
  have still : third.state.rows .submissions = store.rows .submissions := by decide +kernel
  obtain ⟨userCounts, solverCounts, languageCounts, first, middle, final, agree⟩ :=
    counts_agree same still users problems languages
  have kept : last.state.acceptedCount = second.state.acceptedCount := by decide +kernel
  have left : last.state.solver = third.state.solver := by decide +kernel
  exact ⟨userCounts, solverCounts, languageCounts, kept.trans first, left.trans middle, final, agree⟩

end Store

end JudgeStats
