import JudgeStats.Proofs.AscendingRows
import JudgeStats.Statistic.Tally

/-! A tally has one count for each key among the rows, and the count is the number of different values that the rows with
this key have. It is a function of the set of rows: neither their order nor a repetition shows in it. -/

namespace JudgeStats.Statistic

section Values
variable {ρ κ ν : Type} [BEq κ] [DecidableEq ν]

/-- The different values that the rows with a key have. -/
def valuesOf (key : ρ → κ) (value : ρ → ν) (rows : List ρ) (sought : κ) : Finset ν :=
  ((rows.filter (key · == sought)).map value).toFinset

/-- How many different values the rows with a key have. -/
def numberOf (key : ρ → κ) (value : ρ → ν) (rows : List ρ) (sought : κ) : Nat :=
  (valuesOf key value rows sought).card

variable [LawfulBEq κ] {key : ρ → κ} {value : ρ → ν} {rows : List ρ} {sought : κ}

theorem mem_valuesOf_iff {found : ν} :
    found ∈ valuesOf key value rows sought ↔ ∃ row ∈ rows, key row = sought ∧ value row = found := by
  simp only [valuesOf, List.mem_toFinset, List.mem_map, List.mem_filter, beq_iff_eq, and_assoc]

theorem numberOf_pos_iff : 0 < numberOf key value rows sought ↔ ∃ row ∈ rows, key row = sought := by
  rw [numberOf, Finset.card_pos]
  constructor
  · intro ⟨found, member⟩
    obtain ⟨row, inside, same, _⟩ := mem_valuesOf_iff.mp member
    exact ⟨row, inside, same⟩
  · intro ⟨row, inside, same⟩
    exact ⟨value row, mem_valuesOf_iff.mpr ⟨row, inside, same, rfl⟩⟩

end Values

variable {ρ κ ν : Type} [Ord κ] [BEq κ] [Ord ν] {key : ρ → κ} {value : ρ → ν}

section Order
variable [Std.TransOrd κ]

theorem tally_ascending (key : ρ → κ) (value : ρ → ν) (rows : List ρ) : Ascending Prod.fst (tally key value rows) :=
  (Ascending.distinct_ascending _).map _ fun _ _ less => less

theorem problemsByUser_ascending (submissions : List Submission) :
    Ascending Schema.key (problemsByUser submissions) :=
  (tally_ascending _ _ submissions).map _ fun _ _ less => less

theorem usersByProblem_ascending (submissions : List Submission) :
    Ascending Schema.key (usersByProblem submissions) :=
  (tally_ascending _ _ submissions).map _ fun _ _ less => less

theorem languageCounts_ascending (user : String) (submissions : List Submission) :
    Ascending Schema.key ((tally (simplifyLanguage ·.language) (·.problem) submissions).map
      fun (language, count) => (⟨user, language, count⟩ : LanguageCount)) := by
  apply (tally_ascending _ _ submissions).map
  intro first later less
  change (compare user user).then _ = .lt
  rw [Std.ReflOrd.compare_self]
  exact less

theorem problemsByLanguage_ascending (submissions : List Submission) :
    Ascending Schema.key (problemsByLanguage submissions) := by
  apply List.pairwise_flatMap.mpr
  constructor
  · intro user _
    exact languageCounts_ascending user _
  · apply List.Pairwise.imp _ (Ascending.distinct_ascending (submissions.map (·.user)))
    intro user other less row member later inside
    obtain ⟨_, _, rfl⟩ := List.mem_map.mp member
    obtain ⟨_, _, rfl⟩ := List.mem_map.mp inside
    change (compare user other).then _ = .lt
    change compare user other = .lt at less
    rw [less]
    rfl

end Order

section Members
variable [Std.TransOrd κ] [Std.LawfulEqOrd κ] [Std.TransOrd ν] [Std.LawfulEqOrd ν]

theorem mem_tally_iff [LawfulBEq κ] [DecidableEq ν] {rows : List ρ} {k : κ} {count : Nat} :
    (k, count) ∈ tally key value rows ↔ (∃ row ∈ rows, key row = k) ∧ count = numberOf key value rows k := by
  rw [tally, List.mem_map]
  constructor
  · rintro ⟨other, inside, same⟩
    cases same
    exact ⟨List.mem_map.mp (Ascending.mem_distinct.mp inside), Ascending.length_distinct _⟩
  · rintro ⟨present, rfl⟩
    refine ⟨k, Ascending.mem_distinct.mpr (List.mem_map.mpr present), ?_⟩
    rw [Ascending.length_distinct, numberOf, valuesOf]

theorem pos_of_mem_tally [LawfulBEq κ] {rows : List ρ} {k : κ} {count : Nat} (member : (k, count) ∈ tally key value rows) :
    0 < count := by
  classical
  obtain ⟨present, rfl⟩ := mem_tally_iff.mp member
  exact numberOf_pos_iff.mpr present

theorem tally_congr {rows others : List ρ} (same : ∀ row, row ∈ rows ↔ row ∈ others) :
    tally key value rows = tally key value others := by
  have counted (k : κ) : Ascending.distinct ((rows.filter (key · == k)).map value) =
      Ascending.distinct ((others.filter (key · == k)).map value) :=
    Ascending.distinct_map_congr (Ascending.mem_filter_congr same _) value
  simp only [tally, Ascending.distinct_map_congr same, counted]

end Members

theorem mem_problemsByUser_iff {submissions : List Submission} {count : UserCount} :
    count ∈ problemsByUser submissions ↔ (∃ submission ∈ submissions, submission.user = count.user) ∧
      count.problems = numberOf (·.user) (·.problem) submissions count.user := by
  simp only [problemsByUser, List.mem_map, Prod.exists, mem_tally_iff]
  constructor
  · rintro ⟨user, _, ⟨present, rfl⟩, rfl⟩
    exact ⟨present, rfl⟩
  · rintro ⟨present, counted⟩
    exact ⟨count.user, _, ⟨present, rfl⟩, by rw [← counted]⟩

theorem mem_usersByProblem_iff {submissions : List Submission} {count : SolverCount} :
    count ∈ usersByProblem submissions ↔ (∃ submission ∈ submissions, submission.problem = count.problem) ∧
      count.users = numberOf (·.problem) (·.user) submissions count.problem := by
  simp only [usersByProblem, List.mem_map, Prod.exists, mem_tally_iff]
  constructor
  · rintro ⟨problem, _, ⟨present, rfl⟩, rfl⟩
    exact ⟨present, rfl⟩
  · rintro ⟨present, counted⟩
    exact ⟨count.problem, _, ⟨present, rfl⟩, by rw [← counted]⟩

/-- The counts by language of one user are the tally of the user's own submissions. -/
theorem mem_problemsByLanguage_iff_tally {submissions : List Submission} {count : LanguageCount} :
    count ∈ problemsByLanguage submissions ↔ ∃ number : Nat, count.problems = number ∧ (count.language, number) ∈
      tally (simplifyLanguage ·.language) (·.problem) (submissions.filter (·.user == count.user)) := by
  simp only [problemsByLanguage, List.mem_flatMap, List.mem_map, Prod.exists]
  constructor
  · rintro ⟨user, _, language, number, member, rfl⟩
    exact ⟨number, rfl, member⟩
  · rintro ⟨number, same, member⟩
    obtain ⟨⟨submission, inside, _⟩, _⟩ := mem_tally_iff.mp member
    obtain ⟨among, owner⟩ := List.mem_filter.mp inside
    have present : count.user ∈ submissions.map (·.user) := List.mem_map.mpr ⟨submission, among, beq_iff_eq.mp owner⟩
    exact ⟨count.user, Ascending.mem_distinct.mpr present, count.language, number, member, by rw [← same]⟩

/-- A user and a simplified language. -/
def place (submission : Submission) : String × String :=
  (submission.user, simplifyLanguage submission.language)

theorem mem_problemsByLanguage_iff {submissions : List Submission} {count : LanguageCount} :
    count ∈ problemsByLanguage submissions ↔ (∃ submission ∈ submissions, place submission = (count.user, count.language)) ∧
      count.problems = numberOf place (·.problem) submissions (count.user, count.language) := by
  have own : valuesOf (simplifyLanguage ·.language) (·.problem) (submissions.filter (·.user == count.user)) count.language =
      valuesOf place (·.problem) submissions (count.user, count.language) := by
    ext problem
    simp only [mem_valuesOf_iff, List.mem_filter, beq_iff_eq, place, Prod.mk.injEq, and_assoc]
  simp only [mem_problemsByLanguage_iff_tally, mem_tally_iff, numberOf, own, List.mem_filter, beq_iff_eq, place,
    Prod.mk.injEq, and_assoc]
  constructor
  · intro ⟨number, same, present, counted⟩
    exact ⟨present, by rw [same, counted]⟩
  · intro ⟨present, counted⟩
    exact ⟨_, counted, present, rfl⟩

theorem exists_userCount_iff {submissions : List Submission} {user : String} :
    (∃ count ∈ problemsByUser submissions, count.user = user) ↔ ∃ submission ∈ submissions, submission.user = user := by
  constructor
  · rintro ⟨count, member, rfl⟩
    exact (mem_problemsByUser_iff.mp member).1
  · intro present
    have counted : ⟨user, numberOf (·.user) (·.problem) submissions user⟩ ∈ problemsByUser submissions :=
      mem_problemsByUser_iff.mpr ⟨present, rfl⟩
    exact ⟨_, counted, rfl⟩

theorem exists_languageCount_iff {submissions : List Submission} {user language : String} :
    (∃ count ∈ problemsByLanguage submissions, count.user = user ∧ count.language = language) ↔
      ∃ submission ∈ submissions, place submission = (user, language) := by
  constructor
  · rintro ⟨count, member, rfl, rfl⟩
    exact (mem_problemsByLanguage_iff.mp member).1
  · intro present
    have counted : ⟨user, language, numberOf place (·.problem) submissions (user, language)⟩ ∈ problemsByLanguage submissions :=
      mem_problemsByLanguage_iff.mpr ⟨present, rfl⟩
    exact ⟨_, counted, rfl, rfl⟩

theorem problemsByUser_users_nodup (submissions : List Submission) :
    ((problemsByUser submissions).map (·.user)).Nodup := by
  rw [problemsByUser, List.map_map]
  exact (tally_ascending _ _ submissions).nodup_keys

theorem usersByProblem_problems_nodup (submissions : List Submission) :
    ((usersByProblem submissions).map (·.problem)).Nodup := by
  rw [usersByProblem, List.map_map]
  exact (tally_ascending _ _ submissions).nodup_keys

section Submissions
variable {submissions others : List Submission} (same : ∀ submission, submission ∈ submissions ↔ submission ∈ others)
include same

theorem problemsByUser_congr : problemsByUser submissions = problemsByUser others := by
  rw [problemsByUser, problemsByUser, tally_congr same]

theorem usersByProblem_congr : usersByProblem submissions = usersByProblem others := by
  rw [usersByProblem, usersByProblem, tally_congr same]

theorem problemsByLanguage_congr : problemsByLanguage submissions = problemsByLanguage others := by
  have counted (user : String) : tally (fun submission : Submission => simplifyLanguage submission.language)
      (·.problem) (submissions.filter (·.user == user)) =
        tally (fun submission : Submission => simplifyLanguage submission.language)
          (·.problem) (others.filter (·.user == user)) :=
    tally_congr (Ascending.mem_filter_congr same _)
  simp only [problemsByLanguage, Ascending.distinct_map_congr same, counted]

end Submissions

end JudgeStats.Statistic
