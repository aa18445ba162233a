import JudgeStats.Proofs.Footprints
import JudgeStats.Proofs.Remarks

/-! What is counted by user and simplified language. A row stands for a user and a language, and it counts the problems that
the user has solved in any version of the language, each once. Since a simplified name stays as it is when simplified again,
it does not show in the counts which of the names had been simplified before. -/

namespace JudgeStats

namespace Statistic

/-- A submission as it is, or with the simplified name in place of the name of its language. -/
def Simplified (submission other : Submission) : Prop :=
  other = submission ∨ other = { submission with language := simplifyLanguage submission.language }

/-- The users of some submissions, each with the simplified names of the user's languages. -/
def userLanguages (submissions : List Submission) : Finset (String × String) :=
  (submissions.map place).toFinset

theorem exists_mem_iff_of_forall₂ {ι κ : Type} {R : ι → κ → Prop} {P : ι → Prop} {Q : κ → Prop} {items : List ι}
    {others : List κ} (related : List.Forall₂ R items others) (same : ∀ item other, R item other → (Q other ↔ P item)) :
    (∃ other ∈ others, Q other) ↔ ∃ item ∈ items, P item := by
  induction related with
  | nil => simp only [List.not_mem_nil, false_and, exists_false]
  | cons first _ ih => rw [List.exists_mem_cons_iff, List.exists_mem_cons_iff, ih, same _ _ first]

/-- The counts show of a submission no more than its user, the simplified name of its language, and its problem. -/
theorem problemsByLanguage_eq {submissions others : List Submission} (same : ∀ sought,
      valuesOf place (·.problem) submissions sought = valuesOf place (·.problem) others sought) :
    problemsByLanguage submissions = problemsByLanguage others := by
  have present (rows : List Submission) (sought : String × String) : (∃ submission ∈ rows, place submission = sought) ↔
      0 < (valuesOf place (·.problem) rows sought).card := numberOf_pos_iff.symm
  apply Ascending.eq_of_mem_iff (problemsByLanguage_ascending _) (problemsByLanguage_ascending _)
  intro count
  simp only [mem_problemsByLanguage_iff, present, numberOf, same]

theorem mem_userLanguages_iff {submissions : List Submission} {user language : String} :
    (user, language) ∈ userLanguages submissions ↔ ∃ submission ∈ submissions, place submission = (user, language) := by
  rw [userLanguages, List.mem_toFinset, List.mem_map]

theorem problemsByLanguage_pairs_nodup (submissions : List Submission) :
    ((problemsByLanguage submissions).map fun count => (count.user, count.language)).Nodup := by
  have told (count : LanguageCount) : Schema.key count = Function.uncurry Key.pair (count.user, count.language) := rfl
  exact Ascending.nodup_names told (problemsByLanguage_ascending submissions)

theorem length_problemsByLanguage (submissions : List Submission) :
    (problemsByLanguage submissions).length = (userLanguages submissions).card := by
  have pairs : ((problemsByLanguage submissions).map fun count => (count.user, count.language)).toFinset =
      userLanguages submissions := by
    ext ⟨user, language⟩
    rw [mem_userLanguages_iff, ← exists_languageCount_iff]
    simp only [List.mem_toFinset, List.mem_map, Prod.mk.injEq]
  rw [← pairs, List.toFinset_card_of_nodup (problemsByLanguage_pairs_nodup submissions), List.length_map]

end Statistic

namespace Store
open Statistic
variable {settings : Settings} {store : Store}

/-- A user has an accepted submission on a problem, in a language with the given simplified name. -/
def SolvesIn (settings : Settings) (store : Store) (user language problem : String) : Prop :=
  ∃ submission ∈ store.rows .submissions, submission.result = settings.acceptedResult ∧ submission.user = user ∧
    simplifyLanguage submission.language = language ∧ submission.problem = problem

theorem mem_valuesOf_place_iff {user language problem : String} :
    problem ∈ valuesOf place (·.problem) (store.solved settings) (user, language) ↔ store.SolvesIn settings user language problem := by
  simp only [mem_valuesOf_iff, SolvesIn, mem_solved_iff, place, Prod.mk.injEq, and_assoc]

theorem exists_place_iff {user language : String} :
    (∃ submission ∈ store.solved settings, place submission = (user, language)) ↔
      ∃ problem, store.SolvesIn settings user language problem := by
  simp only [← mem_valuesOf_place_iff, mem_valuesOf_iff]
  constructor
  · intro ⟨submission, inside, same⟩
    exact ⟨submission.problem, submission, inside, same, rfl⟩
  · intro ⟨_, submission, inside, same, _⟩
    exact ⟨submission, inside, same⟩

theorem solvesIn_iff_of_simplified {rows others : List Submission} (held : store.submissions = some rows)
    (simplified : List.Forall₂ Simplified rows others) {user language problem : String} :
    ({ store with submissions := some others } : Store).SolvesIn settings user language problem ↔
      store.SolvesIn settings user language problem := by
  have before : store.rows .submissions = rows := congrArg (·.getD []) held
  rw [SolvesIn, SolvesIn, before]
  apply exists_mem_iff_of_forall₂ simplified
  intro submission other alike
  rcases alike with rfl | rfl
  · rfl
  · simp only [simplifyLanguage_simplifyLanguage]

/-- Whether the counts can be replaced does not depend on the submissions beyond what is counted. -/
theorem languageCount_fault?_of_simplified {rows others : List Submission} (held : store.submissions = some rows)
    (built : Derived.languageCount.rebuild settings { store with submissions := some others } =
      Derived.languageCount.rebuild settings store) :
    ({ store with submissions := some others } : Store).fault? settings .languageCount =
      store.fault? settings .languageCount := by
  apply fault?_congr
  case denials => rfl
  case present =>
    intro needed member
    simp only [Derived.sources, List.mem_cons, List.not_mem_nil, or_false] at member
    rcases member with rfl | rfl
    · rfl
    · change (some others).isNone = store.submissions.isNone
      rw [held]
      rfl
  case unusable => rfl
  case held => rfl
  case built => exact built

theorem get_languageCounts {count : Nat} (finished : (Operation.languageCount.run settings store).result = .ok count) :
    (Operation.languageCount.run settings store).state.languageCount = some (problemsByLanguage (store.solved settings)) := by
  have succeeded : (Operation.languageCount.run settings store).result.isOk := by
    rw [finished]
    rfl
  have held : (Operation.languageCount.run settings store).state.get (.derived .languageCount) = _ :=
    get_run_of_whole succeeded rfl (by decide)
  exact held

theorem languageCount_run_congr {other : Store}
    (fault : other.fault? settings .languageCount = store.fault? settings .languageCount)
    (built : Derived.languageCount.rebuild settings other = Derived.languageCount.rebuild settings store)
    (held : other.languageCount = store.languageCount) :
    let one := Operation.languageCount.run settings store
    let two := Operation.languageCount.run settings other
    two.state.languageCount = one.state.languageCount ∧ two.log = one.log ∧ two.result = one.result := by
  have run (current : Store) : Operation.languageCount.run settings current = _ := run_single rfl
  simp only [run, fault, built]
  cases store.fault? settings .languageCount with
  | some error => exact ⟨held, rfl, rfl⟩
  | none =>
    refine ⟨?_, rfl, rfl⟩
    change some (Derived.languageCount.rewritten settings other) = some (Derived.languageCount.rewritten settings store)
    rw [Derived.rewritten_eq_rebuild _ _ (by decide), Derived.rewritten_eq_rebuild _ _ (by decide), built]

/-- A simplified name stays as it is when simplified again. So the counts of a store, and whether they can be replaced at
all, do not show which of the languages had been simplified before, and all names in the counts are simplified. -/
theorem languageCounts_of_simplified :
    (∀ name, simplifyLanguage (simplifyLanguage name) = simplifyLanguage name) ∧
    (∀ (settings : Settings) (store : Store) (rows others : List Submission), store.submissions = some rows →
      List.Forall₂ Simplified rows others →
        let one := Operation.languageCount.run settings store
        let two := Operation.languageCount.run settings { store with submissions := some others }
        two.state.languageCount = one.state.languageCount ∧ two.log = one.log ∧ two.result = one.result) ∧
    ∀ (settings : Settings) (store : Store) (count : Nat), (Operation.languageCount.run settings store).result = .ok count →
      ∃ counts, (Operation.languageCount.run settings store).state.languageCount = some counts ∧
        ∀ row ∈ counts, simplifyLanguage row.language = row.language := by
  refine ⟨simplifyLanguage_simplifyLanguage, ?_, ?_⟩
  · intro settings store rows others held simplified one two
    have built : Derived.languageCount.rebuild settings { store with submissions := some others } =
        Derived.languageCount.rebuild settings store := by
      apply problemsByLanguage_eq
      intro ⟨user, language⟩
      ext problem
      rw [mem_valuesOf_place_iff, mem_valuesOf_place_iff, solvesIn_iff_of_simplified held simplified]
    exact languageCount_run_congr (languageCount_fault?_of_simplified held built) built rfl
  · intro settings store count finished
    refine ⟨_, get_languageCounts finished, ?_⟩
    intro row member
    obtain ⟨⟨submission, _, same⟩, _⟩ := mem_problemsByLanguage_iff.mp member
    obtain ⟨_, name⟩ := Prod.mk.inj same
    rw [← name, simplifyLanguage_simplifyLanguage]

/-- Ann has solved a problem in three versions. The other submissions have two of their names simplified, one of which has
text after the remark. -/
theorem languageCounts_of_some_simplified :
    let rows : List Submission :=
      [⟨1, 1500000100, "a", "abc1", "ann", "C++17 (GCC)", none, 20, "AC", none⟩,
        ⟨2, 1500000200, "a", "abc1", "ann", "Perl6 (Rakudo (x64)) beta", none, 10, "AC", none⟩,
        ⟨3, 1500000300, "a", "abc1", "ann", "C++14 (Clang)", none, 30, "AC", none⟩]
    let others : List Submission :=
      [⟨1, 1500000100, "a", "abc1", "ann", "C++", none, 20, "AC", none⟩,
        ⟨2, 1500000200, "a", "abc1", "ann", "Perl6 beta", none, 10, "AC", none⟩,
        ⟨3, 1500000300, "a", "abc1", "ann", "C++14 (Clang)", none, 30, "AC", none⟩]
    let one := Operation.languageCount.run {} { submissions := some rows }
    let two := Operation.languageCount.run {} { submissions := some others }
    List.Forall₂ Simplified rows others ∧
    two.state.languageCount = one.state.languageCount ∧
    one.state.languageCount = some [⟨"ann", "C++", 1⟩, ⟨"ann", "Perl6 beta", 1⟩] ∧
    ∃ counts, one.state.languageCount = some counts ∧ ∀ row ∈ counts, simplifyLanguage row.language = row.language := by
  intro rows others one two
  have simplified : List.Forall₂ Simplified rows others :=
    .cons (.inr (by decide +kernel)) (.cons (.inr (by decide +kernel)) (.cons (.inl rfl) .nil))
  obtain ⟨_, unchanged, fixed⟩ := languageCounts_of_simplified
  have finished : one.result = .ok 2 := by decide +kernel
  exact ⟨simplified, (unchanged {} { submissions := some rows } rows others rfl simplified).1, by decide +kernel,
    fixed {} _ 2 finished⟩

/-- When the counts were replaced, each user and each language of the user have one row, and it counts the problems that the
user has solved in the language, whatever versions of it these were solved in. -/
theorem languageCounts_count_problems {count : Nat}
    (finished : (Operation.languageCount.run settings store).result = .ok count) :
    ∃ counts, (Operation.languageCount.run settings store).state.languageCount = some counts ∧
      (counts.map fun row => (row.user, row.language)).Nodup ∧
      (∀ user language, (∃ row ∈ counts, row.user = user ∧ row.language = language) ↔
        ∃ problem, store.SolvesIn settings user language problem) ∧
      (∀ row ∈ counts, ∃ problems : Finset String,
        (∀ problem, problem ∈ problems ↔ store.SolvesIn settings row.user row.language problem) ∧
          row.problems = problems.card) ∧
      ∃ pairs : Finset (String × String),
        (∀ user language, (user, language) ∈ pairs ↔ ∃ problem, store.SolvesIn settings user language problem) ∧
          count = pairs.card := by
  refine ⟨_, get_languageCounts finished, problemsByLanguage_pairs_nodup _, ?_, ?_, ?_⟩
  · intro user language
    rw [exists_languageCount_iff, exists_place_iff]
  · intro row member
    exact ⟨_, fun _ => mem_valuesOf_place_iff, (mem_problemsByLanguage_iff.mp member).2⟩
  · refine ⟨userLanguages (store.solved settings), ?_, ?_⟩
    · intro user language
      rw [mem_userLanguages_iff, exists_place_iff]
    · rw [run_count finished, ← length_problemsByLanguage]
      rfl

/-- Ann has solved one problem in three versions of a language and in another language, and a second one in an old version.
A wrong answer does not count. -/
theorem languageCounts_count_versions_once :
    let store : Store :=
      { submissions := some [⟨1, 1500000100, "a", "abc1", "ann", "C++14 (GCC)", none, 20, "AC", none⟩,
          ⟨2, 1500000200, "a", "abc1", "ann", "C++17 (GCC)", none, 10, "AC", none⟩,
          ⟨3, 1500000300, "a", "abc1", "ann", "C++ (Clang)", none, 30, "AC", none⟩,
          ⟨4, 1500000400, "a", "abc1", "ann", "Rust", none, 30, "AC", none⟩,
          ⟨5, 1500000500, "b", "abc1", "ann", "C++11 (GCC)", none, 30, "AC", none⟩,
          ⟨6, 1500000600, "c", "abc1", "ann", "C++11 (GCC)", none, 30, "WA", none⟩,
          ⟨7, 1500000700, "a", "abc1", "bob", "C++", none, 30, "AC", none⟩] }
    let outcome := Operation.languageCount.run {} store
    outcome.result = .ok 3 ∧
    outcome.state.languageCount = some [⟨"ann", "C++", 2⟩, ⟨"ann", "Rust", 1⟩, ⟨"bob", "C++", 1⟩] ∧
    ∀ row ∈ outcome.state.rows (.derived .languageCount), ∃ problems : Finset String,
      (∀ problem, problem ∈ problems ↔ store.SolvesIn {} row.user row.language problem) ∧ row.problems = problems.card := by
  intro store outcome
  have finished : outcome.result = .ok 3 := by decide +kernel
  obtain ⟨counts, held, _, _, counted, _⟩ := languageCounts_count_problems finished
  have rows : outcome.state.rows (.derived .languageCount) = counts := congrArg (·.getD []) held
  exact ⟨finished, by decide +kernel, rows ▸ counted⟩

end Store

end JudgeStats
