import JudgeStats.Proofs.GreatShares
import JudgeStats.Proofs.PointRows
import Mathlib.Logic.Function.Basic

/-! What one row more among the others does to what is computed from them. It counts at its own key alone, and only if its
value is new there. It takes the place of the best one on its problem or does not show at all. -/

namespace JudgeStats

section Adds
variable {ρ : Type} {row : ρ} {rows others : List ρ}

/-- Rows with one more somewhere among them. -/
def Adds (row : ρ) (rows others : List ρ) : Prop :=
  ∃ early late, rows = early ++ late ∧ others = early ++ row :: late

variable (adds : Adds row rows others)
include adds

theorem Adds.perm : others.Perm (row :: rows) := by
  obtain ⟨early, late, rfl, rfl⟩ := adds
  exact List.perm_middle

theorem Adds.mem_iff {member : ρ} : member ∈ others ↔ member = row ∨ member ∈ rows := by
  rw [adds.perm.mem_iff, List.mem_cons]

theorem Adds.filter_of_pos {kept : ρ → Bool} (keeps : kept row) : Adds row (rows.filter kept) (others.filter kept) := by
  obtain ⟨early, late, rfl, rfl⟩ := adds
  exact ⟨early.filter kept, late.filter kept, List.filter_append .., by rw [List.filter_append, List.filter_cons_of_pos keeps]⟩

theorem Adds.filter_of_neg {kept : ρ → Bool} (drops : kept row = false) : others.filter kept = rows.filter kept := by
  obtain ⟨early, late, rfl, rfl⟩ := adds
  rw [List.filter_append, List.filter_append, List.filter_cons_of_neg (Bool.eq_false_iff.mp drops)]

theorem Adds.filter_cases (kept : ρ → Bool) :
    Adds row (rows.filter kept) (others.filter kept) ∨ others.filter kept = rows.filter kept := by
  cases keeps : kept row with
  | true => exact .inl (adds.filter_of_pos keeps)
  | false => exact .inr (adds.filter_of_neg keeps)

end Adds

/-- A row with a key of its own is put between others. -/
theorem Ascending.adds_put {ρ κ : Type} [Ord κ] [Std.LawfulEqOrd κ] {key : ρ → κ} {row : ρ} {rows : List ρ}
    (fresh : ∀ old ∈ rows, key old ≠ key row) : Adds row rows (put key row rows) := by
  induction rows with
  | nil => exact ⟨[], [], rfl, rfl⟩
  | cons next rest ih =>
    obtain ⟨apart, others⟩ := List.forall_mem_cons.mp fresh
    rw [put]
    split
    · exact ⟨[], next :: rest, rfl, rfl⟩
    next same => exact absurd (Std.LawfulEqOrd.eq_of_compare same).symm apart
    · obtain ⟨early, late, split, placed⟩ := ih others
      exact ⟨next :: early, late, congrArg _ split, congrArg _ placed⟩

theorem filter_eq_find? {ρ κ : Type} [BEq κ] [LawfulBEq κ] {key : ρ → κ} {rows : List ρ} (single : (rows.map key).Nodup)
    (sought : κ) : rows.filter (key · == sought) = (rows.find? (key · == sought)).toList := by
  induction rows with
  | nil => rfl
  | cons row rest ih =>
    obtain ⟨alone, others⟩ := List.nodup_cons.mp single
    rw [List.filter_cons, List.find?_cons]
    cases same : key row == sought with
    | true =>
      have none : rest.filter (key · == sought) = [] := by
        apply List.filter_eq_nil_iff.mpr
        intro other member equal
        exact alone (List.mem_map.mpr ⟨other, member, (beq_iff_eq.mp equal).trans (beq_iff_eq.mp same).symm⟩)
      rw [if_pos rfl, none]
      rfl
    | false => exact ih others

namespace Statistic

section Counts
variable {ρ κ ν : Type} [DecidableEq κ] [DecidableEq ν]

/-- Rows with the numbers of some keys: there is one for each key with a positive number, and no other. -/
def Counts {α : Type} (make : κ → Int → α) (number : κ → Nat) (counts : List α) : Prop :=
  ∀ count, count ∈ counts ↔ ∃ key, 0 < number key ∧ count = make key (number key)

/-- Counts of values by key before and after one more row. Its key gains one unless its value was there. -/
def Gains {α : Type} (make : κ → Int → α) (key : ρ → κ) (value : ρ → ν) (rows : List ρ) (row : ρ)
    (before after : List α) : Prop :=
  ∃ number, Counts make number before ∧ Counts make (Function.update number (key row)
    (number (key row) + if ∃ old ∈ rows, key old = key row ∧ value old = value row then 0 else 1)) after

variable [BEq κ] [LawfulBEq κ] {key : ρ → κ} {value : ρ → ν} {rows others : List ρ} {row : ρ} (adds : Adds row rows others)
include adds

/-- One more row adds to the number of its own key, unless its value was there. -/
theorem numberOf_adds : numberOf key value others =
    Function.update (numberOf key value rows) (key row) (numberOf key value rows (key row) +
      if ∃ old ∈ rows, key old = key row ∧ value old = value row then 0 else 1) := by
  funext sought
  by_cases same : sought = key row
  · subst same
    have values : valuesOf key value others (key row) = insert (value row) (valuesOf key value rows (key row)) := by
      ext found
      rw [Finset.mem_insert, mem_valuesOf_iff, mem_valuesOf_iff, eq_comm (a := found)]
      simp only [adds.mem_iff, or_and_right, exists_or, exists_eq_left, true_and]
    rw [Function.update_self, numberOf, values]
    split
    next old => exact Finset.card_insert_of_mem (mem_valuesOf_iff.mpr old)
    next new => exact Finset.card_insert_of_notMem (mt mem_valuesOf_iff.mp new)
  · rw [Function.update_of_ne same, numberOf, numberOf, valuesOf, valuesOf, adds.filter_of_neg]
    exact beq_eq_false_iff_ne.mpr (Ne.symm same)

theorem gains_of_counts {α : Type} {make : κ → Int → α} {before after : List α}
    (counted : Counts make (numberOf key value rows) before) (counts : Counts make (numberOf key value others) after) :
    Gains make key value rows row before after := by
  refine ⟨numberOf key value rows, counted, ?_⟩
  rw [← numberOf_adds adds]
  exact counts

end Counts

/-- A count is made of its key and its number, and has both for each key with a positive number. -/
theorem counts_of_mem_iff {κ α : Type} [DecidableEq κ] {make : κ → Int → α} {number : κ → Nat} {counts : List α} (keyOf : α → κ)
    (size : α → Int) (whole : ∀ count, make (keyOf count) (size count) = count)
    (parts : ∀ key held, keyOf (make key held) = key ∧ size (make key held) = held)
    (member : ∀ count, count ∈ counts ↔ 0 < number (keyOf count) ∧ size count = number (keyOf count)) :
    Counts make number counts := by
  intro count
  rw [member]
  constructor
  · intro ⟨positive, counted⟩
    exact ⟨keyOf count, positive, by rw [← counted, whole]⟩
  · rintro ⟨key, positive, rfl⟩
    obtain ⟨own, held⟩ := parts key (number key)
    rw [own, held]
    exact ⟨positive, rfl⟩

theorem counts_problemsByUser (submissions : List Submission) :
    Counts UserCount.mk (numberOf (·.user) (·.problem) submissions) (problemsByUser submissions) := by
  apply counts_of_mem_iff UserCount.user UserCount.problems (fun _ => rfl) fun _ _ => ⟨rfl, rfl⟩
  intro count
  rw [numberOf_pos_iff, mem_problemsByUser_iff]

theorem counts_usersByProblem (submissions : List Submission) :
    Counts SolverCount.mk (numberOf (·.problem) (·.user) submissions) (usersByProblem submissions) := by
  apply counts_of_mem_iff SolverCount.problem SolverCount.users (fun _ => rfl) fun _ _ => ⟨rfl, rfl⟩
  intro count
  rw [numberOf_pos_iff, mem_usersByProblem_iff]

theorem counts_problemsByLanguage (submissions : List Submission) :
    Counts (fun place number => ⟨place.1, place.2, number⟩) (numberOf place (·.problem) submissions)
      (problemsByLanguage submissions) := by
  apply counts_of_mem_iff (fun count => (count.user, count.language)) LanguageCount.problems (fun _ => rfl)
    fun _ _ => ⟨rfl, rfl⟩
  intro count
  rw [numberOf_pos_iff, mem_problemsByLanguage_iff]

/-- Counts that share out the best submissions have for each user the rows that belong to the user. -/
theorem Shares.counts_countP {submissions : List Submission} {great : List GreatSubmission} {counts : List UserCount}
    (shares : Shares submissions great counts) :
    Counts UserCount.mk (fun user => great.countP (belongsTo submissions user)) counts := by
  intro count
  simp only [List.countP_pos_iff, ← shares.present]
  constructor
  · intro member
    exact ⟨count.user, ⟨count, member, rfl⟩, by rw [← shares.counted count member]⟩
  · rintro ⟨user, ⟨other, member, rfl⟩, rfl⟩
    rw [← shares.counted other member]
    exact member

section Groups
variable {ρ κ α : Type} [Ord κ] [Std.TransOrd κ] [Std.LawfulEqOrd κ] [BEq κ] [LawfulBEq κ] {key : ρ → κ}
  (make : κ → List ρ → α) (keyOf : α → κ) (made : ∀ k group, keyOf (make k group) = k)
include made

/-- What is made of the rows with a key does not depend on a row with another key. -/
theorem mem_groups_adds {rows others : List ρ} {added : ρ} (adds : Adds added rows others) {row : α}
    (apart : keyOf row ≠ key added) :
    row ∈ (Ascending.distinct (others.map key)).map (fun k => make k (others.filter (key · == k))) ↔
      row ∈ (Ascending.distinct (rows.map key)).map (fun k => make k (rows.filter (key · == k))) := by
  have same : others.filter (key · == keyOf row) = rows.filter (key · == keyOf row) :=
    adds.filter_of_neg (beq_eq_false_iff_ne.mpr apart.symm)
  rw [mem_groups_iff make keyOf made, mem_groups_iff make keyOf made, same]

end Groups

theorem mem_mostPoints_adds {submissions others : List Submission} {submission : Submission}
    (adds : Adds submission submissions others) {row : ProblemPoint} (apart : row.problem ≠ submission.problem) :
    row ∈ mostPoints others ↔ row ∈ mostPoints submissions := by
  let most (problem : String) (group : List Submission) : ProblemPoint := ⟨problem, highest? (group.filterMap (·.point))⟩
  exact mem_groups_adds most ProblemPoint.problem (fun _ _ => rfl) adds apart

theorem mem_pointsByUser_adds {submissions others : List Submission} {submission : Submission}
    (adds : Adds submission submissions others) {points : List ProblemPoint} {row : PointSum} (apart : row.user ≠ submission.user) :
    row ∈ pointsByUser points others ↔ row ∈ pointsByUser points submissions := by
  let sum (user : String) (group : List Submission) : PointSum :=
    ⟨user, ((Ascending.distinct (group.map (·.problem))).filterMap (pointOf? points)).foldl (· + ·) 0.0⟩
  exact mem_groups_adds sum PointSum.user (fun _ _ => rfl) adds apart

section Best
variable {measure : Measure} {submissions others : List Submission} {submission : Submission}

variable (adds : Adds submission submissions others) (unique : ∀ a ∈ others, ∀ b ∈ others, a.id = b.id → a = b)
include adds unique

theorem best?_adds (measure : Measure) : best? measure.better others = some submission ∨
    best? measure.better others = best? measure.better submissions := by
  have moved : best? measure.better others = best? measure.better (submission :: submissions) := by
    apply best?_congr measure.score fun a _ b _ => measure.better_iff_score_lt a b
    · intro a member b inside equal
      exact unique a member b inside (Measure.id_eq_of_score_eq equal)
    · exact fun _ => adds.perm.mem_iff
  rw [moved, best?]
  cases best? measure.better submissions with
  | none => exact .inl rfl
  | some rival =>
    by_cases wins : measure.better rival submission
    · exact .inr (congrArg some (if_pos wins))
    · exact .inl (congrArg some (if_neg wins))

/-- One more submission changes nothing about the best ones, or it is the best on its problem itself. -/
theorem bestByProblem_adds (measure : Measure) :
    bestByProblem measure others = bestByProblem measure submissions ∨
    ∀ row, row ∈ bestByProblem measure others ↔ row = ⟨submission.problem, submission.id, submission.contest⟩ ∨
      row.problem ≠ submission.problem ∧ row ∈ bestByProblem measure submissions := by
  have elsewhere {problem : String} (apart : problem ≠ submission.problem) :
      others.filter (·.problem == problem) = submissions.filter (·.problem == problem) :=
    adds.filter_of_neg (beq_eq_false_iff_ne.mpr apart.symm)
  have here : Adds submission (submissions.filter (·.problem == submission.problem))
      (others.filter (·.problem == submission.problem)) := adds.filter_of_pos (beq_self_eq_true submission.problem)
  -- Only the best submission on the problem of the new one can differ, and if it does it is the new one.
  rcases best?_adds here (fun a member b inside => unique a (List.mem_of_mem_filter member) b (List.mem_of_mem_filter inside))
    measure with wins | stays
  · refine .inr fun row => ?_
    by_cases same : row.problem = submission.problem
    · rw [mem_bestByProblem_iff_winner, same, wins, Option.map_some, Option.some.injEq, eq_comm]
      exact (or_iff_left fun other => other.1 rfl).symm
    · rw [mem_bestByProblem_iff_winner, mem_bestByProblem_iff_winner, elsewhere same]
      refine ⟨fun inside => .inr ⟨same, inside⟩, ?_⟩
      rintro (rfl | ⟨_, inside⟩)
      · exact absurd rfl same
      · exact inside
  · refine .inl (Ascending.eq_of_mem_iff (bestByProblem_ascending _ _) (bestByProblem_ascending _ _) fun row => ?_)
    rw [mem_bestByProblem_iff_winner, mem_bestByProblem_iff_winner]
    by_cases same : row.problem = submission.problem
    · rw [same, stays]
    · rw [elsewhere same]

end Best

/-- The user whose submission is the best one on a problem. -/
def ownerOf? (great : List GreatSubmission) (submissions : List Submission) (problem : String) : Option String :=
  ((great.find? (·.problem == problem)).bind fun best => submissions.find? (·.id == best.submission)).map (·.user)

section Owner
variable {great others : List GreatSubmission} {submissions more : List Submission} {submission : Submission} {user : String}

theorem belongsTo_iff_find? (unique : ∀ a ∈ submissions, ∀ b ∈ submissions, a.id = b.id → a = b) {best : GreatSubmission} :
    belongsTo submissions user best ↔ (submissions.find? (·.id == best.submission)).map (·.user) = some user := by
  rw [belongsTo, List.any_eq_true]
  constructor
  · rintro ⟨submission, member, same⟩
    obtain ⟨number, owner⟩ := Bool.and_eq_true_iff.mp same
    cases found : submissions.find? (·.id == best.submission) with
    | none => exact absurd number (List.find?_eq_none.mp found submission member)
    | some other =>
      have first := List.find?_some found
      have equal : other.id = submission.id := (beq_iff_eq.mp first).trans (beq_iff_eq.mp number).symm
      rw [unique other (List.mem_of_find?_eq_some found) submission member equal, Option.map_some, beq_iff_eq.mp owner]
  · intro found
    obtain ⟨submission, first, owner⟩ := Option.map_eq_some_iff.mp found
    have number := List.find?_some first
    exact ⟨submission, List.mem_of_find?_eq_some first, Bool.and_eq_true_iff.mpr ⟨number, beq_iff_eq.mpr owner⟩⟩

/-- Of the rows on one problem the owner has the only one, if there is one. -/
theorem countP_of_problem (single : (great.map (·.problem)).Nodup)
    (unique : ∀ a ∈ submissions, ∀ b ∈ submissions, a.id = b.id → a = b) (problem : String) :
    (great.filter (·.problem == problem)).countP (belongsTo submissions user) =
      if ownerOf? great submissions problem = some user then 1 else 0 := by
  rw [filter_eq_find? single, ownerOf?]
  cases great.find? (·.problem == problem) with
  | none => rfl
  | some best =>
    rw [Option.toList_some, List.countP_singleton, Option.bind_some]
    exact if_congr (belongsTo_iff_find? unique) rfl rfl

/-- A submission that takes the place of the best one on its problem counts for its user, and the one before no longer for
its own. -/
theorem countP_adds (adds : Adds submission submissions more) (fresh : ∀ old ∈ submissions, old.id ≠ submission.id)
    (unique : ∀ a ∈ submissions, ∀ b ∈ submissions, a.id = b.id → a = b)
    (named : ∀ best ∈ great, ∃ old ∈ submissions, old.id = best.submission)
    (single : (great.map (·.problem)).Nodup) (once : others.Nodup)
    (same : ∀ row, row ∈ others ↔ row = ⟨submission.problem, submission.id, submission.contest⟩ ∨
      row.problem ≠ submission.problem ∧ row ∈ great) :
    others.countP (belongsTo more user) + (if ownerOf? great submissions submission.problem = some user then 1 else 0) =
      great.countP (belongsTo submissions user) + if submission.user = user then 1 else 0 := by
  have kept : ∀ best ∈ great, belongsTo more user best ↔ belongsTo submissions user best := by
    intro best member
    obtain ⟨old, inside, number⟩ := named best member
    rw [belongsTo, belongsTo, adds.perm.any_eq, List.any_cons, ← number, beq_eq_false_iff_ne.mpr (fresh old inside).symm,
      Bool.false_and, Bool.false_or]
  have own : belongsTo more user ⟨submission.problem, submission.id, submission.contest⟩ ↔ submission.user = user := by
    rw [belongsTo, List.any_eq_true]
    constructor
    · rintro ⟨old, inside, both⟩
      obtain ⟨number, owner⟩ := Bool.and_eq_true_iff.mp both
      rcases adds.mem_iff.mp inside with rfl | before
      · exact beq_iff_eq.mp owner
      · exact absurd (beq_iff_eq.mp number) (fresh old before)
    · rintro rfl
      exact ⟨submission, adds.mem_iff.mpr (.inl rfl), by simp⟩
  -- The rows of after are the new one and those of before that are on other problems.
  have order : others.Perm (⟨submission.problem, submission.id, submission.contest⟩ ::
      great.filter (!·.problem == submission.problem)) := by
    have apart : ⟨submission.problem, submission.id, submission.contest⟩ ∉
        great.filter (!·.problem == submission.problem) := fun inside => by simpa using (List.mem_filter.mp inside).2
    have nodup : great.Nodup := single.of_map _
    apply (List.perm_ext_iff_of_nodup once (List.nodup_cons.mpr ⟨apart, nodup.filter _⟩)).mpr
    intro row
    rw [same, List.mem_cons, List.mem_filter, Bool.not_eq_true', beq_eq_false_iff_ne]
    exact or_congr_right and_comm
  have split := great.countP_eq_countP_filter_add (belongsTo submissions user) (·.problem == submission.problem)
  rw [countP_of_problem single unique] at split
  rw [order.countP_eq, List.countP_cons, split, if_congr own rfl rfl]
  have rest : (great.filter (!·.problem == submission.problem)).countP (belongsTo more user) =
      (great.filter (!·.problem == submission.problem)).countP (belongsTo submissions user) :=
    List.countP_congr fun best member => kept best (List.mem_of_mem_filter member)
  rw [rest]
  omega

end Owner

end Statistic

end JudgeStats
