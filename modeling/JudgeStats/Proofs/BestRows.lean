import JudgeStats.Proofs.AmountOrder
import JudgeStats.Proofs.Rebuilding
import Mathlib.Data.Prod.Lex
import Mathlib.Order.WithBot

/-! The best of some items. Where one being better is having the smaller score, and no two items have the same score, it is
determined by what the items are, whatever their order is. So are the best submissions and the most points of each
problem. -/

namespace JudgeStats

section Score
variable {α β : Type} [LinearOrder β] {better : α → α → Bool} (score : α → β) {items others : List α} {winner : α}

theorem best?_eq_none_iff : best? better items = none ↔ items = [] := by
  cases items with
  | nil => exact ⟨fun _ => rfl, fun _ => rfl⟩
  | cons item rest =>
    refine ⟨fun none => ?_, fun empty => nomatch empty⟩
    rw [best?] at none
    split at none <;> cases none

theorem mem_of_best? (found : best? better items = some winner) : winner ∈ items := by
  induction items generalizing winner with
  | nil => cases found
  | cons item rest ih =>
    rw [best?] at found
    split at found
    · cases found
      exact List.mem_cons_self
    next rival among =>
      cases found
      split
      · exact List.mem_cons_of_mem _ (ih among)
      · exact List.mem_cons_self

section Decided
variable (decides : ∀ a ∈ items, ∀ b ∈ items, better a b = true ↔ score a < score b)
include decides

theorem score_le_of_best? (found : best? better items = some winner) : ∀ other ∈ items, score winner ≤ score other := by
  induction items generalizing winner with
  | nil => cases found
  | cons item rest ih =>
    have later : ∀ a ∈ rest, ∀ b ∈ rest, better a b = true ↔ score a < score b := fun a member b inside =>
      decides a (List.mem_cons_of_mem _ member) b (List.mem_cons_of_mem _ inside)
    rw [best?] at found
    intro other inside
    split at found
    next none =>
      cases found
      rw [best?_eq_none_iff.mp none, List.mem_singleton] at inside
      rw [inside]
    next rival among =>
      have compared := decides rival (List.mem_cons_of_mem _ (mem_of_best? among)) item List.mem_cons_self
      cases found
      split
      next wins =>
        rcases List.mem_cons.mp inside with rfl | deep
        · exact (compared.mp wins).le
        · exact ih later among other deep
      next stays =>
        have below : score item ≤ score rival := not_lt.mp (mt compared.mpr stays)
        rcases List.mem_cons.mp inside with rfl | deep
        · exact le_refl _
        · exact below.trans (ih later among other deep)

theorem best?_congr (single : ∀ a ∈ items, ∀ b ∈ items, score a = score b → a = b)
    (same : ∀ item, item ∈ items ↔ item ∈ others) : best? better items = best? better others := by
  have judged : ∀ a ∈ others, ∀ b ∈ others, better a b = true ↔ score a < score b := by
    simpa only [same] using decides
  cases found : best? better items with
  | none =>
    have empty : others = [] := by
      apply List.eq_nil_iff_forall_not_mem.mpr
      intro item
      rw [← same, best?_eq_none_iff.mp found]
      exact List.not_mem_nil
    rw [empty]
    rfl
  | some winner =>
    have inside := mem_of_best? found
    cases rival : best? better others with
    | none =>
      rw [same, best?_eq_none_iff.mp rival] at inside
      cases inside
    | some champion =>
      -- Each winner is among both lists, so neither beats the other, and no two items score alike.
      have among := (same champion).mpr (mem_of_best? rival)
      have below := score_le_of_best? score decides found champion among
      have above := score_le_of_best? score judged rival winner ((same winner).mp inside)
      rw [single winner inside champion among (le_antisymm below above)]

end Decided

end Score

namespace Measure

/-- Whether a submission has no value, then its value, and then its id. -/
def score (measure : Measure) (submission : Submission) : Bool ×ₗ ℤ ×ₗ ℤ :=
  toLex ((measure.value submission).isNone, toLex ((measure.value submission).getD 0, submission.id))

theorem better_iff_score_lt (measure : Measure) (a b : Submission) :
    measure.better a b = true ↔ measure.score a < measure.score b := by
  rw [score, score, Prod.Lex.toLex_lt_toLex, Prod.Lex.toLex_lt_toLex, better]
  cases measure.value a <;> cases measure.value b <;> simp

theorem id_eq_of_score_eq {measure : Measure} {a b : Submission} (same : measure.score a = measure.score b) :
    a.id = b.id :=
  (Prod.mk.inj (toLex.injective (Prod.mk.inj (toLex.injective same)).2)).2

end Measure

namespace Statistic

section Members
variable {measure : Measure} {submissions : List Submission} {row : GreatSubmission}

/-- A row is the one made of the winner on its problem. -/
theorem mem_bestByProblem_iff_winner : row ∈ bestByProblem measure submissions ↔
    (best? measure.better (submissions.filter (·.problem == row.problem))).map
      (fun winner => ⟨row.problem, winner.id, winner.contest⟩) = some row := by
  rw [bestByProblem, List.mem_filterMap]
  constructor
  · rintro ⟨problem, _, made⟩
    obtain ⟨winner, _, rfl⟩ := Option.map_eq_some_iff.mp made
    exact made
  · intro made
    obtain ⟨winner, found, _⟩ := Option.map_eq_some_iff.mp made
    obtain ⟨inside, same⟩ := List.mem_filter.mp (mem_of_best? found)
    exact ⟨row.problem, Ascending.mem_distinct.mpr (List.mem_map.mpr ⟨winner, inside, beq_iff_eq.mp same⟩), made⟩

/-- Each winner has its row. -/
theorem mem_bestByProblem_iff : row ∈ bestByProblem measure submissions ↔ ∃ winner ∈ submissions,
    best? measure.better (submissions.filter (·.problem == winner.problem)) = some winner ∧
      row = ⟨winner.problem, winner.id, winner.contest⟩ := by
  rw [mem_bestByProblem_iff_winner]
  constructor
  · intro made
    obtain ⟨winner, found, whole⟩ := Option.map_eq_some_iff.mp made
    obtain ⟨inside, on⟩ := List.mem_filter.mp (mem_of_best? found)
    have same : winner.problem = row.problem := beq_iff_eq.mp on
    exact ⟨winner, inside, same ▸ found, same ▸ whole.symm⟩
  · rintro ⟨winner, _, found, rfl⟩
    rw [found]
    rfl

end Members

section Congruence
variable {submissions others : List Submission} (same : ∀ submission, submission ∈ submissions ↔ submission ∈ others)
include same

theorem bestByProblem_congr (measure : Measure)
    (unique : ∀ a ∈ submissions, ∀ b ∈ submissions, a.id = b.id → a = b) :
    bestByProblem measure submissions = bestByProblem measure others := by
  have winners (problem : String) : best? measure.better (submissions.filter (·.problem == problem)) =
      best? measure.better (others.filter (·.problem == problem)) := by
    apply best?_congr measure.score fun a _ b _ => measure.better_iff_score_lt a b
    · intro a member b inside equal
      exact unique a (List.mem_of_mem_filter member) b (List.mem_of_mem_filter inside) (Measure.id_eq_of_score_eq equal)
    · exact Ascending.mem_filter_congr same _
  simp only [bestByProblem, Ascending.distinct_map_congr same, winners]

theorem mostPoints_congr (saved : ∀ submission ∈ submissions, ∀ amount, submission.point = some amount →
      Amount.IsSaved amount) : mostPoints submissions = mostPoints others := by
  have most (problem : String) : highest? ((submissions.filter (·.problem == problem)).filterMap (·.point)) =
      highest? ((others.filter (·.problem == problem)).filterMap (·.point)) := by
    have form : ∀ amount ∈ (submissions.filter (·.problem == problem)).filterMap (·.point), Amount.IsSaved amount := by
      intro amount member
      obtain ⟨submission, inside, point⟩ := List.mem_filterMap.mp member
      exact saved submission (List.mem_of_mem_filter inside) amount point
    apply best?_congr fun amount => -Amount.rank amount
    · intro a member b inside
      rw [decide_eq_true_iff, (form b inside).lt_iff (form a member), Int.neg_lt_neg_iff]
    · intro a member b inside equal
      exact (form a member).eq_of_rank_eq (form b inside) (Int.neg_inj.mp equal)
    · intro amount
      simp only [List.mem_filterMap, List.mem_filter, same]
  simp only [mostPoints, Ascending.distinct_map_congr same, most]

theorem pointsByUser_congr (points : List ProblemPoint) : pointsByUser points submissions = pointsByUser points others := by
  have problems (user : String) : Ascending.distinct ((submissions.filter (·.user == user)).map (·.problem)) =
      Ascending.distinct ((others.filter (·.user == user)).map (·.problem)) :=
    Ascending.distinct_map_congr (Ascending.mem_filter_congr same _) _
  simp only [pointsByUser, Ascending.distinct_map_congr same, problems]

end Congruence

end Statistic

end JudgeStats
