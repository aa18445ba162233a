import JudgeStats.Proofs.BestRows

/-! What problems are worth, and what users have of it. A problem among some submissions is worth the highest amount that one
of them has, and nothing where none has an amount. A user has what the user's problems are worth, each problem once, however
often it was solved. -/

namespace JudgeStats

namespace Statistic

section Groups
variable {ρ κ α : Type} [Ord κ] [Std.TransOrd κ] [Std.LawfulEqOrd κ] [BEq κ] [LawfulBEq κ] {key : ρ → κ}
  (make : κ → List ρ → α) (keyOf : α → κ) (made : ∀ k group, keyOf (make k group) = k)
include made

theorem mem_groups_iff {rows : List ρ} {row : α} :
    row ∈ (Ascending.distinct (rows.map key)).map (fun k => make k (rows.filter (key · == k))) ↔
      rows.filter (key · == keyOf row) ≠ [] ∧ row = make (keyOf row) (rows.filter (key · == keyOf row)) := by
  rw [List.mem_map]
  constructor
  · rintro ⟨k, member, rfl⟩
    obtain ⟨item, inside, rfl⟩ := List.mem_map.mp (Ascending.mem_distinct.mp member)
    rw [made]
    exact ⟨List.ne_nil_of_mem (List.mem_filter.mpr ⟨inside, beq_self_eq_true _⟩), rfl⟩
  · rintro ⟨some, whole⟩
    obtain ⟨item, inside⟩ := List.exists_mem_of_ne_nil _ some
    obtain ⟨among, same⟩ := List.mem_filter.mp inside
    exact ⟨keyOf row, Ascending.mem_distinct.mpr (List.mem_map.mpr ⟨item, among, beq_iff_eq.mp same⟩), whole.symm⟩

end Groups

/-- The highest of the amounts that there are, or none if there are none. -/
def IsHighest (among : Float → Prop) : Option Float → Prop
  | some highest => among highest ∧ ∀ amount, among amount → amount ≤ highest
  | none => ∀ amount, ¬ among amount

theorem isHighest_highest? {amounts : List Float} (saved : ∀ amount ∈ amounts, Amount.IsSaved amount) :
    IsHighest (· ∈ amounts) (highest? amounts) := by
  have decides : ∀ a ∈ amounts, ∀ b ∈ amounts, decide (b < a) = true ↔ -Amount.rank a < -Amount.rank b := by
    intro a member b inside
    rw [decide_eq_true_iff, (saved b inside).lt_iff (saved a member), Int.neg_lt_neg_iff]
  cases found : highest? amounts with
  | none =>
    rw [best?_eq_none_iff.mp found]
    exact fun _ => List.not_mem_nil
  | some highest =>
    have inside := mem_of_best? found
    refine ⟨inside, fun amount member => ?_⟩
    have below := score_le_of_best? (fun amount => -Amount.rank amount) decides found amount member
    exact (saved amount member).le_of_rank_le (saved highest inside) (Int.neg_le_neg_iff.mp below)

section Points
variable {submissions : List Submission}

theorem map_problem_mostPoints (submissions : List Submission) :
    (mostPoints submissions).map (·.problem) = Ascending.distinct (submissions.map (·.problem)) := by
  rw [mostPoints, List.map_map]
  exact List.map_id _

theorem mem_mostPoints_iff {row : ProblemPoint} : row ∈ mostPoints submissions ↔
    (∃ submission ∈ submissions, submission.problem = row.problem) ∧
      row.point = highest? ((submissions.filter (·.problem == row.problem)).filterMap (·.point)) := by
  let most (problem : String) (group : List Submission) : ProblemPoint := ⟨problem, highest? (group.filterMap (·.point))⟩
  refine (mem_groups_iff most ProblemPoint.problem fun _ _ => rfl).trans (and_congr ?_ ?_)
  · simp [List.filter_eq_nil_iff]
  · exact ⟨congrArg ProblemPoint.point, fun same => congrArg (ProblemPoint.mk row.problem) same⟩

theorem isHighest_of_mem_mostPoints (saved : ∀ submission ∈ submissions, ∀ amount, submission.point = some amount →
      Amount.IsSaved amount) {row : ProblemPoint} (member : row ∈ mostPoints submissions) :
    IsHighest (fun amount => ∃ submission ∈ submissions, submission.problem = row.problem ∧ submission.point = some amount)
      row.point := by
  have amounts (amount : Float) : amount ∈ (submissions.filter (·.problem == row.problem)).filterMap (·.point) ↔
      ∃ submission ∈ submissions, submission.problem = row.problem ∧ submission.point = some amount := by
    simp only [List.mem_filterMap, List.mem_filter, beq_iff_eq, and_assoc]
  rw [(mem_mostPoints_iff.mp member).2]
  simp only [← amounts]
  apply isHighest_highest?
  intro amount inside
  obtain ⟨submission, among, _, point⟩ := (amounts amount).mp inside
  exact saved submission among amount point

end Points

section Sums
variable {points : List ProblemPoint} {problem : String} {amount : Float} {submissions : List Submission}

theorem pointOf?_eq_some_iff (ordered : Ascending Schema.key points) :
    pointOf? points problem = some amount ↔ ⟨problem, some amount⟩ ∈ points := by
  rw [pointOf?, Option.bind_eq_some_iff]
  constructor
  · rintro ⟨⟨other, point⟩, found, same⟩
    have named := List.find?_some found
    obtain rfl : other = problem := beq_iff_eq.mp named
    obtain rfl : point = some amount := same
    exact List.mem_of_find?_eq_some found
  · intro member
    refine ⟨⟨problem, some amount⟩, ?_, rfl⟩
    have present : (points.find? (·.problem == problem)).isSome :=
      List.find?_isSome.mpr ⟨_, member, beq_self_eq_true problem⟩
    obtain ⟨row, found⟩ := Option.isSome_iff_exists.mp present
    have named := List.find?_some found
    have same : row.problem = problem := beq_iff_eq.mp named
    rw [found, List.inj_on_of_nodup_map ordered.nodup_keys (List.mem_of_find?_eq_some found) member (congrArg Key.text same)]

theorem mem_pointsByUser_iff {row : PointSum} : row ∈ pointsByUser points submissions ↔
    (∃ submission ∈ submissions, submission.user = row.user) ∧ row.total =
      ((Ascending.distinct ((submissions.filter (·.user == row.user)).map (·.problem))).filterMap
        (pointOf? points)).foldl (· + ·) 0.0 := by
  let sum (user : String) (group : List Submission) : PointSum :=
    ⟨user, ((Ascending.distinct (group.map (·.problem))).filterMap (pointOf? points)).foldl (· + ·) 0.0⟩
  refine (mem_groups_iff sum PointSum.user fun _ _ => rfl).trans (and_congr ?_ ?_)
  · simp [List.filter_eq_nil_iff]
  · exact ⟨congrArg PointSum.total, fun same => congrArg (PointSum.mk row.user) same⟩

theorem map_user_pointsByUser (points : List ProblemPoint) (submissions : List Submission) :
    (pointsByUser points submissions).map (·.user) = Ascending.distinct (submissions.map (·.user)) := by
  rw [pointsByUser, List.map_map]
  exact List.map_id _

end Sums

end Statistic

end JudgeStats
