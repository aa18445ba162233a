/-! Lists kept in ascending order of a key, each key at most once. Every table is such a list, so two tables with the
same rows are the same list, whatever the order in which the rows came. -/

namespace JudgeStats

variable {ρ κ : Type} [Ord κ]

/-- Each row's key lies before the keys of the rows after it. -/
def Ascending (key : ρ → κ) (rows : List ρ) : Prop :=
  rows.Pairwise fun first later => compare (key first) (key later) = .lt

namespace Ascending

/-- Adds a row at its place. A row with the same key gives way to it. -/
def put (key : ρ → κ) (row : ρ) : List ρ → List ρ
  | [] => [row]
  | next :: rest =>
    match compare (key row) (key next) with
    | .lt => row :: next :: rest
    | .eq => row :: rest
    | .gt => next :: put key row rest

/-- The values of a list, ascending and each once. -/
def distinct (values : List κ) : List κ :=
  values.foldr (put id) []

theorem mem_of_mem_put {key : ρ → κ} {row member : ρ} {rows : List ρ} (inside : member ∈ put key row rows) :
    member = row ∨ member ∈ rows := by
  induction rows with
  | nil => exact .inl (by simpa [put] using inside)
  | cons next rest ih =>
    rw [put] at inside
    split at inside
    · simpa using inside
    · rcases List.mem_cons.mp inside with same | later
      · exact .inl same
      · exact .inr (List.mem_cons_of_mem _ later)
    · rcases List.mem_cons.mp inside with same | later
      · exact .inr (same ▸ List.mem_cons_self)
      · exact (ih later).imp_right (List.mem_cons_of_mem _)

theorem put_ascending [Std.TransOrd κ] {key : ρ → κ} {rows : List ρ} (ordered : Ascending key rows) (row : ρ) :
    Ascending key (put key row rows) := by
  induction rows with
  | nil => exact List.pairwise_singleton ..
  | cons next rest ih =>
    obtain ⟨before, tail⟩ := List.pairwise_cons.mp ordered
    rw [put]
    split
    next less =>
      exact List.pairwise_cons.mpr ⟨fun later inside => (List.mem_cons.mp inside).elim (fun same => same ▸ less)
        (fun deep => Std.TransCmp.lt_trans less (before later deep)), ordered⟩
    next same =>
      exact List.pairwise_cons.mpr ⟨fun later inside => Std.TransCmp.lt_of_eq_of_lt same (before later inside), tail⟩
    next more =>
      refine List.pairwise_cons.mpr ⟨fun later inside => ?_, ih tail⟩
      rcases mem_of_mem_put inside with same | deep
      · exact same ▸ Std.OrientedCmp.lt_of_gt more
      · exact before later deep

theorem distinct_ascending [Std.TransOrd κ] (values : List κ) : Ascending id (distinct values) := by
  induction values with
  | nil => exact .nil
  | cons value rest ih => exact put_ascending ih value

theorem mem_distinct [Std.TransOrd κ] [Std.LawfulEqOrd κ] {value : κ} {values : List κ} :
    value ∈ distinct values ↔ value ∈ values := by
  have put_id (row : κ) (rows : List κ) : value ∈ put id row rows ↔ value = row ∨ value ∈ rows := by
    refine ⟨mem_of_mem_put, fun inside => ?_⟩
    induction rows with
    | nil => simpa [put] using inside
    | cons next rest ih =>
      rw [put]
      split
      · simpa using inside
      next same =>
        have equal : row = next := Std.LawfulEqOrd.eq_of_compare same
        simpa [equal] using inside
      · rcases inside with same | inside
        · exact List.mem_cons_of_mem _ (ih (.inl same))
        · rcases List.mem_cons.mp inside with same | deep
          · exact same ▸ List.mem_cons_self
          · exact List.mem_cons_of_mem _ (ih (.inr deep))
  induction values with
  | nil => simp [distinct]
  | cons first rest ih =>
    rw [distinct, List.foldr_cons, put_id, List.mem_cons]
    exact or_congr_right ih

end Ascending

end JudgeStats
