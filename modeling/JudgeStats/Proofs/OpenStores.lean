import JudgeStats.Proofs.RefreshRuns

/-! A store that has all tables and denies nothing. There a table is replaced unless its sources cannot be used or one of
its new rows lacks something. Both can happen to the sums of rated points alone. -/

namespace JudgeStats

/-- Every table is there and nothing is denied. -/
structure Store.Open (store : Store) : Prop where
  present : ∀ table, (store.get table).isSome
  permitted : store.denials = []

namespace Derived

/-- What keeps the rows of a rebuild from being written to a store that refuses nothing. -/
def defect? (settings : Settings) (store : Store) (table : Derived) : Option StoreError :=
  (table.sourceError? settings store).or
    (((table.rebuild settings store).findSome? table.missing?).map (.missing (.derived table)))

theorem defect?_of_ne {settings : Settings} {store : Store} {table : Derived} (different : table ≠ ratedPointSum) :
    table.defect? settings store = none := by
  have complete : (table.rebuild settings store).findSome? table.missing? = none := by
    apply List.findSome?_eq_none_iff.mpr
    intro row _
    cases table <;> first | rfl | exact absurd rfl different
  rw [defect?, complete]
  cases table <;> first | rfl | exact absurd rfl different

theorem defect?_congr {settings : Settings} {store other : Store} {table : Derived}
    (same : ∀ needed ∈ table.reads, store.rows needed = other.rows needed) :
    table.defect? settings store = table.defect? settings other := by
  rw [defect?, defect?, sourceError?_congr same, rebuild_congr same]

end Derived

namespace Store
variable {settings : Settings} {store : Store}

theorem Open.rewriteAll (free : store.Open) (tables : List Derived) : (store.rewriteAll settings tables).Open := by
  constructor
  · induction tables generalizing store with
    | nil => exact free.present
    | cons first rest ih =>
      apply ih
      refine ⟨fun table => ?_, (denials_set store _ _).trans free.permitted⟩
      by_cases same : table = .derived first
      · rw [same, rewrite, get_set_self]
        rfl
      · rw [rewrite, get_set_of_ne store same]
        exact free.present table
  · rw [denials_rewriteAll]
    exact free.permitted

section Write
variable (free : store.Open)
include free

theorem Open.refusal?_eq_none (table : Table) (event : Event) (first : Cell) :
    store.refusal? table event first = none := by
  rw [refusal?, free.permitted]
  rfl

theorem Open.clearError?_eq_none (table : Derived) : store.clearError? table = none := by
  rw [clearError?, List.findSome?_eq_none_iff.mpr]
  · rfl
  · intro row _
    exact free.refusal?_eq_none _ _ _

theorem Open.writeError?_eq {table : Derived} {rows : List table.Row} {row : table.Row}
    (apart : table.replaces ∨ ∀ old ∈ rows, Schema.key old ≠ Schema.key row) :
    store.writeError? table rows row = (table.missing? row).map (.missing (.derived table)) := by
  simp only [writeError?, free.refusal?_eq_none, Option.map_none, Option.none_or]
  rcases apart with replaces | different
  · rw [if_pos replaces, ite_self, Option.or_none]
  · rw [if_neg, Option.or_none]
    rw [List.any_eq_true]
    rintro ⟨old, member, same⟩
    exact different old member (beq_iff_eq.mp same)

theorem Open.fault?_eq (positive : 0 < settings.batchSize) (table : Derived) :
    store.fault? settings table = (table.defect? settings store).map (.refused table) := by
  have there (tables : List Table) : tables.find? (fun needed => (store.get needed).isNone) = none := by
    apply List.find?_eq_none.mpr
    intro needed _ absent
    rw [Option.isNone_iff_eq_none] at absent
    have present := free.present needed
    rw [absent] at present
    cases present
  have obstacle : store.obstacle? settings table = (table.sourceError? settings store).map (.refused table) := by
    simp only [obstacle?, there, free.clearError?_eq_none, Option.map_none, Option.none_or, Option.or_none,
      if_neg (Int.not_le.mpr positive)]
  have apart (row : table.Row) : table.replaces ∨
      ∀ old ∈ (store.rows (.derived table)).filter (!table.isStale ·), Schema.key old ≠ Schema.key row := by
    by_cases whole : table = .points
    · exact .inl (whole ▸ rfl)
    · rw [Derived.kept_eq_nil whole]
      exact .inr fun _ member => nomatch member
  have written : store.writeError? table ((store.rows (.derived table)).filter (!table.isStale ·)) =
      fun row => (table.missing? row).map (.missing (.derived table)) :=
    funext fun row => free.writeError?_eq (apart row)
  rw [fault?, obstacle, Derived.defect?]
  simp only [written, List.map_findSome?, Option.map_or]
  rfl

theorem Open.replace_eq (positive : 0 < settings.batchSize) (table : Derived) :
    store.replace settings table = match table.defect? settings store with
      | some cause => .error (.refused table cause)
      | none => .ok (store.rewrite settings table, (table.rebuild settings store).length) := by
  rw [Store.replace_eq, free.fault?_eq positive]
  cases table.defect? settings store <;> rfl

end Write

section Commit
variable (free : store.Open) (positive : 0 < settings.batchSize)
include free positive

theorem Open.commit_refused {table : Derived} {cause : StoreError} (defect : table.defect? settings store = some cause)
    (rest : List Derived) :
    commit settings (table :: rest) store = .failed store (.refused table cause) := by
  rw [commit, replaceAll, free.replace_eq positive, defect]
  rfl

theorem Open.replaceAll_eq {tables : List Derived} (sound : ∀ done table later, tables = done ++ table :: later →
      table.defect? settings (store.rewriteAll settings done) = none) :
    replaceAll settings tables store = .ok (store.rewriteAll settings tables, store.counts settings tables) := by
  induction tables generalizing store with
  | nil => rfl
  | cons table rest ih =>
    have head : table.defect? settings store = none := sound [] table rest rfl
    rw [replaceAll, free.replace_eq positive, head]
    have tail := ih (free.rewriteAll [table]) fun done other later split => sound (table :: done) other later (by rw [split]; rfl)
    change replaceAll settings rest (store.rewrite settings table) = _ at tail
    simp only [bind, Except.bind, tail]
    rfl

theorem Open.each_commit_isOk {transactions : List (List Derived)}
    (sound : ∀ done table later, transactions.flatten = done ++ table :: later →
      table.defect? settings (store.rewriteAll settings done) = none) :
    (Outcome.each (commit settings) transactions store).result.isOk := by
  induction transactions generalizing store with
  | nil => rfl
  | cons tables rest ih =>
    rw [List.flatten_cons] at sound
    have replaced : replaceAll settings tables store =
        .ok (store.rewriteAll settings tables, store.counts settings tables) :=
      free.replaceAll_eq positive fun done table later split =>
        sound done table (later ++ rest.flatten) (by rw [split, List.append_assoc, List.cons_append])
    have committed : commit settings tables store = ⟨store.rewriteAll settings tables,
        (store.counts settings tables).map .ofCount, .ok (total ((store.counts settings tables).map (·.2)))⟩ := by
      rw [commit, replaced]
      rfl
    have tail := ih (free.rewriteAll tables) fun done table later split => by
      rw [← rewriteAll_append]
      exact sound (tables ++ done) table later (by rw [split, List.append_assoc])
    rw [Outcome.each, committed, Outcome.andThen_of_ok rfl]
    exact (Outcome.isOk_map _ _).trans tail

end Commit

end Store

end JudgeStats
