import JudgeStats.Proofs.OpenStores

/-! A full run on a store that has all tables and denies nothing. Where the sums of rated points do not stand in its way it
replaces every table once. What a table gets then depends on the store at the start alone, except that the counts of best
submissions are made from the tables of best submissions of the same run. -/

namespace JudgeStats

namespace Derived

def order : List Derived :=
  (Operation.all.flatMap Operation.transactions).flatten

theorem mem_order (table : Derived) : table ∈ order := by
  have whole : ∀ table ∈ all, table ∈ order := by decide
  exact whole table (mem_all table)

theorem nodup_order : order.Nodup := by
  decide

/-- The table that a full run replaces before it makes this one from it. -/
def awaits : Derived → Option Derived
  | greatCount measure => some (great measure)
  | acceptedCount | solver | ratedPointSum | languageCount | great _ | points => none

/-- A table that is read after it was replaced is one that is awaited, and what is awaited does not come late. -/
theorem order_pairwise : order.Pairwise fun earlier later =>
    (.derived earlier ∈ later.reads → later.awaits = some earlier) ∧ earlier.awaits ≠ some later := by
  decide

/-- The rows of a rebuild at its turn in a full run. -/
def fresh (settings : Settings) (store : Store) : (table : Derived) → List table.Row
  | greatCount measure =>
    Statistic.problemsByUser
      (Statistic.named ((great measure).rebuild settings store) (store.rows .submissions))
  | table => table.rebuild settings store

theorem fresh_of_awaits {settings : Settings} {store : Store} {table : Derived} (none : table.awaits = none) :
    table.fresh settings store = table.rebuild settings store := by
  cases table <;> first | rfl | cases none

/-- What a table holds after a full run. -/
def settled (settings : Settings) (store : Store) (table : Derived) : List table.Row :=
  Ascending.putAll Schema.key (table.fresh settings store) ((store.rows (.derived table)).filter (!table.isStale ·))

end Derived

namespace Store
variable {settings : Settings} {store : Store} {done later : List Derived} {table : Derived}

section Turn
variable (split : Derived.order = done ++ table :: later)
include split

private theorem apart_of_order : table ∉ done ∧ table ∉ later := by
  have single := Derived.nodup_order
  rw [split] at single
  have apart := (List.nodup_cons.mp (List.nodup_middle.mp single)).1
  rw [List.mem_append, not_or] at apart
  exact apart

private theorem before_of_order {earlier : Derived} (member : earlier ∈ done) :
    .derived earlier ∈ table.reads → table.awaits = some earlier := by
  have ordered := Derived.order_pairwise
  rw [split] at ordered
  exact ((List.pairwise_append.mp ordered).2.2 earlier member table List.mem_cons_self).1

private theorem awaited_of_order {earlier : Derived} (awaited : table.awaits = some earlier) : earlier ∈ done := by
  have ordered := Derived.order_pairwise
  have inside := Derived.mem_order earlier
  rw [split] at ordered inside
  have late : ∀ other ∈ later, table.awaits ≠ some other := fun other member =>
    (List.rel_of_pairwise_cons (List.pairwise_append.mp ordered).2.1 member).2
  have own : earlier ≠ table := by
    rintro rfl
    cases earlier <;> cases awaited
  rcases List.mem_append.mp inside with before | rest
  · exact before
  · rcases List.mem_cons.mp rest with same | after
    · exact absurd same own
    · exact absurd awaited (late earlier after)

private theorem rebuild_of_order (free : table.awaits = none) :
    table.rebuild settings (store.rewriteAll settings done) = table.rebuild settings store := by
  apply rebuild_rewriteAll
  intro target member needed
  have awaited := before_of_order split member needed
  rw [free] at awaited
  cases awaited

end Turn

/-- At its turn in a full run a table is rebuilt from the store at the start, and the counts of best submissions from the
best submissions that the same run has found. -/
theorem rebuild_at_turn (split : Derived.order = done ++ table :: later) :
    table.rebuild settings (store.rewriteAll settings done) = table.fresh settings store := by
  cases awaited : table.awaits with
  | none => rw [rebuild_of_order split awaited, Derived.fresh_of_awaits awaited]
  | some earlier =>
    cases table with
    | greatCount measure =>
      -- The table that is awaited was itself rebuilt from the start, and nothing has replaced it since.
      cases awaited
      obtain ⟨first, last, rfl⟩ := List.append_of_mem (awaited_of_order split rfl)
      have turn : Derived.order = first ++ .great measure :: (last ++ .greatCount measure :: later) := by
        rw [split, List.append_assoc, List.cons_append]
      have once : Derived.great measure ∉ last := fun member =>
        (apart_of_order turn).2 (List.mem_append_left _ member)
      have found : (store.rewriteAll settings (first ++ .great measure :: last)).rows (.derived (.great measure)) =
          (Derived.great measure).rebuild settings store := by
        rw [rows, get_rewriteAll once, Derived.rewritten_eq_rebuild _ _ (by simp), rebuild_of_order turn rfl]
        rfl
      have submissions : (store.rewriteAll settings (first ++ .great measure :: last)).rows .submissions =
          store.rows .submissions :=
        rows_rewriteAll_of_ne fun target _ => Table.noConfusion
      change Statistic.problemsByUser (Statistic.named _ _) = Statistic.problemsByUser (Statistic.named _ _)
      rw [found, submissions]
    | _ => cases awaited

theorem get_rewriteAll_order {tables rest : List Derived} (split : Derived.order = tables ++ rest) (member : table ∈ tables) :
    (store.rewriteAll settings tables).get (.derived table) = some (table.settled settings store) := by
  obtain ⟨done, later, rfl⟩ := List.append_of_mem member
  rw [List.append_assoc, List.cons_append] at split
  obtain ⟨before, after⟩ := apart_of_order split
  have kept : (store.rewriteAll settings done).rows (.derived table) = store.rows (.derived table) :=
    rows_rewriteAll_of_ne fun target member same => before (by cases same; exact member)
  rw [get_rewriteAll fun inside => after (List.mem_append_left _ inside), Derived.rewritten, rebuild_at_turn split, kept]
  rfl

theorem counts_order (settings : Settings) (store : Store) :
    store.counts settings Derived.order = Derived.order.map fun table => (table, (table.fresh settings store).length) := by
  have counted : ∀ count ∈ store.counts settings Derived.order,
      count = (count.1, (count.1.fresh settings store).length) := by
    rintro ⟨table, count⟩ member
    obtain ⟨done, later, split, rfl⟩ := mem_counts_iff.mp member
    rw [rebuild_at_turn split]
  have listed : store.counts settings Derived.order = ((store.counts settings Derived.order).map Prod.fst).map
      fun table => (table, (table.fresh settings store).length) := by
    rw [List.map_map]
    exact (List.map_id _).symm.trans (List.map_congr_left counted)
  rw [listed, map_fst_counts]

theorem defect?_at_turn (split : Derived.order = done ++ table :: later) :
    table.defect? settings (store.rewriteAll settings done) = table.defect? settings store := by
  by_cases rated : table = .ratedPointSum
  · apply Derived.defect?_congr
    intro needed member
    apply rows_rewriteAll_of_ne
    rintro target inside rfl
    have awaited := before_of_order split inside member
    rw [rated] at awaited
    cases awaited
  · rw [Derived.defect?_of_ne rated, Derived.defect?_of_ne rated]

/-- The tables that a full run replaces: all of them, or those before the sums of rated points. -/
def replacedTables (settings : Settings) (store : Store) : List Derived :=
  if (Derived.ratedPointSum.defect? settings store).isSome then [.acceptedCount, .solver] else Derived.order

theorem replacedTables_append (settings : Settings) (store : Store) :
    ∃ rest, Derived.order = store.replacedTables settings ++ rest := by
  unfold replacedTables
  split
  · exact ⟨Derived.order.drop 2, rfl⟩
  · exact ⟨[], rfl⟩

def refreshed (settings : Settings) (store : Store) : Store :=
  store.rewriteAll settings (store.replacedTables settings)

theorem get_refreshed (settings : Settings) (store : Store) (table : Derived) :
    (store.refreshed settings).get (.derived table) =
      if table ∈ store.replacedTables settings then some (table.settled settings store) else store.get (.derived table) := by
  by_cases member : table ∈ store.replacedTables settings
  · rw [if_pos member]
    obtain ⟨rest, split⟩ := replacedTables_append settings store
    exact get_rewriteAll_order split member
  · rw [if_neg member]
    apply get_rewriteAll_of_ne
    rintro target inside ⟨⟩
    exact member inside

theorem rows_refreshed {table : Table} (source : ∀ derived, table ≠ .derived derived) :
    (store.refreshed settings).rows table = store.rows table :=
  rows_rewriteAll_of_ne fun target _ => source target

theorem ratedPointSum_mem_replacedTables : Derived.ratedPointSum ∈ store.replacedTables settings ↔
    Derived.ratedPointSum.defect? settings store = none := by
  unfold replacedTables
  cases Derived.ratedPointSum.defect? settings store with
  | none => exact ⟨fun _ => rfl, fun _ => Derived.mem_order _⟩
  | some cause => simp

section Run
variable (free : store.Open) (positive : 0 < settings.batchSize)
include free positive

private theorem each_commit_of_sound (sound : Derived.ratedPointSum.defect? settings store = none)
    {transactions rest : List (List Derived)} (split : Operation.all.flatMap Operation.transactions = transactions ++ rest) :
    (Outcome.each (commit settings) transactions store).result.isOk := by
  apply free.each_commit_isOk positive
  intro done table later flat
  have whole : Derived.order = done ++ table :: (later ++ rest.flatten) := by
    rw [Derived.order, split, List.flatten_append, flat, List.append_assoc, List.cons_append]
  rw [defect?_at_turn whole]
  by_cases rated : table = .ratedPointSum
  · rw [rated, sound]
  · exact Derived.defect?_of_ne rated

/-- A full run fails if the sums of rated points cannot be written, and then stops before them. -/
theorem updateAll_eq : (store.updateAll settings none).state = store.refreshed settings ∧
    (store.updateAll settings none).result.isOk = (Derived.ratedPointSum.defect? settings store).isNone := by
  obtain ⟨state, _, result⟩ := runAll_effect settings Operation.all store
  change (store.runAll settings Operation.all).state = _ ∧ (store.runAll settings Operation.all).result.isOk = _
  rw [state, result, refreshed, replacedTables]
  cases defect : Derived.ratedPointSum.defect? settings store with
  | none =>
    have finished := each_commit_of_sound free positive defect (List.append_nil _).symm
    exact ⟨(each_commit_effect finished).1, finished⟩
  | some cause =>
    -- The sums are third: two transactions succeed, and the next is refused in the store that they leave.
    have start : (Outcome.each (commit settings) [[.acceptedCount], [.solver]] store).result.isOk := by
      apply free.each_commit_isOk positive
      intro done table later flat
      have early : ∀ table ∈ [Derived.acceptedCount, .solver], table ≠ .ratedPointSum := by decide
      apply Derived.defect?_of_ne
      apply early
      change [Derived.acceptedCount, .solver] = _ at flat
      rw [flat]
      exact List.mem_append_right _ List.mem_cons_self
    have left := (each_commit_effect start).1
    have third : Derived.order = [.acceptedCount, .solver] ++ .ratedPointSum :: Derived.order.drop 3 := rfl
    have turn : Derived.ratedPointSum.defect? settings (store.rewriteAll settings [.acceptedCount, .solver]) = some cause :=
      (defect?_at_turn third).trans defect
    have refused := (free.rewriteAll [.acceptedCount, .solver]).commit_refused positive turn []
    have split : Operation.all.flatMap Operation.transactions = [[.acceptedCount], [.solver]] ++
        [.ratedPointSum] :: (Operation.all.flatMap Operation.transactions).drop 3 := rfl
    rw [split, Outcome.each_append]
    cases first : (Outcome.each (commit settings) [[.acceptedCount], [.solver]] store).result with
    | error error => rw [first] at start; cases start
    | ok counts =>
      rw [Outcome.andThen_of_ok first, left]
      simp only [Outcome.each, List.flatten_cons, List.flatten_nil, List.append_nil, List.singleton_append]
      rw [refused]
      exact ⟨rfl, rfl⟩

/-- A full run that succeeds answers for each operation with the rows that it has written. -/
theorem updateAll_ok (sound : Derived.ratedPointSum.defect? settings store = none) :
    (store.updateAll settings none).result = .ok (Operation.all.map fun operation =>
      (operation, operation.told (Derived.order.map fun table => (table, (table.fresh settings store).length)))) := by
  have succeeded : (store.updateAll settings none).result.isOk := by
    rw [(updateAll_eq free positive).2, sound]
    rfl
  obtain ⟨_, log, _⟩ := runAll_effect settings Operation.all store
  have told : records (store.runAll settings Operation.all).log =
      Derived.order.map fun table => (table, (table.fresh settings store).length) := by
    rw [log, (each_commit_effect (each_commit_of_sound free positive sound (List.append_nil _).symm)).2, records_ofCount]
    exact counts_order settings store
  change (store.runAll settings Operation.all).result = _
  change (store.runAll settings Operation.all).result.isOk at succeeded
  cases finished : (store.runAll settings Operation.all).result with
  | error error => rw [finished] at succeeded; cases succeeded
  | ok answers => rw [runAll_ok (by decide) finished, told]

end Run

end Store

end JudgeStats
