import JudgeStats.Proofs.Rewriting

/-! A run is a row of transactions, whatever operations they belong to. Each operation that was done answers with the rows
told of its own tables. -/

namespace JudgeStats

def Derived.operation : Derived → Operation
  | acceptedCount => .acceptedCount
  | solver => .solverCount
  | ratedPointSum => .ratedPointSums
  | languageCount => .languageCount
  | great _ => .greatSubmissions
  | greatCount _ => .greatCounts
  | points => .problemPoints

/-- The tables that a log tells of, each with the number of rows told of it. -/
def LogEntry.record? : LogEntry → Option (Derived × Nat)
  | rebuilt table rows => some (table, rows)
  | finished _ | failed _ | started _ => none

def records (log : List LogEntry) : List (Derived × Nat) :=
  log.filterMap LogEntry.record?

theorem records_ofCount (counts : List (Derived × Nat)) : records (counts.map .ofCount) = counts := by
  rw [records, List.filterMap_map]
  exact List.filterMap_some

theorem records_append (first later : List LogEntry) : records (first ++ later) = records first ++ records later :=
  List.filterMap_append

namespace Operation

/-- The rows told of all tables of an operation together. -/
def told (operation : Operation) (counts : List (Derived × Nat)) : Nat :=
  total ((counts.filter (·.1.operation == operation)).map (·.2))

theorem mem_transactions_iff {operation : Operation} {table : Derived} :
    table ∈ operation.transactions.flatten ↔ table.operation = operation := by
  rcases table with _ | _ | _ | _ | (_ | _ | _) | (_ | _ | _) | _ <;> cases operation <;> decide

/-- No table of an operation is computed from one of its tables. -/
theorem unread {target table : Derived} (same : target.operation = table.operation) : .derived target ∉ table.reads := by
  have all : ∀ target ∈ Derived.all, ∀ table ∈ Derived.all, target.operation = table.operation →
      Table.derived target ∉ table.reads := by decide
  exact all target (Derived.mem_all target) table (Derived.mem_all table) same

theorem nodup_own (operation : Operation) : operation.transactions.flatten.Nodup := by
  cases operation <;> decide

theorem selected_sublist (only : Option (List String)) : (selected only).Sublist all := by
  cases only with
  | none => exact List.Sublist.refl _
  | some names => exact List.filter_sublist

theorem told_append (operation : Operation) (first later : List (Derived × Nat)) :
    operation.told (first ++ later) = operation.told first + operation.told later := by
  rw [told, List.filter_append, List.map_append, total_append]
  rfl

theorem told_of_own {operation : Operation} {counts : List (Derived × Nat)}
    (own : ∀ count ∈ counts, count.1.operation = operation) : operation.told counts = total (counts.map (·.2)) := by
  rw [told, List.filter_eq_self.mpr]
  intro count member
  exact beq_iff_eq.mpr (own count member)

theorem told_of_other {operation : Operation} {counts : List (Derived × Nat)}
    (other : ∀ count ∈ counts, count.1.operation ≠ operation) : operation.told counts = 0 := by
  rw [told, List.filter_eq_nil_iff.mpr]
  · rfl
  · intro count member same
    exact other count member (beq_iff_eq.mp same)

end Operation

namespace Store
variable {settings : Settings} {store : Store}

theorem commit_clean (tables : List Derived) (store : Store)
    (failed : (commit settings tables store).result.isOk = false) :
    (commit settings tables store).state = store ∧ (commit settings tables store).log = [] := by
  rcases commit_cases settings tables store with ⟨error, stopped⟩ | committed
  · rw [stopped]
    exact ⟨rfl, rfl⟩
  · rw [committed] at failed
    cases failed

/-- An operation with one table replaces it, or leaves everything as it was. -/
theorem run_single {operation : Operation} {table : Derived} (single : operation.transactions = [[table]]) :
    operation.run settings store = match store.fault? settings table with
      | some error => .failed store error
      | none => ⟨store.rewrite settings table, [.rebuilt table (table.rebuild settings store).length],
          .ok (table.rebuild settings store).length⟩ := by
  rw [Operation.run, single, Outcome.each, commit, replaceAll, replace_eq]
  cases store.fault? settings table <;> rfl

theorem operation_of_mem_counts {operation : Operation} {count : Derived × Nat}
    (member : count ∈ store.counts settings operation.transactions.flatten) : count.1.operation = operation := by
  have inside := List.mem_map_of_mem (f := Prod.fst) member
  rw [map_fst_counts] at inside
  exact Operation.mem_transactions_iff.mp inside

theorem operation_mem_of_mem_counts {operations : List Operation} {count : Derived × Nat}
    (member : count ∈ store.counts settings (operations.flatMap Operation.transactions).flatten) :
    count.1.operation ∈ operations := by
  have inside := List.mem_map_of_mem (f := Prod.fst) member
  rw [map_fst_counts, List.mem_flatten] at inside
  obtain ⟨tables, chosen, held⟩ := inside
  obtain ⟨operation, among, part⟩ := List.mem_flatMap.mp chosen
  rw [Operation.mem_transactions_iff.mp (List.mem_flatten.mpr ⟨tables, part, held⟩)]
  exact among

theorem run_ok {operation : Operation} {count : Nat} (finished : (operation.run settings store).result = .ok count) :
    (operation.run settings store).state = store.rewriteAll settings operation.transactions.flatten ∧
    (operation.run settings store).log = (store.counts settings operation.transactions.flatten).map .ofCount ∧
    count = operation.told (store.counts settings operation.transactions.flatten) := by
  unfold Operation.run Outcome.map at finished ⊢
  cases all : (Outcome.each (commit settings) operation.transactions store).result with
  | error error => rw [all] at finished; cases finished
  | ok counts =>
    rw [all] at finished
    cases finished
    obtain ⟨state, log, same⟩ := each_commit_ok all
    refine ⟨state, log, same.trans ?_⟩
    rw [Operation.told_of_own fun _ => operation_of_mem_counts]

/-- Tables that are not computed from each other are counted as if each was replaced first. -/
theorem counts_of_unread {tables : List Derived} (apart : tables.Pairwise fun target table => .derived target ∉ table.reads) :
    store.counts settings tables = tables.map fun table => (table, (table.rebuild settings store).length) := by
  induction tables generalizing store with
  | nil => rfl
  | cons first rest ih =>
    obtain ⟨unread, others⟩ := List.pairwise_cons.mp apart
    rw [counts, ih others, List.map_cons]
    congr 1
    apply List.map_congr_left
    intro table member
    have same : table.rebuild settings (store.rewriteAll settings [first]) = table.rebuild settings store :=
      rebuild_rewriteAll (List.forall_mem_singleton.mpr (unread table member))
    exact congrArg (fun rows => (table, rows.length)) same

/-- The rows of all tables of an operation are counted. -/
theorem run_count {operation : Operation} {count : Nat} (finished : (operation.run settings store).result = .ok count) :
    count = total (operation.transactions.flatten.map fun table => (table.rebuild settings store).length) := by
  have apart : operation.transactions.flatten.Pairwise fun target table => .derived target ∉ table.reads := by
    apply List.Pairwise.imp_of_mem _ (Operation.nodup_own operation)
    intro target table member inside _
    apply Operation.unread
    rw [Operation.mem_transactions_iff.mp member, Operation.mem_transactions_iff.mp inside]
  rw [(run_ok finished).2.2, Operation.told_of_own fun _ => operation_of_mem_counts, counts_of_unread apart, List.map_map]
  rfl

theorem run_state {operation : Operation} (finished : (operation.run settings store).result.isOk) :
    (operation.run settings store).state = store.rewriteAll settings operation.transactions.flatten := by
  cases result : (operation.run settings store).result with
  | error error => rw [result] at finished; cases finished
  | ok count => exact (run_ok result).1

/-- None of the tables of an operation is computed from another of them, so all are rewritten from the same store. -/
theorem get_rewriteAll_own {operation : Operation} {table : Derived} (own : table.operation = operation) :
    (store.rewriteAll settings operation.transactions.flatten).get (.derived table) =
      some (table.rewritten settings store) := by
  obtain ⟨done, later, split⟩ := List.append_of_mem (Operation.mem_transactions_iff.mpr own)
  have single := Operation.nodup_own operation
  rw [split] at single
  obtain ⟨apart, _⟩ := List.nodup_cons.mp (List.nodup_middle.mp single)
  rw [List.mem_append, not_or] at apart
  have foreign : ∀ target ∈ done, .derived target ∉ table.reads := by
    intro target member
    apply Operation.unread
    rw [own]
    exact Operation.mem_transactions_iff.mp (split ▸ List.mem_append_left _ member)
  rw [split, get_rewriteAll apart.2, rewritten_rewriteAll foreign apart.1]

theorem get_run {operation : Operation} (finished : (operation.run settings store).result.isOk) {table : Derived}
    (own : table.operation = operation) :
    (operation.run settings store).state.get (.derived table) = some (table.rewritten settings store) := by
  rw [run_state finished]
  exact get_rewriteAll_own own

/-- Only the points keep rows of before, so every other table of the operation holds its rebuild. -/
theorem get_run_of_whole {operation : Operation} (finished : (operation.run settings store).result.isOk) {table : Derived}
    (own : table.operation = operation) (whole : table ≠ .points) :
    (operation.run settings store).state.get (.derived table) = some (table.rebuild settings store) := by
  rw [get_run finished own, Derived.rewritten_eq_rebuild _ _ whole]

theorem get_run_of_ne {operation : Operation} (finished : (operation.run settings store).result.isOk) {table : Table}
    (other : ∀ target : Derived, target.operation = operation → table ≠ .derived target) :
    (operation.run settings store).state.get table = store.get table := by
  rw [run_state finished]
  apply get_rewriteAll_of_ne
  intro target member
  exact other target (Operation.mem_transactions_iff.mp member)

/-- A run of different operations that succeeds answers for each of them with the rows told of its own tables. -/
theorem each_run_ok {operations : List Operation} {answers : List (Operation × Nat)} (different : operations.Nodup)
    (finished : (Outcome.each (fun operation current => (operation.run settings current).map (operation, ·))
      operations store).result = .ok answers) :
    answers = operations.map fun operation =>
      (operation, operation.told (store.counts settings (operations.flatMap Operation.transactions).flatten)) := by
  induction operations generalizing store answers with
  | nil => cases finished; rfl
  | cons operation rest ih =>
    obtain ⟨fresh, others⟩ := List.nodup_cons.mp different
    obtain ⟨answer, remaining, head, tail, rfl⟩ := Outcome.each_cons_ok finished
    obtain ⟨count, counted, rfl⟩ : ∃ count, (operation.run settings store).result = .ok count ∧
        answer = (operation, count) := by
      cases result : (operation.run settings store).result with
      | error error => simp only [Outcome.map, result] at head; cases head
      | ok count => simp only [Outcome.map, result] at head; cases head; exact ⟨count, rfl, rfl⟩
    obtain ⟨state, _, same⟩ := run_ok counted
    have left : ((operation.run settings store).map (operation, ·)).state =
        store.rewriteAll settings operation.transactions.flatten := state
    rw [left] at tail
    rw [List.map_cons, List.flatMap_cons, List.flatten_append, counts_append, ih others tail, same]
    congr 1
    · have foreign : operation.told ((store.rewriteAll settings operation.transactions.flatten).counts settings
          (rest.flatMap Operation.transactions).flatten) = 0 := by
        apply Operation.told_of_other
        intro count member clash
        exact fresh (clash ▸ operation_mem_of_mem_counts member)
      rw [Operation.told_append, foreign, Nat.add_zero]
    · apply List.map_congr_left
      intro later member
      have foreign : later.told (store.counts settings operation.transactions.flatten) = 0 := by
        apply Operation.told_of_other
        intro count inside clash
        exact fresh (operation_of_mem_counts inside ▸ clash ▸ member)
      rw [Operation.told_append, foreign, Nat.zero_add]

/-- A run of operations does their transactions in a row. -/
theorem each_run_effect (settings : Settings) (operations : List Operation) (store : Store) : Outcome.SameEffect
    (Outcome.each (fun operation current => (operation.run settings current).map (operation, ·)) operations store)
    (Outcome.each (commit settings) (operations.flatMap Operation.transactions) store) := by
  have split : (fun (operation : Operation) current => (operation.run settings current).map (operation, ·)) =
      fun operation current => (Outcome.each (commit settings) operation.transactions current).map
        ((operation, ·) ∘ total) := by
    funext operation current
    exact Outcome.map_map _ _ _
  rw [split]
  exact Outcome.each_flatMap _ _ (fun operation => (operation, ·) ∘ total) _ _

/-- Beyond its transactions a run only tells that it has come to its end. -/
theorem runAll_effect (settings : Settings) (operations : List Operation) (store : Store) :
    let flat := Outcome.each (commit settings) (operations.flatMap Operation.transactions) store
    (store.runAll settings operations).state = flat.state ∧
    records (store.runAll settings operations).log = records flat.log ∧
    (store.runAll settings operations).result.isOk = flat.result.isOk := by
  obtain ⟨state, log, result⟩ := each_run_effect settings operations store
  intro flat
  cases run : (Outcome.each (fun operation current => (operation.run settings current).map (operation, ·))
      operations store).result with
  | error error =>
    rw [run] at result
    rw [runAll, Outcome.andThen_of_error run]
    exact ⟨state, congrArg records log, result⟩
  | ok answers =>
    rw [run] at result
    rw [runAll, Outcome.andThen_of_ok run]
    refine ⟨state, ?_, result⟩
    rw [records_append, log]
    exact List.append_nil _

theorem runAll_ok {operations : List Operation} {answers : List (Operation × Nat)} (different : operations.Nodup)
    (finished : (store.runAll settings operations).result = .ok answers) :
    answers = operations.map fun operation =>
      (operation, operation.told (records (store.runAll settings operations).log)) := by
  obtain ⟨_, told, result⟩ := runAll_effect settings operations store
  have whole : (Outcome.each (commit settings) (operations.flatMap Operation.transactions) store).result.isOk := by
    rw [← result, finished]
    rfl
  rw [told, (each_commit_effect whole).2, records_ofCount]
  apply each_run_ok different
  cases run : (Outcome.each (fun operation current => (operation.run settings current).map (operation, ·))
      operations store).result with
  | error error => rw [runAll, Outcome.andThen_of_error run] at finished; cases finished
  | ok values => rw [runAll, Outcome.andThen_of_ok run] at finished; exact finished

end Store

end JudgeStats
