import JudgeStats.Proofs.Footprints

/-! Which operations a run does, and how it ends. Only the set of the names that it is given counts, since the order is that
of a full run and each operation is done once at most. The run ends with the last of them, or with the first that fails. -/

namespace JudgeStats

namespace Operation

theorem ofName?_eq_none_iff {name : String} : ofName? name = none ↔ ∀ operation : Operation, operation.name ≠ name := by
  rw [ofName?, List.find?_eq_none]
  constructor
  · intro nobody operation same
    exact nobody operation operation.mem_all (beq_iff_eq.mpr same)
  · intro nobody operation _ same
    exact nobody operation (beq_iff_eq.mp same)

theorem mem_unknown_iff {names : List String} {name : String} :
    name ∈ unknown (some names) ↔ name ∈ names ∧ ∀ operation : Operation, operation.name ≠ name := by
  rw [unknown, Ascending.mem_distinct, List.mem_filter, Option.isNone_iff_eq_none, ofName?_eq_none_iff]

theorem unknown_pairwise (only : Option (List String)) : (unknown only).Pairwise (· < ·) := by
  cases only with
  | none => exact .nil
  | some names =>
    refine List.Pairwise.imp ?_ (Ascending.distinct_ascending _)
    intro first later less
    exact compareOfLessAndEq_eq_lt.mp less

theorem mem_selected_iff {names : List String} {operation : Operation} :
    operation ∈ selected (some names) ↔ operation.name ∈ names := by
  rw [selected, List.mem_filter, List.contains_iff_mem]
  exact and_iff_right operation.mem_all

section Congr
variable {names others : List String} (same : ∀ name, name ∈ names ↔ name ∈ others)
include same

theorem unknown_congr : unknown (some names) = unknown (some others) := by
  rw [unknown, unknown, Ascending.distinct_congr]
  intro name
  rw [List.mem_filter, List.mem_filter, same]

theorem selected_congr : selected (some names) = selected (some others) := by
  rw [selected, selected]
  apply List.filter_congr
  intro operation _
  rw [Bool.eq_iff_iff, List.contains_iff_mem, List.contains_iff_mem, same]

end Congr

theorem unknown_eq_nil {names : List String} (known : ∀ name ∈ names, ∃ operation : Operation, operation.name = name) :
    unknown (some names) = [] := by
  rw [List.eq_nil_iff_forall_not_mem]
  intro name member
  obtain ⟨inside, nobody⟩ := mem_unknown_iff.mp member
  obtain ⟨operation, same⟩ := known name inside
  exact nobody operation same

end Operation

namespace Store
variable {settings : Settings} {store : Store}

/-- Operations that succeed one after the other, each on what the one before it has left. -/
inductive Completes (settings : Settings) :
    List Operation → Store → Store → List LogEntry → List (Operation × Nat) → Prop where
  | nil {store : Store} : Completes settings [] store store [] []
  | cons {operation : Operation} {rest : List Operation} {store last : Store} {log : List LogEntry}
      {counts : List (Operation × Nat)} {count : Nat} (first : (operation.run settings store).result = .ok count)
      (others : Completes settings rest (operation.run settings store).state last log counts) :
      Completes settings (operation :: rest) store last ((operation.run settings store).log ++ log)
        ((operation, count) :: counts)

/-- How a run ends. Where it stops, the last to be done is the first operation that fails. -/
inductive Ends (settings : Settings) (operations : List Operation) (store : Store) :
    Outcome Store RefreshError (List (Operation × Nat)) → Prop where
  | finished {last : Store} {log : List LogEntry} {counts : List (Operation × Nat)}
      (all : Completes settings operations store last log counts) :
      Ends settings operations store ⟨last, log ++ [.finished operations.length], .ok counts⟩
  | stopped {done : List Operation} {operation : Operation} {later : List Operation} {middle : Store}
      {log : List LogEntry} {counts : List (Operation × Nat)} {error : RefreshError}
      (split : operations = done ++ operation :: later)
      (before : Completes settings done store middle log counts)
      (failed : (operation.run settings middle).result = .error error)
      (kept : ∀ table, table.operation ∈ later →
        (operation.run settings middle).state.get (.derived table) = store.get (.derived table))
      (unfinished : ∀ number, .finished number ∉ log ++ (operation.run settings middle).log) :
      Ends settings operations store
        ⟨(operation.run settings middle).state, log ++ (operation.run settings middle).log, .error error⟩

theorem get_run_of_other {operation : Operation} {table : Derived} (other : table.operation ≠ operation) :
    (operation.run settings store).state.get (.derived table) = store.get (.derived table) := by
  apply get_run_of_foreign
  rintro target member ⟨⟩
  exact other (Operation.mem_transactions_iff.mp member)

/-- Operations tell of tables alone. -/
theorem rebuilt_of_mem_run {operation : Operation} {entry : LogEntry} (member : entry ∈ (operation.run settings store).log) :
    ∃ table rows, entry = .rebuilt table rows := by
  obtain ⟨_, _, _, _, log⟩ := run_effect settings operation store
  rw [log] at member
  obtain ⟨count, _, rfl⟩ := List.mem_map.mp member
  exact ⟨count.1, count.2, rfl⟩

section Completes
variable {operations : List Operation} {last : Store} {log : List LogEntry} {counts : List (Operation × Nat)}
  (completed : Completes settings operations store last log counts)
include completed

theorem Completes.map_fst_eq : counts.map Prod.fst = operations := by
  induction completed with
  | nil => rfl
  | cons first others ih => exact congrArg (_ :: ·) ih

theorem Completes.rebuilt_of_mem {entry : LogEntry} (member : entry ∈ log) : ∃ table rows, entry = .rebuilt table rows := by
  induction completed with
  | nil => cases member
  | cons first others ih => exact (List.mem_append.mp member).elim rebuilt_of_mem_run ih

/-- Operations do not change the tables of others. -/
theorem Completes.get_eq {table : Derived} (other : table.operation ∉ operations) :
    last.get (.derived table) = store.get (.derived table) := by
  induction completed with
  | nil => rfl
  | cons first others ih =>
    rw [List.mem_cons, not_or] at other
    rw [ih other.2, get_run_of_other other.1]

end Completes

theorem each_run_cases (settings : Settings) (operations : List Operation) (store : Store) :
    let outcome := Outcome.each (fun operation current => (operation.run settings current).map (operation, ·)) operations store
    (∃ last log counts, Completes settings operations store last log counts ∧ outcome = ⟨last, log, .ok counts⟩) ∨
    ∃ done operation later middle log counts error, operations = done ++ operation :: later ∧
      Completes settings done store middle log counts ∧ (operation.run settings middle).result = .error error ∧
      outcome = ⟨(operation.run settings middle).state, log ++ (operation.run settings middle).log, .error error⟩ := by
  induction operations generalizing store with
  | nil => exact .inl ⟨store, [], [], .nil, rfl⟩
  | cons operation rest ih =>
    rw [Outcome.each]
    cases first : (operation.run settings store).result with
    | error error =>
      refine .inr ⟨[], operation, rest, store, [], [], error, rfl, .nil, first, ?_⟩
      exact Outcome.andThen_of_error (map_eq_error_iff.mpr first) _
    | ok count =>
      rw [Outcome.andThen_of_ok (congrArg (Except.map (operation, ·)) first)]
      rcases ih (operation.run settings store).state with ⟨last, log, counts, completed, same⟩ |
        ⟨done, other, later, middle, log, counts, error, rfl, completed, failed, same⟩
      · refine .inl ⟨last, _, _, .cons first completed, ?_⟩
        dsimp only [Outcome.map] at same ⊢
        rw [same]
        rfl
      · refine .inr ⟨operation :: done, other, later, middle, _, _, error, rfl, .cons first completed, failed, ?_⟩
        dsimp only [Outcome.map] at same ⊢
        rw [same, List.append_assoc]
        rfl

theorem runAll_ends {operations : List Operation} (different : operations.Nodup) :
    Ends settings operations store (store.runAll settings operations) := by
  rcases each_run_cases settings operations store with ⟨last, log, counts, completed, same⟩ |
    ⟨done, operation, later, middle, log, counts, error, rfl, completed, failed, same⟩
  · have done : counts.length = operations.length := by
      rw [← completed.map_fst_eq, List.length_map]
    rw [runAll, same, Outcome.andThen_of_ok rfl, done]
    exact .finished completed
  · rw [runAll, same, Outcome.andThen_of_error rfl]
    refine .stopped rfl completed failed (fun table behind => ?_) fun number member => ?_
    · obtain ⟨_, tail, apart⟩ := List.nodup_append.mp different
      have foreign : table.operation ≠ operation := fun own => (List.nodup_cons.mp tail).1 (own ▸ behind)
      have undone : table.operation ∉ done := fun early => apart _ early _ (List.mem_cons_of_mem _ behind) rfl
      rw [get_run_of_other foreign, completed.get_eq undone]
    · obtain ⟨_, _, other⟩ := (List.mem_append.mp member).elim completed.rebuilt_of_mem rebuilt_of_mem_run
      cases other

theorem updateAll_of_known {only : Option (List String)} (known : Operation.unknown only = []) :
    store.updateAll settings only = store.runAll settings (Operation.selected only) := by
  rw [updateAll, known]

theorem updateAll_of_unknown {only : Option (List String)} (unknown : Operation.unknown only ≠ []) :
    store.updateAll settings only = .failed store (.unknownOperations (Operation.unknown only)) := by
  rw [updateAll]
  split
  next known => exact absurd known unknown
  next => rfl

/-- Of the names that a refresh is given only the set counts. With one that no operation has it does nothing, and says all
of those. Otherwise it does the named operations, up to the first that fails. -/
theorem updateAll_of_names (settings : Settings) (store : Store) (names : List String) :
    ((∃ name ∈ names, ∀ operation : Operation, operation.name ≠ name) →
      ∃ unknown : List String, unknown.Pairwise (· < ·) ∧
        (∀ name, name ∈ unknown ↔ name ∈ names ∧ ∀ operation : Operation, operation.name ≠ name) ∧
        store.updateAll settings (some names) = .failed store (.unknownOperations unknown) ∧
        (RefreshError.unknownOperations unknown).message = "Unknown operations: " ++ ", ".intercalate unknown) ∧
    ((∀ name ∈ names, ∃ operation : Operation, operation.name = name) →
      ∃ selected : List Operation, selected.Sublist Operation.all ∧
        (∀ operation, operation ∈ selected ↔ operation.name ∈ names) ∧
        Ends settings selected store (store.updateAll settings (some names))) ∧
    (∀ others, (∀ name, name ∈ names ↔ name ∈ others) →
      store.updateAll settings (some names) = store.updateAll settings (some others)) ∧
    ((∀ name, name ∈ names ↔ ∃ operation : Operation, operation.name = name) →
      store.updateAll settings (some names) = store.updateAll settings none) := by
  refine ⟨?_, fun known => ?_, fun others same => ?_, fun whole => ?_⟩
  · rintro ⟨name, inside, nobody⟩
    have unknown : Operation.unknown (some names) ≠ [] :=
      List.ne_nil_of_mem (Operation.mem_unknown_iff.mpr ⟨inside, nobody⟩)
    exact ⟨_, Operation.unknown_pairwise _, fun _ => Operation.mem_unknown_iff, updateAll_of_unknown unknown, rfl⟩
  · refine ⟨_, Operation.selected_sublist _, fun _ => Operation.mem_selected_iff, ?_⟩
    rw [updateAll_of_known (Operation.unknown_eq_nil known)]
    exact runAll_ends ((Operation.selected_sublist _).nodup (by decide))
  · rw [updateAll, updateAll, Operation.unknown_congr same, Operation.selected_congr same]
  · have known : Operation.unknown (some names) = [] := Operation.unknown_eq_nil fun name => (whole name).mp
    have every : Operation.selected (some names) = Operation.all :=
      List.filter_eq_self.mpr fun operation _ => List.contains_iff_mem.mpr ((whole _).mpr ⟨operation, rfl⟩)
    rw [updateAll_of_known known, every]
    rfl

/-- The fastest submissions cannot be counted: the counts before them are made and the points are not looked for. With a name
that no operation has nothing is done. -/
theorem updateAll_of_names_halfway :
    let store : Store := {
      contests := some [⟨"abc1", 1500000000, 6000, "first", "All"⟩]
      submissions := some [⟨1, 1500000100, "a", "abc1", "ann", "C++", some 100, 20, "AC", some 3⟩]
      denials := [⟨.derived (.greatCount .fastest), .insert, none, "full"⟩] }
    let names := ["update_problem_points", "aggregate_great_submissions", "update_great_submissions", "update_problem_points"]
    let others := ["update_great_submissions", "update_problem_points", "aggregate_great_submissions"]
    let outcome := store.updateAll {} (some names)
    outcome = store.updateAll {} (some others) ∧
    outcome.result = .error (.refused (.greatCount .fastest) (.denied "full")) ∧
    outcome.state.firstCount = some [⟨"ann", 1⟩] ∧ outcome.state.points = some [] ∧
    (store.updateAll {} (some ("update_users" :: names))).state = store := by
  intro store names others outcome
  obtain ⟨_, _, same, _⟩ := updateAll_of_names {} store names
  obtain ⟨unknown, _⟩ := updateAll_of_names {} store ("update_users" :: names)
  obtain ⟨_, _, _, nothing, _⟩ := unknown ⟨"update_users", List.mem_cons_self, fun operation => by cases operation <;> decide⟩
  have forth : names ⊆ others := by decide
  have back : others ⊆ names := by decide
  refine ⟨same others fun _ => ⟨(forth ·), (back ·)⟩, ?_, ?_, ?_, congrArg Outcome.state nothing⟩ <;> decide +kernel

end Store

end JudgeStats
