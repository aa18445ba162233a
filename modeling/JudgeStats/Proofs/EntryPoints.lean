import JudgeStats.Proofs.CommandWords
import JudgeStats.Proofs.CommitRecord
import JudgeStats.Proofs.SelectedRuns

/-! Three ways to a refresh: the call on a database, the task on the default one, and the command. They do the same to the
databases and tell the same of it. Task and command also tell of the table at which a refresh was refused. -/

namespace JudgeStats

/-- An entry of a refresh itself, not of the task or command around it. -/
def LogEntry.isUpdate : LogEntry → Bool
  | rebuilt _ _ | finished _ => true
  | failed _ | started _ => false

namespace Store

theorem isUpdate_of_mem_updateAll {settings : Settings} {only : Option (List String)} {store : Store} {entry : LogEntry}
    (member : entry ∈ (store.updateAll settings only).log) : entry.isUpdate := by
  by_cases known : Operation.unknown only = []
  · rw [updateAll_of_known known] at member
    have ends : Ends settings (Operation.selected only) store (store.runAll settings (Operation.selected only)) :=
      runAll_ends ((Operation.selected_sublist only).nodup (by decide))
    generalize store.runAll settings (Operation.selected only) = outcome at member ends
    cases ends with
    | finished completed =>
      rcases List.mem_append.mp member with early | last
      · obtain ⟨_, _, rfl⟩ := completed.rebuilt_of_mem early
        rfl
      · rw [List.mem_singleton.mp last]
        rfl
    | stopped _ before =>
      obtain ⟨_, _, rfl⟩ := (List.mem_append.mp member).elim before.rebuilt_of_mem rebuilt_of_mem_run
      rfl
  · rw [updateAll_of_unknown known] at member
    cases member

end Store

/-- A call that leaves what a refresh has left and answers for it in its own way. After what it tells at first it tells what
the refresh has told, and at last the table at which this was refused, if it was. -/
structure Relays {ε α : Type} (update : Outcome Databases RefreshError (List (Operation × Nat)))
    (outcome : Outcome Databases ε α) (before : List LogEntry) (say : List (Operation × Nat) → α)
    (put : RefreshError → ε) : Prop where
  state : outcome.state = update.state
  succeeded : ∀ counts, update.result = .ok counts → outcome.result = .ok (say counts) ∧ outcome.log = before ++ update.log
  refused : ∀ table cause, update.result = .error (.refused table cause) →
    outcome.result = .error (put (.refused table cause)) ∧ outcome.log = before ++ update.log ++ [.failed table]
  failed : ∀ error, update.result = .error error → (∀ table cause, error ≠ .refused table cause) →
    outcome.result = .error (put error) ∧ outcome.log = before ++ update.log

theorem relays_tellFailure {ε α : Type} (update : Outcome Databases RefreshError (List (Operation × Nat)))
    (before : List LogEntry) (say : List (Operation × Nat) → α) (put : RefreshError → ε) :
    Relays update ⟨(Databases.tellFailure update).state, before ++ (Databases.tellFailure update).log,
      ((Databases.tellFailure update).result.mapError put).map say⟩ before say put := by
  obtain ⟨state, log, result⟩ := update
  rcases result with error | counts
  · cases error with
    | refused table cause =>
      refine ⟨rfl, ?_, ?_, ?_⟩
      · rintro _ ⟨⟩
      · rintro _ _ ⟨⟩
        exact ⟨rfl, (List.append_assoc ..).symm⟩
      · rintro _ ⟨⟩ other
        exact absurd rfl (other table cause)
    | batchSize | unknownOperations | unknownDatabase =>
      refine ⟨rfl, ?_, ?_, ?_⟩
      · rintro _ ⟨⟩
      · rintro _ _ ⟨⟩
      · rintro _ ⟨⟩ _
        exact ⟨rfl, rfl⟩
  · refine ⟨rfl, ?_, ?_, ?_⟩
    · rintro _ ⟨⟩
      exact ⟨rfl, rfl⟩
    · rintro _ _ ⟨⟩
    · rintro _ ⟨⟩

theorem Relays.updates_eq {ε α : Type} {update : Outcome Databases RefreshError (List (Operation × Nat))}
    {outcome : Outcome Databases ε α} {before : List LogEntry} {say : List (Operation × Nat) → α} {put : RefreshError → ε}
    (relays : Relays update outcome before say put) (pure : ∀ entry ∈ update.log, entry.isUpdate)
    (foreign : ∀ entry ∈ before, entry.isUpdate = false) : outcome.log.filter LogEntry.isUpdate = update.log := by
  have told : (before ++ update.log).filter LogEntry.isUpdate = update.log := by
    rw [List.filter_append, List.filter_eq_self.mpr pure, List.filter_eq_nil_iff.mpr, List.nil_append]
    intro entry member
    rw [foreign entry member]
    exact Bool.false_ne_true
  cases result : update.result with
  | ok counts => rw [(relays.succeeded counts result).2, told]
  | error error =>
    by_cases refused : ∃ table cause, error = .refused table cause
    · obtain ⟨table, cause, rfl⟩ := refused
      rw [(relays.refused table cause result).2, List.filter_append, told]
      exact List.append_nil _
    · rw [(relays.failed error result fun table cause same => refused ⟨table, cause, same⟩).2, told]

namespace Databases

theorem updateAll_name (settings : Settings) (place : Alias) (only : Option (List String)) (databases : Databases) :
    databases.updateAll settings place.name only = databases.on place (Store.updateAll settings only) := by
  cases place <;> rfl

theorem task_relays (settings : Settings) (only : Option (List String)) (databases : Databases) :
    Relays (databases.updateAll settings Alias.default.name only) (databases.task settings only) [.started only] id id := by
  have relays := relays_tellFailure (databases.updateAll settings Alias.default.name only) [.started only] id id
  have same (result : Except RefreshError (List (Operation × Nat))) : (result.mapError id).map id = result := by
    cases result <;> rfl
  rw [same] at relays
  exact relays

end Databases

namespace Command

/-- The names that a refresh of chosen operations is given. Without a choice it is given none and does all. -/
def names? (operations : List Operation) : Option (List String) :=
  if operations.isEmpty then none else some (operations.map (·.name))

theorem selection_eq (operations : List Operation) (database : Option String) :
    Arguments.selection { only := operations.map some, database := database } = .ok (names? operations) := by
  have named : (operations.map some).mapM id = some operations := by
    induction operations with
    | nil => rfl
    | cons operation rest ih => rw [List.map_cons, List.mapM_cons, ih]; rfl
  rw [Arguments.selection, named]
  cases operations <;> rfl

/-- What a command says of a run: a line for each operation with the rows that it has written, and one with their number. -/
def summary (counts : List (Operation × Nat)) : List String :=
  counts.map (fun (operation, rows) => s!"{operation.name}: {rows} rows") ++
    [s!"Refreshed {counts.length} statistics operations"]

theorem run_relays {choices : List Choice} {words : List String} (spelled : Spells choices words) (settings : Settings)
    (databases : Databases) :
    Relays (databases.updateAll settings (place choices).name (names? (operations choices))) (run settings words databases)
      [] summary Failure.ofRefresh := by
  rw [run, ofWords_of_spells spelled]
  simp only [Bool.false_eq_true, if_false, Bool.and_self]
  rw [refresh, selection_eq]
  exact relays_tellFailure _ [] summary Failure.ofRefresh

theorem message_ofRefresh (error : RefreshError) : (Failure.ofRefresh error).message = error.message := by
  cases error <;> rfl

theorem ofRefresh_eq_other_iff {error : RefreshError} :
    Failure.ofRefresh error = .other error ↔ ∀ table cause, error ≠ .refused table cause := by
  cases error <;> simp [Failure.ofRefresh]

end Command

open Command in
/-- The command does what the refresh does that its words choose, on the database that they name last, and the task what the
refresh does on the default database. Other databases stay as they are. A failure keeps its message, and where it is not a
refusal it is passed on. -/
theorem entryPoints_agree (settings : Settings) (databases : Databases) :
    (∀ choices words, Spells choices words →
      let update := databases.updateAll settings (place choices).name (names? (operations choices))
      let outcome := Command.run settings words databases
      Relays update outcome [] summary Failure.ofRefresh ∧ outcome.log.filter LogEntry.isUpdate = update.log ∧
      ∀ apart, apart ≠ place choices → outcome.state.get apart = databases.get apart) ∧
    (∀ only,
      let update := databases.updateAll settings Alias.default.name only
      let outcome := databases.task settings only
      Relays update outcome [.started only] id id ∧ outcome.log.filter LogEntry.isUpdate = update.log) ∧
    ∀ error, (Failure.ofRefresh error).message = error.message ∧
      (Failure.ofRefresh error = .other error ↔ ∀ table cause, error ≠ .refused table cause) := by
  have pure (place : Alias) (only : Option (List String)) :
      ∀ entry ∈ (databases.updateAll settings place.name only).log, entry.isUpdate := by
    rw [Databases.updateAll_name]
    exact fun entry => Store.isUpdate_of_mem_updateAll
  refine ⟨fun choices words spelled => ?_, fun only => ?_, fun error => ⟨message_ofRefresh error, ofRefresh_eq_other_iff⟩⟩
  · have relays := run_relays spelled settings databases
    refine ⟨relays, relays.updates_eq (pure _ _) nofun, fun apart different => ?_⟩
    rw [relays.state, Databases.updateAll_name]
    exact Databases.get_set_of_ne databases different _
  · have relays := Databases.task_relays settings only databases
    refine ⟨relays, relays.updates_eq (pure _ _) fun entry member => ?_⟩
    rw [List.mem_singleton.mp member]
    rfl

open Command in
/-- An option cut short, one with its value behind an equals sign, and of two databases the last. -/
theorem entryPoints_agree_spelled_short :
    let words := ["--on=update_language_count", "--da", "default", "--only", "update_accepted_count", "--database=other"]
    let store : Store :=
      { submissions := some [⟨1, 1500000100, "a", "abc1", "ann", "C++", some 100, 20, "AC", some 3⟩] }
    let databases : Databases := { other := store }
    let choices : List Choice := [.only .languageCount, .database .default, .only .acceptedCount, .database .other]
    Spells choices words ∧
    (Command.run {} words databases).state =
      (databases.updateAll {} "other" (some ["update_language_count", "update_accepted_count"])).state ∧
    (Command.run {} words databases).result = .ok
      ["update_accepted_count: 1 rows", "update_language_count: 1 rows", "Refreshed 2 statistics operations"] := by
  intro words store databases choices
  have short : Abbreviates "--on" "--only" ∧ Abbreviates "--da" "--database" ∧ Abbreviates "--only" "--only" ∧
      Abbreviates "--database" "--database" := by decide
  have split : words = ["--on" ++ "=" ++ (Choice.only .languageCount).value, "--da", (Choice.database .default).value, "--only",
      (Choice.only .acceptedCount).value, "--database" ++ "=" ++ (Choice.database .other).value] := by decide
  have spelled : Spells choices words :=
    split ▸ .joined short.1 (.apart short.2.1 (.apart short.2.2.1 (.joined short.2.2.2 .nil)))
  obtain ⟨relays, _, _⟩ := (entryPoints_agree {} databases).1 choices words spelled
  refine ⟨spelled, relays.state, ?_⟩
  refine (relays.succeeded [(.acceptedCount, 1), (.languageCount, 1)] ?_).1.trans ?_
  · decide +kernel
  · decide +kernel

end JudgeStats
