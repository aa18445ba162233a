import JudgeStats.Proofs.RefreshRuns
import JudgeStats.Session
import Mathlib.Data.List.Flatten

/-! The log of a refresh is a record of what was committed. Tables that it does not name are as before; those that it names
hold what their transaction made of the store that it began with, and the numbers told are the numbers of rows built. This
is so for every call, whether it succeeds or fails, and whatever the store refuses. -/

namespace JudgeStats

/-- A table holds what its rebuild gave from the store at the start. The points also hold the rows without points that were
there before, except on problems that got a new row. -/
def Derived.ReplacedFrom (settings : Settings) (start after : Store) : Derived → Prop
  | points => ∃ rows, after.points = some rows ∧ Ascending Schema.key rows ∧ ∀ row, row ∈ rows ↔
      row ∈ points.rebuild settings start ∨ (row ∈ start.rows (.derived points) ∧ row.point = none) ∧
        ∀ built ∈ points.rebuild settings start, row.problem ≠ built.problem
  | table => after.get (.derived table) = some (table.rebuild settings start)

/-- What the tables told of by some operations say about the store that they were done on. -/
structure Accounts (settings : Settings) (operations : List Operation) (before after : Store) (told : List (Derived × Nat))
    (succeeded : Bool) : Prop where
  contests : after.contests = before.contests
  submissions : after.submissions = before.submissions
  denials : after.denials = before.denials
  untouched : ∀ table, table ∉ told.map Prod.fst → after.get (.derived table) = before.get (.derived table)
  /-- All tables of the first transactions are told of, and those of all transactions only after a success. -/
  transactions : ∃ done later, operations.flatMap Operation.transactions = done ++ later ∧
    told.map Prod.fst = done.flatten ∧ (later = [] ↔ succeeded)
  /-- The store that a transaction began with is the one that the transactions before it left. -/
  replaced : ∀ table count, (table, count) ∈ told → ∃ done tables later start,
    operations.flatMap Operation.transactions = done ++ tables :: later ∧ table ∈ tables ∧
    (Outcome.each (Store.commit settings) done before).result.isOk ∧
    (Outcome.each (Store.commit settings) done before).state = start ∧
    count = (table.rebuild settings start).length ∧ table.ReplacedFrom settings start after

namespace Operation

theorem nodup_transactions {operations : List Operation} (chosen : operations.Sublist all) :
    (operations.flatMap transactions).flatten.Nodup := by
  have whole : (all.flatMap transactions).flatten.Nodup := by decide
  exact whole.sublist (chosen.flatMap transactions).flatten

end Operation

section Transactions
variable {settings : Settings} {before : Store}

private theorem replacedFrom_of_get {start after : Store} {table : Derived} (keyed : start.Keyed)
    (held : after.get (.derived table) = some (table.rewritten settings start)) :
    table.ReplacedFrom settings start after := by
  cases table with
  | points =>
    refine ⟨_, held, Derived.rewritten_ascending settings keyed.points, fun row => ?_⟩
    rw [Derived.mem_rewritten_iff settings keyed.points]
    have other (built : ProblemPoint) : Schema.key row ≠ Schema.key built ↔ row.problem ≠ built.problem :=
      not_congr ⟨fun same => Key.text.inj same, congrArg Key.text⟩
    simp only [Derived.isStale_points_eq_false_iff, other]
  | acceptedCount | solver | ratedPointSum | languageCount | great _ | greatCount _ =>
    rw [Derived.rewritten_eq_rebuild settings start (by simp)] at held
    exact held

/-- A table that was replaced within a transaction was replaced from the store that the transaction began with. -/
private theorem replacedFrom_of_turn {done tables others : List Derived} {table : Derived} (keyed : before.Keyed)
    (single : (done ++ tables ++ others).Nodup) (member : table ∈ tables)
    (unread : ∀ target ∈ tables, .derived target ∉ table.reads) :
    table.ReplacedFrom settings (before.rewriteAll settings done) (before.rewriteAll settings (done ++ tables ++ others)) ∧
    (table, (table.rebuild settings (before.rewriteAll settings done)).length) ∈
      before.counts settings (done ++ tables ++ others) := by
  obtain ⟨first, last, rfl⟩ := List.append_of_mem member
  have split : done ++ (first ++ table :: last) ++ others = (done ++ first) ++ table :: (last ++ others) := by
    simp only [List.append_assoc, List.cons_append]
  rw [split] at single ⊢
  obtain ⟨apart, _⟩ := List.nodup_cons.mp (List.nodup_middle.mp single)
  simp only [List.mem_append, not_or] at apart
  -- Tables of one transaction are not computed from each other, so the ones before this one do not show in it.
  have earlier : ∀ target ∈ first, .derived target ∉ table.reads := fun target inside =>
    unread target (List.mem_append_left _ inside)
  have built : table.rebuild settings (before.rewriteAll settings (done ++ first)) =
      table.rebuild settings (before.rewriteAll settings done) := by
    rw [Store.rewriteAll_append, Store.rebuild_rewriteAll earlier]
  constructor
  · apply replacedFrom_of_get (keyed.rewriteAll done)
    rw [Store.get_rewriteAll fun inside => (List.mem_append.mp inside).elim apart.2.1 apart.2.2, Store.rewriteAll_append,
      Store.rewritten_rewriteAll earlier apart.1.2]
  · exact Store.mem_counts_iff.mpr ⟨done ++ first, last ++ others, rfl, congrArg List.length built.symm⟩

/-- Transactions that have been done, and what was told of them, are accounted for. -/
theorem accounts_of_transactions {operations : List Operation} (chosen : operations.Sublist Operation.all)
    (keyed : before.Keyed) {after : Store} {told : List (Derived × Nat)} {succeeded : Bool}
    (state : after = (Outcome.each (Store.commit settings) (operations.flatMap Operation.transactions) before).state)
    (log : told = records (Outcome.each (Store.commit settings) (operations.flatMap Operation.transactions) before).log)
    (result : succeeded =
      (Outcome.each (Store.commit settings) (operations.flatMap Operation.transactions) before).result.isOk) :
    Accounts settings operations before after told succeeded := by
  -- What was done before the first failure succeeded as a whole, and is all that shows in store and log.
  obtain ⟨done, later, split, whole, fine, left, logged⟩ := Outcome.each_stops (Store.commit settings)
    Store.commit_clean (operations.flatMap Operation.transactions) before
  obtain ⟨rewritten, counted⟩ := Store.each_commit_effect fine
  rw [left, rewritten] at state
  rw [logged, counted, records_ofCount] at log
  have single := Operation.nodup_transactions chosen
  rw [split, List.flatten_append] at single
  have replaced : done.flatten.Nodup := List.Nodup.of_append_left single
  constructor
  · rw [state]
    exact Store.get_rewriteAll_of_ne fun target _ => (Table.noConfusion : Table.contests ≠ .derived target)
  · rw [state]
    exact Store.get_rewriteAll_of_ne fun target _ => (Table.noConfusion : Table.submissions ≠ .derived target)
  · rw [state, Store.denials_rewriteAll]
  · intro table unnamed
    rw [log, Store.map_fst_counts] at unnamed
    rw [state]
    apply Store.get_rewriteAll_of_ne
    rintro target member same
    cases same
    exact unnamed member
  · refine ⟨done, later, split, ?_, ?_⟩
    · rw [log, Store.map_fst_counts]
    · rw [result, whole]
  · intro table count member
    rw [log] at member
    have inside := List.mem_map_of_mem (f := Prod.fst) member
    rw [Store.map_fst_counts] at inside
    obtain ⟨tables, part, held⟩ := List.mem_flatten.mp inside
    obtain ⟨first, rest, rfl⟩ := List.append_of_mem part
    obtain ⟨operation, _, owned⟩ := List.mem_flatMap.mp (split ▸ List.mem_append_left later part)
    have flat : (first ++ tables :: rest).flatten = first.flatten ++ tables ++ rest.flatten := by
      rw [List.flatten_append, List.flatten_cons, List.append_assoc]
    have unread : ∀ target ∈ tables, .derived target ∉ table.reads := by
      intro target among
      apply Operation.unread
      rw [Operation.mem_transactions_iff.mp (List.mem_flatten.mpr ⟨tables, owned, among⟩),
        Operation.mem_transactions_iff.mp (List.mem_flatten.mpr ⟨tables, owned, held⟩)]
    obtain ⟨holds, counted⟩ := replacedFrom_of_turn keyed (flat ▸ replaced) held unread
    rw [← flat] at holds counted
    have keys : ((before.counts settings (first ++ tables :: rest).flatten).map Prod.fst).Nodup := by
      rw [Store.map_fst_counts]
      exact replaced
    have began := Outcome.each_ok_of_append fine
    refine ⟨first, tables, rest ++ later, _, ?_, held, began, (Store.each_commit_effect began).1, ?_, state ▸ holds⟩
    · rw [split, List.append_assoc, List.cons_append]
    · exact congrArg Prod.snd (List.inj_on_of_nodup_map keys member counted rfl)

end Transactions

/-- What is known of a call on one of two databases: where it works, which operations it does there, and how it answers
with the rows that each of them has written. Without a plan it ends before the first of them. -/
structure Recorded {ε α : Type} (settings : Settings) (plan : Option (Alias × List Operation)) (databases : Databases)
    (outcome : Outcome Databases ε α) (answer : List (Operation × Nat) → α) : Prop where
  idle : plan = none → outcome.state = databases ∧ records outcome.log = []
  elsewhere : ∀ place operations, plan = some (place, operations) → ∀ apart, apart ≠ place →
    outcome.state.get apart = databases.get apart
  accounts : ∀ place operations, plan = some (place, operations) →
    Accounts settings operations (databases.get place) (outcome.state.get place) (records outcome.log) outcome.result.isOk
  answered : ∀ place operations, plan = some (place, operations) → ∀ value, outcome.result = .ok value →
    value = answer (operations.map fun operation => (operation, operation.told (records outcome.log)))

theorem Recorded.of_idle {ε α : Type} (settings : Settings) {databases : Databases} {outcome : Outcome Databases ε α}
    (answer : List (Operation × Nat) → α) (state : outcome.state = databases) (silent : records outcome.log = []) :
    Recorded settings none databases outcome answer := by
  refine ⟨fun _ => ⟨state, silent⟩, ?_, ?_, ?_⟩
  all_goals
    intro _ _ planned
    cases planned

theorem Recorded.translate {ε δ α β : Type} {settings : Settings} {plan : Option (Alias × List Operation)}
    {databases : Databases} {outcome : Outcome Databases ε α} {relayed : Outcome Databases δ β}
    {answer : List (Operation × Nat) → α} (recorded : Recorded settings plan databases outcome answer) (put : ε → δ)
    (say : α → β) (state : relayed.state = outcome.state) (log : records relayed.log = records outcome.log)
    (result : relayed.result = (outcome.result.mapError put).map say) :
    Recorded settings plan databases relayed (say ∘ answer) := by
  have succeeded : relayed.result.isOk = outcome.result.isOk := by
    rw [result, Outcome.isOk_map, Outcome.isOk_mapError]
  constructor
  · rw [state, log]
    exact recorded.idle
  · rw [state]
    exact recorded.elsewhere
  · rw [state, log, succeeded]
    exact recorded.accounts
  · intro place operations planned value answered
    rw [log]
    cases whole : outcome.result with
    | error error => rw [result, whole] at answered; cases answered
    | ok inner =>
      rw [result, whole] at answered
      cases answered
      exact congrArg say (recorded.answered place operations planned inner whole)

namespace Databases

theorem get_set_self (databases : Databases) (place : Alias) (store : Store) :
    (databases.set place store).get place = store := by
  cases place <;> rfl

theorem get_set_of_ne (databases : Databases) {place apart : Alias} (different : apart ≠ place) (store : Store) :
    (databases.set place store).get apart = databases.get apart := by
  cases place <;> cases apart <;> first | rfl | exact absurd rfl different

theorem set_get (databases : Databases) (place : Alias) : databases.set place (databases.get place) = databases := by
  cases place <;> rfl

end Databases

theorem Store.run_clean {settings : Settings} {operation : Operation} (single : operation ≠ .greatCounts) {store : Store}
    (failed : (operation.run settings store).result.isOk = false) :
    (operation.run settings store).state = store ∧ (operation.run settings store).log = [] := by
  obtain ⟨tables, alone⟩ : ∃ tables, operation.transactions = [tables] := by
    cases operation with
    | greatCounts => exact absurd rfl single
    | _ => exact ⟨_, rfl⟩
  unfold Operation.run at failed ⊢
  rw [alone] at failed ⊢
  rcases commit_cases settings tables store with ⟨error, stopped⟩ | committed
  · simp only [Outcome.each, Outcome.map, Outcome.andThen, stopped, Outcome.failed, and_self]
  · simp only [Outcome.each, Outcome.map, Outcome.andThen, committed, Outcome.done] at failed
    cases failed

section Calls
variable (settings : Settings) {databases : Databases} (keyed : ∀ place, (databases.get place).Keyed)
include keyed

/-- A call on the store of one database, if it has the effect of the transactions of some operations. -/
private theorem on_recorded {α : Type} (place : Alias) {operations : List Operation}
    (chosen : operations.Sublist Operation.all) (call : Store → Outcome Store RefreshError α)
    (answer : List (Operation × Nat) → α)
    (effect : let before := databases.get place
      let flat := Outcome.each (Store.commit settings) (operations.flatMap Operation.transactions) before
      (call before).state = flat.state ∧ records (call before).log = records flat.log ∧
        (call before).result.isOk = flat.result.isOk)
    (answered : ∀ value, (call (databases.get place)).result = .ok value → value =
      answer (operations.map fun operation => (operation, operation.told (records (call (databases.get place)).log)))) :
    Recorded settings (some (place, operations)) databases (databases.on place call) answer := by
  obtain ⟨state, log, result⟩ := effect
  constructor
  · intro unplanned
    cases unplanned
  · rintro _ _ ⟨⟩ apart different
    exact Databases.get_set_of_ne databases different _
  · rintro _ _ ⟨⟩
    apply accounts_of_transactions chosen (keyed place) _ log result
    exact (Databases.get_set_self databases place _).trans state
  · rintro _ _ ⟨⟩
    exact answered

theorem runOperation_recorded (name : String) (operation : Operation) :
    Recorded settings ((Alias.ofName? name).map (·, [operation])) databases
      (databases.runOperation settings name operation) fun counts => total (counts.map (·.2)) := by
  unfold Databases.runOperation
  cases Alias.ofName? name with
  | none => exact .of_idle settings _ rfl rfl
  | some place =>
    apply on_recorded settings keyed place (List.singleton_sublist.mpr operation.mem_all)
    · rw [List.flatMap_singleton]
      exact ⟨rfl, rfl, Outcome.isOk_map _ _⟩
    · intro value finished
      obtain ⟨_, log, counted⟩ := Store.run_ok finished
      rw [log, records_ofCount, counted]
      rfl

/-- Where a run works and what it does, unless a name is unknown. -/
def runPlan? (name : String) (only : Option (List String)) : Option (Alias × List Operation) :=
  match Operation.unknown only with
  | [] => (Alias.ofName? name).map (·, Operation.selected only)
  | _ => none

theorem updateAll_recorded (name : String) (only : Option (List String)) :
    Recorded settings (runPlan? name only) databases (databases.updateAll settings name only) id := by
  unfold runPlan? Databases.updateAll
  cases Alias.ofName? name with
  | none =>
    cases Operation.unknown only with
    | nil => cases Operation.selected only <;> exact .of_idle settings _ rfl rfl
    | cons => exact .of_idle settings _ rfl rfl
  | some place =>
    cases known : Operation.unknown only with
    | nil =>
      have same : databases.on place (Store.updateAll settings only) =
          databases.on place (Store.runAll settings (Operation.selected only)) := by
        simp only [Databases.on, Store.updateAll, known]
      change Recorded settings (some (place, Operation.selected only)) databases (databases.on place _) id
      rw [same]
      apply on_recorded settings keyed place (Operation.selected_sublist only)
      · exact Store.runAll_effect settings (Operation.selected only) (databases.get place)
      · intro answers finished
        exact Store.runAll_ok ((Operation.selected_sublist only).nodup (by decide)) finished
    | cons first rest =>
      apply Recorded.of_idle
      · simp only [Databases.on, Store.updateAll, known, Outcome.failed, Databases.set_get]
      · simp only [Databases.on, Store.updateAll, known, Outcome.failed]
        rfl

end Calls

theorem runOperation_clean (settings : Settings) (name : String) {operation : Operation}
    (single : operation ≠ .greatCounts) (databases : Databases)
    (failed : (databases.runOperation settings name operation).result.isOk = false) :
    (databases.runOperation settings name operation).state = databases ∧
    (databases.runOperation settings name operation).log = [] := by
  unfold Databases.runOperation at failed ⊢
  cases found : Alias.ofName? name with
  | none => exact ⟨rfl, rfl⟩
  | some place =>
    simp only [found] at failed
    obtain ⟨state, log⟩ := Store.run_clean single failed
    refine ⟨?_, log⟩
    change databases.set place _ = databases
    rw [state, Databases.set_get]

theorem tellFailure_effect {α : Type} (outcome : Outcome Databases RefreshError α) :
    (Databases.tellFailure outcome).state = outcome.state ∧
    records (Databases.tellFailure outcome).log = records outcome.log ∧
    (Databases.tellFailure outcome).result = outcome.result := by
  unfold Databases.tellFailure
  split
  · exact ⟨rfl, (records_append _ _).trans (List.append_nil _), rfl⟩
  · exact ⟨rfl, rfl, rfl⟩

namespace Command

def Arguments.plan? (arguments : Arguments) : Option (Alias × List Operation) :=
  match arguments.selection, arguments.database with
  | .ok only, some name => runPlan? name only
  | _, _ => none

/-- Where a command works and which operations it does, unless it ends before the first of them. -/
def plan? (words : List String) : Option (Alias × List Operation) :=
  match Arguments.ofWords words with
  | .error _ => none
  | .ok arguments =>
    if arguments.stop then none
    else if arguments.noColor && arguments.forceColor then none
    else if arguments.list then none
    else arguments.plan?

/-- The lines of a command whose operations have written some numbers of rows. -/
def lines (words : List String) (counts : List (Operation × Nat)) : List String :=
  match Arguments.ofWords words with
  | .error _ => []
  | .ok arguments => report arguments counts

section Calls
variable (settings : Settings) {databases : Databases} (keyed : ∀ place, (databases.get place).Keyed)
include keyed

theorem refresh_recorded (arguments : Arguments) : Recorded settings arguments.plan? databases
    (refresh settings arguments databases) (report arguments) := by
  unfold Arguments.plan? refresh
  cases arguments.selection with
  | error failure => exact .of_idle settings _ rfl rfl
  | ok only =>
    cases arguments.database with
    | none => exact .of_idle settings _ rfl rfl
    | some name =>
      obtain ⟨state, log, result⟩ := tellFailure_effect (databases.updateAll settings name only)
      apply (updateAll_recorded settings keyed name only).translate Failure.ofRefresh (report arguments) state log
      exact congrArg (fun result => (result.mapError Failure.ofRefresh).map (report arguments)) result

theorem run_recorded (words : List String) :
    Recorded settings (plan? words) databases (run settings words databases) (lines words) := by
  cases parsed : Arguments.ofWords words with
  | error error =>
    simp only [plan?, run, parsed]
    exact .of_idle settings _ rfl rfl
  | ok arguments =>
    have answer : lines words = report arguments := by
      funext counts
      simp only [lines, parsed]
    simp only [plan?, run, parsed, answer]
    split
    · exact .of_idle settings _ rfl rfl
    · split
      · exact .of_idle settings _ rfl rfl
      · split
        · exact .of_idle settings _ rfl rfl
        · exact refresh_recorded settings keyed arguments

end Calls

end Command

namespace RefreshStep

/-- Where a call works and which operations it does, in their order, unless it ends before the first of them. -/
def plan? (database : String) : RefreshStep → Option (Alias × List Operation)
  | run operation => (Alias.ofName? database).map (·, [operation])
  | updateAll only => runPlan? database only
  | task only => runPlan? Alias.default.name only
  | command words => Command.plan? words

def reply (counts : List (Operation × Nat)) : RefreshStep → Reply
  | run _ => .count (total (counts.map (·.2)))
  | updateAll _ | task _ => .counts counts
  | command words => .lines (Command.lines words counts)

/-- Each call, whether it succeeds or fails, has done to the databases what its log tells, and nothing else. An operation of
one transaction that fails has told of no table and has changed nothing. -/
theorem perform_recorded (settings : Settings) (database : String) (call : RefreshStep) {databases : Databases}
    (keyed : ∀ place, (databases.get place).Keyed) :
    Recorded settings (call.plan? database) databases (call.perform settings database databases) (call.reply ·) ∧
    ∀ operation, call = .run operation → operation ≠ .greatCounts →
      (call.perform settings database databases).result.isOk = false →
      (call.perform settings database databases).state = databases ∧
      records (call.perform settings database databases).log = [] := by
  constructor
  · cases call with
    | run operation => exact (runOperation_recorded settings keyed database operation).translate _ _ rfl rfl rfl
    | updateAll only => exact (updateAll_recorded settings keyed database only).translate _ _ rfl rfl rfl
    | task only =>
      obtain ⟨state, log, _⟩ := tellFailure_effect (databases.updateAll settings Alias.default.name only)
      apply (updateAll_recorded settings keyed Alias.default.name only).translate SessionError.refresh Reply.counts state log
      exact congrArg (fun result => (result.mapError SessionError.refresh).map Reply.counts) (tellFailure_effect _).2.2
    | command words => exact (Command.run_recorded settings keyed words).translate _ _ rfl rfl rfl
  · rintro operation rfl single failed
    obtain ⟨state, log⟩ := runOperation_clean settings database single databases (by
      rw [← failed]
      exact ((Outcome.isOk_map _ _).trans (Outcome.isOk_mapError _ _)).symm)
    exact ⟨state, congrArg records log⟩

/-- A run that is refused at the last of three tables of a transaction has told of the four tables before them. -/
theorem refused_run_recorded :
    let databases : Databases := { default :=
      { contests := some [⟨"abc1", 1500000000, 6000, "first", "-"⟩]
        submissions := some [⟨1, 1500000100, "a", "abc1", "ann", "C++", some 100, 20, "AC", some 3⟩]
        denials := [⟨.derived (.great .shortest), .insert, none, "no"⟩] } }
    let outcome := (RefreshStep.updateAll none).perform {} "default" databases
    (∀ place, (databases.get place).Keyed) ∧
    Recorded {} (some (.default, Operation.all)) databases outcome ((RefreshStep.updateAll none).reply ·) ∧
    records outcome.log = [(.acceptedCount, 1), (.solver, 1), (.ratedPointSum, 0), (.languageCount, 1)] := by
  intro databases outcome
  have keyed : ∀ place, (databases.get place).Keyed := by
    intro place
    cases place <;> exact ⟨by decide, .nil⟩
  exact ⟨keyed, (perform_recorded {} "default" (.updateAll none) keyed).1, by decide +kernel⟩

end RefreshStep

end JudgeStats
