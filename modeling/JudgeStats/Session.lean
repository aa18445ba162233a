import JudgeStats.Command.Run
import JudgeStats.Store.Edit

/-! A session is a row of steps on two databases that start empty. A step that fails answers so, and the next one goes on
from what it left. -/

namespace JudgeStats

/-- Changes and views of one store. -/
inductive StoreStep where
  | insert (table : Table) (rows : List (List (String × Cell)))
  | update (table : Table) (key : List Cell) (given : List (String × Cell))
  | delete (table : Table) (keys : Option (List (List Cell)))
  | deny (denial : Denial)
  | allow (table : Table) (event : Event)
  | drop (table : Table)
  | dump (tables : List Table)
  | summaries (table : Table)

/-- Calls that refresh. -/
inductive RefreshStep where
  | run (operation : Operation)
  | updateAll (only : Option (List String))
  | task (only : Option (List String))
  | command (words : List String)

inductive Action where
  | store (step : StoreStep)
  | refresh (step : RefreshStep)

/-- An action, and the name of the database that it is about. -/
structure Step where
  database : String
  action : Action

/-- The cells of some tables. -/
abbrev Dump := List (Table × Option (List (List Cell)))

inductive Reply where
  | nothing
  | count (rows : Nat)
  | counts (counts : List (Operation × Nat))
  | lines (lines : List String)
  | dump (tables : Dump)

inductive SessionError where
  | store (error : StoreError)
  | refresh (error : RefreshError)
  | command (failure : Command.Failure)
deriving DecidableEq

def SessionError.message : SessionError → String
  | store error => error.message
  | refresh error => error.message
  | command failure => failure.message

/-- What a refresh told, and the derived tables after it. -/
structure Report where
  log : List LogEntry
  tables : Dump

structure Answer where
  result : Except SessionError Reply
  report : Option Report

/-- Tables without rows are left out. -/
def Store.dump (store : Store) (tables : List Table) : Dump :=
  (tables.map fun table => (table, store.cellRows? table)).filter fun (_, rows) => rows != some []

def StoreStep.perform (store : Store) : StoreStep → Except StoreError (Store × Reply)
  | insert table rows => (store.insert table rows).map fun (next, count) => (next, .count count)
  | update table key given => (store.update table key given).map fun (next, count) => (next, .count count)
  | delete table keys => (store.delete table keys).map fun (next, count) => (next, .count count)
  | deny denial => (store.deny denial).map fun next => (next, .nothing)
  | allow table event => .ok (store.allow table event, .nothing)
  | drop table => (store.drop table).map fun next => (next, .nothing)
  | dump tables => .ok (store, .dump (store.dump tables))
  | summaries table => (store.summaries table).map fun lines => (store, .lines lines)

/-- The task runs on the default database, the command on the one that its words name, whatever database the step is about. -/
def RefreshStep.perform (settings : Settings) (database : String) (databases : Databases) :
    RefreshStep → Outcome Databases SessionError Reply
  | run operation =>
    let outcome := databases.runOperation settings database operation
    ⟨outcome.state, outcome.log, (outcome.result.mapError .refresh).map .count⟩
  | updateAll only =>
    let outcome := databases.updateAll settings database only
    ⟨outcome.state, outcome.log, (outcome.result.mapError .refresh).map .counts⟩
  | task only =>
    let outcome := databases.task settings only
    ⟨outcome.state, outcome.log, (outcome.result.mapError .refresh).map .counts⟩
  | command words =>
    let outcome := Command.run settings words databases
    ⟨outcome.state, outcome.log, (outcome.result.mapError .command).map .lines⟩

def Step.perform (settings : Settings) (databases : Databases) (step : Step) : Databases × Answer :=
  match step.action with
  | .store action =>
    match Alias.ofName? step.database with
    | none => (databases, ⟨.error (.refresh (.unknownDatabase step.database)), none⟩)
    | some database =>
      match action.perform (databases.get database) with
      | .error error => (databases, ⟨.error (.store error), none⟩)
      | .ok (store, reply) => (databases.set database store, ⟨.ok reply, none⟩)
  | .refresh action =>
    let outcome := action.perform settings step.database databases
    let tables := (outcome.state.get? step.database).elim [] (·.dump (Derived.all.map .derived))
    (outcome.state, ⟨outcome.result, some ⟨outcome.log, tables⟩⟩)

/-- The databases after some steps, and the answer to each. -/
def Session.run (settings : Settings) : List Step → Databases → Databases × List Answer
  | [], databases => (databases, [])
  | step :: rest, databases =>
    let (next, answer) := step.perform settings databases
    let (last, answers) := run settings rest next
    (last, answer :: answers)

end JudgeStats
