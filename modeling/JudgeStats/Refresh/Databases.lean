import JudgeStats.Refresh.Operation

/-! Two databases, each with a store of its own, and the calls that refresh one of them: a single operation, a run of all or
some operations, and the task that does such a run on the default database. -/

namespace JudgeStats

inductive Alias where
  | default | other
deriving DecidableEq

def Alias.name : Alias → String
  | .default => "default"
  | .other => "other"

def Alias.ofName? (name : String) : Option Alias :=
  [Alias.default, Alias.other].find? (·.name == name)

structure Databases where
  default : Store := {}
  other : Store := {}
deriving DecidableEq

namespace Databases

def get (databases : Databases) : Alias → Store
  | .default => databases.default
  | .other => databases.other

def set (databases : Databases) : Alias → Store → Databases
  | .default, store => { databases with default := store }
  | .other, store => { databases with other := store }

def get? (databases : Databases) (name : String) : Option Store :=
  (Alias.ofName? name).map databases.get

/-- A call on the store of one database. -/
def on {α : Type} (databases : Databases) (database : Alias) (call : Store → Outcome Store RefreshError α) :
    Outcome Databases RefreshError α :=
  let outcome := call (databases.get database)
  ⟨databases.set database outcome.state, outcome.log, outcome.result⟩

def runOperation (settings : Settings) (name : String) (operation : Operation) (databases : Databases) :
    Outcome Databases RefreshError Nat :=
  match Alias.ofName? name with
  | some database => databases.on database (operation.run settings)
  | none => .failed databases (.unknownDatabase name)

/-- Does the selected operations on the named database. That there is no such database is found by the first operation. -/
def updateAll (settings : Settings) (name : String) (only : Option (List String)) (databases : Databases) :
    Outcome Databases RefreshError (List (Operation × Nat)) :=
  match Alias.ofName? name with
  | some database => databases.on database (Store.updateAll settings only)
  | none =>
    match Operation.unknown only, Operation.selected only with
    | [], [] => ⟨databases, [.finished 0], .ok []⟩
    | [], _ => .failed databases (.unknownDatabase name)
    | names, _ => .failed databases (.unknownOperations names)

/-- Tells at which table a run was refused. -/
def tellFailure {α : Type} (outcome : Outcome Databases RefreshError α) : Outcome Databases RefreshError α :=
  match outcome.result with
  | .error (.refused table _) => { outcome with log := outcome.log ++ [.failed table] }
  | _ => outcome

def task (settings : Settings) (only : Option (List String)) (databases : Databases) :
    Outcome Databases RefreshError (List (Operation × Nat)) :=
  let outcome := tellFailure (updateAll settings Alias.default.name only databases)
  { outcome with log := .started only :: outcome.log }

end Databases

end JudgeStats
