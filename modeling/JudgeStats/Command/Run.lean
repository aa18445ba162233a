import JudgeStats.Command.Arguments
import JudgeStats.Refresh.Databases

/-! The command: it lists the operations, or runs them on one of the databases and says how many rows each has written. -/

namespace JudgeStats.Command

inductive Failure where
  | usage (error : UsageError)
  | colorConflict
  /-- A choice that says nothing. -/
  | unnamedChoice
  /-- An option for the database that says nothing. -/
  | unnamedDatabase
  /-- A run was refused at a table. -/
  | refused (table : Derived) (cause : StoreError)
  /-- A run failed without being refused. -/
  | other (error : RefreshError)
  /-- Only help was asked for. -/
  | stopped
deriving DecidableEq

def Failure.message : Failure → String
  | usage error => error.message
  | colorConflict => "The --no-color and --force-color options can't be used together."
  | unnamedChoice => "unhashable type: 'list'"
  | unnamedDatabase => "attribute name must be string, not 'list'"
  | refused table cause => (RefreshError.refused table cause).message
  | other error => error.message
  | stopped => "0"

def Failure.ofRefresh : RefreshError → Failure
  | .refused table cause => refused table cause
  | error => other error

/-- A success, in bold green where colors are wanted. -/
def success (arguments : Arguments) (text : String) : String :=
  if arguments.forceColor then "\x1b[32;1m" ++ text ++ "\x1b[0m" else text

def report (arguments : Arguments) (counts : List (Operation × Nat)) : List String :=
  counts.map (fun (operation, rows) => s!"{operation.name}: {rows} rows") ++
    [success arguments s!"Refreshed {counts.length} statistics operations"]

/-- The names of the chosen operations. Without a choice all are run. A choice that says nothing has no name. -/
def Arguments.selection (arguments : Arguments) : Except Failure (Option (List String)) :=
  match arguments.only.mapM id with
  | none => .error .unnamedChoice
  | some [] => .ok none
  | some operations => .ok (some (operations.map (·.name)))

def refresh (settings : Settings) (arguments : Arguments) (databases : Databases) :
    Outcome Databases Failure (List String) :=
  match arguments.selection, arguments.database with
  | .error failure, _ => .failed databases failure
  | .ok _, none => .failed databases .unnamedDatabase
  | .ok only, some database =>
    let outcome := Databases.tellFailure (databases.updateAll settings database only)
    ⟨outcome.state, outcome.log, (outcome.result.mapError Failure.ofRefresh).map (report arguments)⟩

def run (settings : Settings) (words : List String) (databases : Databases) :
    Outcome Databases Failure (List String) :=
  match Arguments.ofWords words with
  | .error error => .failed databases (.usage error)
  | .ok arguments =>
    if arguments.stop then .failed databases .stopped
    else if arguments.noColor && arguments.forceColor then .failed databases .colorConflict
    else if arguments.list then .done databases (Operation.all.map (·.name))
    else refresh settings arguments databases

end JudgeStats.Command
