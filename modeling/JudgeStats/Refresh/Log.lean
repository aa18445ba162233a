import JudgeStats.Table
import JudgeStats.Text.Quoted

/-! What a refresh tells about itself: each table once its new rows are there for good, the end of a run, the start of a
task, and the table at which a task or a command failed. -/

namespace JudgeStats

inductive LogEntry where
  | rebuilt (table : Derived) (rows : Nat)
  | finished (operations : Nat)
  | failed (table : Derived)
  | started (only : Option (List String))
deriving DecidableEq

/-- The line of an entry: who tells it, how serious it is, and what there is to tell. -/
def LogEntry.line : LogEntry → String
  | rebuilt table rows => s!"stats.updates INFO {table.name}: {rows} rows"
  | finished operations => s!"stats.updates INFO Refreshed {operations} operations"
  | failed table => s!"stats.errors ERROR Failed to refresh {table.name}"
  | started only => "stats.tasks.refresh INFO Refreshing statistics tables: " ++ chosen only
where
  chosen : Option (List String) → String
    | none | some [] => "all"
    | some names => "[" ++ Text.quoteAll names ++ "]"

end JudgeStats
