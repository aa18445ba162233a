import JudgeStats.Ascending
import JudgeStats.Table

/-! A store holds the rows of every table, ascending by key, and what it has been told to deny. A table that was dropped
holds nothing and is no longer there. -/

namespace JudgeStats

inductive Event where
  | insert | update | delete
deriving DecidableEq

/-- Refuses an event on the rows of a table, or only on those with the given first cell. -/
structure Denial where
  table : Table
  event : Event
  only : Option Cell
  message : String
deriving DecidableEq

def Denial.covers (denial : Denial) (table : Table) (event : Event) (first : Cell) : Bool :=
  denial.table == table && denial.event == event && denial.only.all (· == first)

/-- Whether the message and the key of a denial can be written. -/
def Denial.isWritable (denial : Denial) : Bool :=
  match denial.only with
  | some (.text key) => !denial.message.contains '\x00' && !key.contains '\x00'
  | _ => !denial.message.contains '\x00'

inductive StoreError where
  | noSuchTable (table : Table)
  /-- A denial is about a table that is not there. -/
  | nothingToDeny (table : Table)
  /-- A denial is kept as written text, which holds no NUL. -/
  | unwritableDenial
  | denied (message : String)
  /-- A column that has to hold something would hold nothing. -/
  | missing (table : Table) (column : String)
  /-- A second row with the key of another one. -/
  | duplicate (table : Table)
  | numberTooLarge
  /-- A start that texts cannot be compared with. -/
  | patternTooLong
deriving DecidableEq

def StoreError.message : StoreError → String
  | noSuchTable table => s!"no such table: {table.name}"
  | nothingToDeny table => s!"no such table: main.{table.name}"
  | unwritableDenial => "the query contains a null character"
  | denied message => message
  | missing table column => s!"NOT NULL constraint failed: {table.name}.{column}"
  | duplicate table =>
    "UNIQUE constraint failed: " ++ ", ".intercalate ((Schema.keyColumns table.Row).map (s!"{table.name}." ++ ·))
  | numberTooLarge => "Python int too large to convert to SQLite INTEGER"
  | patternTooLong => "LIKE or GLOB pattern too complex"

structure Store where
  contests : Option (List Contest) := some []
  submissions : Option (List Submission) := some []
  acceptedCount : Option (List UserCount) := some []
  solver : Option (List SolverCount) := some []
  ratedPointSum : Option (List PointSum) := some []
  languageCount : Option (List LanguageCount) := some []
  first : Option (List GreatSubmission) := some []
  fastest : Option (List GreatSubmission) := some []
  shortest : Option (List GreatSubmission) := some []
  firstCount : Option (List UserCount) := some []
  fastestCount : Option (List UserCount) := some []
  shortestCount : Option (List UserCount) := some []
  points : Option (List ProblemPoint) := some []
  denials : List Denial := []
deriving DecidableEq

namespace Store

def get (store : Store) : (table : Table) → Option (List table.Row)
  | .contests => store.contests
  | .submissions => store.submissions
  | .derived .acceptedCount => store.acceptedCount
  | .derived .solver => store.solver
  | .derived .ratedPointSum => store.ratedPointSum
  | .derived .languageCount => store.languageCount
  | .derived (.great .first) => store.first
  | .derived (.great .fastest) => store.fastest
  | .derived (.great .shortest) => store.shortest
  | .derived (.greatCount .first) => store.firstCount
  | .derived (.greatCount .fastest) => store.fastestCount
  | .derived (.greatCount .shortest) => store.shortestCount
  | .derived .points => store.points

def set (store : Store) : (table : Table) → Option (List table.Row) → Store
  | .contests, rows => { store with contests := rows }
  | .submissions, rows => { store with submissions := rows }
  | .derived .acceptedCount, rows => { store with acceptedCount := rows }
  | .derived .solver, rows => { store with solver := rows }
  | .derived .ratedPointSum, rows => { store with ratedPointSum := rows }
  | .derived .languageCount, rows => { store with languageCount := rows }
  | .derived (.great .first), rows => { store with first := rows }
  | .derived (.great .fastest), rows => { store with fastest := rows }
  | .derived (.great .shortest), rows => { store with shortest := rows }
  | .derived (.greatCount .first), rows => { store with firstCount := rows }
  | .derived (.greatCount .fastest), rows => { store with fastestCount := rows }
  | .derived (.greatCount .shortest), rows => { store with shortestCount := rows }
  | .derived .points, rows => { store with points := rows }

theorem get_set_self (store : Store) (table : Table) (rows : Option (List table.Row)) :
    (store.set table rows).get table = rows := by
  rcases table with _ | _ | (_ | _ | _ | _ | (_ | _ | _) | (_ | _ | _) | _) <;> rfl

theorem get_set_of_ne (store : Store) {table other : Table} (different : other ≠ table) (rows : Option (List table.Row)) :
    (store.set table rows).get other = store.get other := by
  rcases table with _ | _ | (_ | _ | _ | _ | (_ | _ | _) | (_ | _ | _) | _) <;>
    rcases other with _ | _ | (_ | _ | _ | _ | (_ | _ | _) | (_ | _ | _) | _) <;>
    first | rfl | exact absurd rfl different

theorem denials_set (store : Store) (table : Table) (rows : Option (List table.Row)) :
    (store.set table rows).denials = store.denials := by
  rcases table with _ | _ | (_ | _ | _ | _ | (_ | _ | _) | (_ | _ | _) | _) <;> rfl

theorem eq_of_get_eq {one other : Store} (tables : ∀ table, one.get table = other.get table)
    (denials : one.denials = other.denials) : one = other := by
  cases one
  cases other
  rw [Store.mk.injEq]
  exact ⟨tables .contests, tables .submissions, tables (.derived .acceptedCount), tables (.derived .solver),
    tables (.derived .ratedPointSum), tables (.derived .languageCount), tables (.derived (.great .first)),
    tables (.derived (.great .fastest)), tables (.derived (.great .shortest)), tables (.derived (.greatCount .first)),
    tables (.derived (.greatCount .fastest)), tables (.derived (.greatCount .shortest)), tables (.derived .points), denials⟩

/-- The rows of a table, none where there is no such table. -/
def rows (store : Store) (table : Table) : List table.Row :=
  (store.get table).getD []

/-- Why an event on a row is refused, if it is. -/
def refusal? (store : Store) (table : Table) (event : Event) (first : Cell) : Option String :=
  (store.denials.find? (·.covers table event first)).map (·.message)

def permit (store : Store) (table : Table) (event : Event) (first : Cell) : Except StoreError Unit :=
  match store.refusal? table event first with
  | some message => .error (.denied message)
  | none => .ok ()

end Store

end JudgeStats
