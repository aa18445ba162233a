import JudgeStats.Refresh.Outcome
import JudgeStats.Statistic.Rebuild

/-! Replacing the rows of derived tables. All tables of one transaction get their new rows, or none of them changes. -/

namespace JudgeStats

inductive RefreshError where
  /-- The store refused to rebuild a table. -/
  | refused (table : Derived) (cause : StoreError)
  | batchSize
  | unknownOperations (names : List String)
  | unknownDatabase (name : String)
deriving DecidableEq

def RefreshError.message : RefreshError → String
  | refused table cause => s!"refreshing {table.name} failed: {cause.message}"
  | batchSize => "Batch size must be a positive integer."
  | unknownOperations names => "Unknown operations: " ++ ", ".intercalate names
  | unknownDatabase name => s!"The connection '{name}' doesn't exist."

namespace Store

/-- Why the stale rows of a derived table may not go, if they may not. -/
def clearError? (store : Store) (table : Derived) : Option StoreError :=
  (((store.rows (.derived table)).filter table.isStale).findSome? fun row =>
    store.refusal? (.derived table) .delete (Schema.firstCell row)).map .denied

/-- Why a row may not be added to some others, if it may not. Where a row with its key is there and gives way, that counts
as an update as well. -/
def writeError? (store : Store) (table : Derived) (rows : List table.Row) (row : table.Row) : Option StoreError :=
  let denied (event : Event) : Option StoreError :=
    (store.refusal? (.derived table) event (Schema.firstCell row)).map .denied
  let missing : Option StoreError := (table.missing? row).map (.missing (.derived table))
  let conflict : Option StoreError :=
    if rows.any (Schema.key · == Schema.key row) then
      if table.replaces then denied .update else some (.duplicate (.derived table))
    else none
  (denied .insert).or (missing.or conflict)

def write (store : Store) (table : Derived) (rows : List table.Row) (row : table.Row) :
    Except StoreError (List table.Row) :=
  match store.writeError? table rows row with
  | some error => .error error
  | none => .ok (Ascending.put Schema.key row rows)

/-- What stands in the way of a rebuild before anything is written: a source that is not there or cannot be used, then the
table itself that is not there, then a stale row that may not go, then the size of a batch, even if there is nothing to
write. -/
def obstacle? (settings : Settings) (store : Store) (table : Derived) : Option RefreshError :=
  let absent (tables : List Table) : Option StoreError :=
    (tables.find? fun needed => (store.get needed).isNone).map .noSuchTable
  let reading := (absent (table.sources settings)).or (table.sourceError? settings store)
  let clearing := (absent [.derived table]).or (store.clearError? table)
  ((reading.or clearing).map (RefreshError.refused table)).or (if settings.batchSize ≤ 0 then some .batchSize else none)

/-- Deletes the stale rows of a derived table and writes what its sources give, row by row. Also tells how many rows were
written. -/
def replace (settings : Settings) (store : Store) (table : Derived) : Except RefreshError (Store × Nat) :=
  match store.obstacle? settings table with
  | some error => .error error
  | none =>
    let kept := (store.rows (.derived table)).filter (!table.isStale ·)
    let built := table.rebuild settings store
    match built.foldlM (store.write table) kept with
    | .error error => .error (.refused table error)
    | .ok rows => .ok (store.set (.derived table) (some rows), built.length)

/-- Replaces tables one after the other, each from what the ones before it left. -/
def replaceAll (settings : Settings) : List Derived → Store → Except RefreshError (Store × List (Derived × Nat))
  | [], store => .ok (store, [])
  | table :: rest, store => do
    let (next, count) ← store.replace settings table
    let (last, counts) ← replaceAll settings rest next
    return (last, (table, count) :: counts)

/-- A transaction: the tables are replaced and told about, or the store stays as it was. The result is the number of rows
written. -/
def commit (settings : Settings) (tables : List Derived) (store : Store) : Outcome Store RefreshError Nat :=
  match replaceAll settings tables store with
  | .error error => .failed store error
  | .ok (next, counts) =>
    ⟨next, counts.map fun (table, count) => .rebuilt table count, .ok (total (counts.map (·.2)))⟩

end Store

end JudgeStats
