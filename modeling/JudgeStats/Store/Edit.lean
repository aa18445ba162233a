import JudgeStats.Store.Basic

/-! Changing and viewing a store from outside: rows are given by the names of their columns, and found by the cells of their
keys. A change that fails leaves the store as it was. -/

namespace JudgeStats.Store

open Schema (columns cells key read)

/-- A key of a single column that is given as nothing counts as left out. -/
def withoutNullKey (table : Table) (given : List (String × Cell)) : List (String × Cell) :=
  given.filter fun (name, cell) => !(cell == .null && Schema.keyColumns table.Row == [name])

/-- Adds a row. Columns that are left out have what their tables say. -/
def insertRow (store : Store) (table : Table) (rows : List table.Row) (given : List (String × Cell)) :
    Except StoreError (List table.Row) := do
  let fields := Fields.override (withoutNullKey table given) (.absent (columns table.Row))
  unless (columns table.Row).all fun column => (fields column.name).fits do throw .numberTooLarge
  store.permit table .insert (fields (Schema.firstColumn table.Row))
  let row : table.Row ← (read fields).mapError (.missing table)
  if rows.any (key · == key row) then throw (.duplicate table)
  return Ascending.put key row rows

/-- Adds rows one after the other, all of them or none. The result is their number. -/
def insert (store : Store) (table : Table) (given : List (List (String × Cell))) : Except StoreError (Store × Nat) :=
  match store.get table, given with
  | _, [] => .ok (store, 0)
  | none, _ => .error (.noSuchTable table)
  | some rows, _ => do
    let rows ← given.foldlM (store.insertRow table) rows
    return (store.set table (some rows), given.length)

/-- Changes some columns of the row with a key. A denial is about the row as it would be. The result is the number of such
rows, none or one. Where no column is given, or no row can have the key, nothing is looked up. -/
def update (store : Store) (table : Table) (wanted : List Cell) (given : List (String × Cell)) :
    Except StoreError (Store × Nat) :=
  if given.isEmpty || wanted.any (!·.fits) then .ok (store, 0)
  else
    match store.get table with
    | none => .error (.noSuchTable table)
    | some rows =>
      if given.any (!·.2.fits) then .error .numberTooLarge
      else
        match rows.find? (Schema.keyCells · == wanted) with
        | none => .ok (store, 0)
        | some row => do
          let fields := Fields.override given (Schema.fields row)
          store.permit table .update (fields (Schema.firstColumn table.Row))
          let changed : table.Row ← (read fields).mapError (.missing table)
          let others := rows.filter (key · != key row)
          if others.any (key · == key changed) then throw (.duplicate table)
          return (store.set table (some (Ascending.put key changed others)), 1)

/-- Deletes the rows with the given keys, or all rows, unless one of them is denied. The result is their number. Where the
keys are none, or are nothing, nothing is looked up. -/
def delete (store : Store) (table : Table) (wanted : Option (List (List Cell))) : Except StoreError (Store × Nat) :=
  if wanted.any (·.all (· == [.null])) then .ok (store, 0)
  else
    match store.get table with
    | none => .error (.noSuchTable table)
    | some rows =>
      let isWanted (row : table.Row) : Bool := wanted.all (·.contains (Schema.keyCells row))
      if wanted.any (·.any (·.any (!·.fits))) then .error .numberTooLarge
      else
        match (rows.filter isWanted).findSome? fun row => store.refusal? table .delete (Schema.firstCell row) with
        | some message => .error (.denied message)
        | none => .ok (store.set table (some (rows.filter (!isWanted ·))), (rows.filter isWanted).length)

/-- Lifts the denial of an event on a table. -/
def allow (store : Store) (table : Table) (event : Event) : Store :=
  { store with denials := store.denials.filter fun denial => !(denial.table == table && denial.event == event) }

/-- Denies an event on a table from now on. It takes the place of an earlier denial of that event on that table. -/
def deny (store : Store) (denial : Denial) : Except StoreError Store := do
  unless denial.isWritable do throw .unwritableDenial
  if (store.get denial.table).isNone then throw (.nothingToDeny denial.table)
  let rest := store.allow denial.table denial.event
  return { rest with denials := denial :: rest.denials }

/-- Takes a table away with all its rows. -/
def drop (store : Store) (table : Table) : Except StoreError Store :=
  if (store.get table).isNone then .error (.noSuchTable table) else .ok (store.set table none)

/-- The cells of all rows of a table, ascending by key, if there is such a table. -/
def cellRows? (store : Store) (table : Table) : Option (List (List Cell)) :=
  (store.get table).map (·.map cells)

/-- All rows of a table in words, ascending by key. -/
def summaries (store : Store) (table : Table) : Except StoreError (List String) :=
  match store.get table with
  | none => .error (.noSuchTable table)
  | some rows => .ok (rows.map Schema.summary)

end JudgeStats.Store
