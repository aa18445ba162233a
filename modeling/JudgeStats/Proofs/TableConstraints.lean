import JudgeStats.Proofs.CommitRecord
import JudgeStats.Proofs.StoredRows
import Mathlib.Tactic.FinCases

/-! What the tables declare of their rows holds in every session: a key occurs once, a column that has to hold something
does, and amounts are numbers of one form. What a refresh counts is there to be counted, so no count that it writes is below
one; a count that came from outside may be anything. -/

namespace JudgeStats

/-- The cells that hold a key. -/
def Key.cells : Key → List Cell
  | number value => [.number value]
  | text value => [.text value]
  | pair first second => [.text first, .text second]

theorem Key.cells_injective : Function.Injective Key.cells := by
  intro one other same
  cases one <;> cases other <;> simp_all [cells]

theorem Cell.amount_eq_ofAmount?_iff {amount : Float} {value : Option Float} :
    Cell.amount amount = .ofAmount? value ↔ value = some amount := by
  cases value <;> simp [ofAmount?, eq_comm]

theorem Cell.amount_ne_ofNumber? {amount : Float} {value : Option Int} : Cell.amount amount ≠ .ofNumber? value := by
  cases value <;> simp [ofNumber?]

namespace Table

/-- The columns that may hold nothing. -/
def optional : Table → List String
  | submissions => ["point", "execution_time"]
  | derived .points => ["point"]
  | contests | derived .acceptedCount | derived .solver | derived .ratedPointSum | derived .languageCount
  | derived (.great _) | derived (.greatCount _) => []

/-- Rows as their table declares them. -/
structure Meets (table : Table) (rows : List table.Row) : Prop where
  single : (rows.map Schema.keyCells).Nodup
  filled : ∀ row ∈ rows, ∀ column ∈ Schema.columns table.Row,
    Schema.fields row column.name = .null → column.name ∈ table.optional
  numbers : ∀ row ∈ rows, ∀ amount, .amount amount ∈ Schema.cells row → amount.isNaN = false ∧ amount ≠ -0.0

section Rows
variable {table : Table} {row : table.Row}

theorem keyCells_eq (row : table.Row) : Schema.keyCells row = (Schema.key row).cells := by
  rcases table with _ | _ | (_ | _ | _ | _ | _ | _ | _) <;> rfl

theorem mem_optional_of_null {column : Column} (member : column ∈ Schema.columns table.Row)
    (null : Schema.fields row column.name = .null) : column.name ∈ table.optional := by
  rcases table with _ | _ | (_ | _ | _ | _ | _ | _ | _)
  all_goals
    fin_cases member
  all_goals first | contradiction | decide

theorem isSaved_of_mem_cells (saved : table.IsSaved row) {amount : Float} (member : .amount amount ∈ Schema.cells row) :
    Amount.IsSaved amount := by
  -- Rows without amounts have no such cell.
  rcases table with _ | _ | (_ | _ | _ | _ | _ | _ | _)
  all_goals
    simp [Schema.cells, Cell.amount_eq_ofAmount?_iff, Cell.amount_ne_ofNumber?] at member
  case submissions => exact saved amount member
  case derived.ratedPointSum => exact member ▸ saved
  case derived.points => exact saved amount member

end Rows

theorem Holds.meets {table : Table} {rows : List table.Row} (held : table.Holds rows) : table.Meets rows := by
  refine ⟨?_, fun row _ column => mem_optional_of_null, fun row member amount inside => ?_⟩
  · have cells : rows.map Schema.keyCells = (rows.map Schema.key).map Key.cells := by
      rw [List.map_map]
      exact List.map_congr_left fun row _ => keyCells_eq row
    rw [cells]
    exact held.ascending.nodup_keys.map Key.cells_injective
  · have saved := isSaved_of_mem_cells (held.saved row member) inside
    have negative : ¬ Amount.IsSaved (-0.0) := by decide +kernel
    exact ⟨(Amount.isSaved_iff.mp saved).1, fun zero => negative (zero ▸ saved)⟩

end Table

namespace Derived

/-- What a row counts, if it counts something. -/
def counted? : (table : Derived) → table.Row → Option Int
  | acceptedCount, row => some row.problems
  | solver, row => some row.users
  | languageCount, row => some row.problems
  | greatCount _, row => some row.problems
  | ratedPointSum, _ | great _, _ | points, _ => none

/-- Rows whose counts are all of something. -/
def CountsFromOne (table : Derived) (rows : List table.Row) : Prop :=
  ∀ row ∈ rows, ∀ count, table.counted? row = some count → 1 ≤ count

theorem countsFromOne_rebuild (settings : Settings) (store : Store) (table : Derived) :
    table.CountsFromOne (table.rebuild settings store) := by
  have byUser (submissions : List Submission) : ∀ row ∈ Statistic.problemsByUser submissions, 1 ≤ row.problems := by
    intro row member
    obtain ⟨⟨user, number⟩, counted, rfl⟩ := List.mem_map.mp member
    exact Int.ofNat_le.mpr (Statistic.pos_of_mem_tally counted)
  intro row member count counted
  cases table with
  | acceptedCount =>
    cases counted
    exact byUser _ row member
  | greatCount measure =>
    cases counted
    exact byUser _ row member
  | solver =>
    cases counted
    obtain ⟨⟨problem, number⟩, tallied, rfl⟩ := List.mem_map.mp member
    exact Int.ofNat_le.mpr (Statistic.pos_of_mem_tally tallied)
  | languageCount =>
    cases counted
    obtain ⟨number, same, tallied⟩ := Statistic.mem_problemsByLanguage_iff_tally.mp member
    rw [same]
    exact Int.ofNat_le.mpr (Statistic.pos_of_mem_tally tallied)
  | ratedPointSum | great _ | points => cases counted

theorem ReplacedFrom.countsFromOne {settings : Settings} {start after : Store} {table : Derived}
    (replaced : table.ReplacedFrom settings start after) : table.CountsFromOne (after.rows (.derived table)) := by
  cases table with
  | points =>
    intro row _ count counted
    cases counted
  | acceptedCount | solver | ratedPointSum | languageCount | great _ | greatCount _ =>
    rw [Store.rows, replaced]
    exact countsFromOne_rebuild settings start _

end Derived

/-- A table of a database where a call works, if the call tells of it. -/
def Writes (plan : Option (Alias × List Operation)) (log : List LogEntry) (place : Alias) (table : Derived) : Prop :=
  ∃ operations, plan = some (place, operations) ∧ table ∈ (records log).map Prod.fst

/-- What a call has written counts from one on. All else is as before. -/
def WritesFromOne {ε α : Type} (plan : Option (Alias × List Operation)) (databases : Databases)
    (outcome : Outcome Databases ε α) : Prop :=
  ∀ place table,
    (Writes plan outcome.log place table → table.CountsFromOne ((outcome.state.get place).rows (.derived table))) ∧
    (¬ Writes plan outcome.log place table →
      (outcome.state.get place).get (.derived table) = (databases.get place).get (.derived table))

theorem Recorded.writesFromOne {ε α : Type} {settings : Settings} {plan : Option (Alias × List Operation)}
    {databases : Databases} {outcome : Outcome Databases ε α} {answer : List (Operation × Nat) → α}
    (recorded : Recorded settings plan databases outcome answer) : WritesFromOne plan databases outcome := by
  intro place table
  constructor
  · rintro ⟨operations, planned, told⟩
    obtain ⟨⟨_, count⟩, member, rfl⟩ := List.mem_map.mp told
    obtain ⟨_, _, _, _, _, _, _, _, _, replaced⟩ := (recorded.accounts place operations planned).replaced _ count member
    exact replaced.countsFromOne
  · intro silent
    cases planned : plan with
    | none => rw [(recorded.idle planned).1]
    | some work =>
      obtain ⟨chosen, operations⟩ := work
      by_cases same : place = chosen
      · subst same
        apply (recorded.accounts place operations planned).untouched
        exact fun told => silent ⟨operations, planned, told⟩
      · rw [recorded.elsewhere chosen operations planned place same]

theorem RefreshStep.perform_writesFromOne (settings : Settings) (database : String) (call : RefreshStep)
    {databases : Databases} (keyed : ∀ place, (databases.get place).Keyed) :
    WritesFromOne (call.plan? database) databases (call.perform settings database databases) := by
  cases call with
  | run operation => exact (runOperation_recorded settings keyed database operation).writesFromOne
  | updateAll only => exact (updateAll_recorded settings keyed database only).writesFromOne
  | task only =>
    obtain ⟨state, log, _⟩ := tellFailure_effect (databases.updateAll settings Alias.default.name only)
    intro place table
    have written := (updateAll_recorded settings keyed Alias.default.name only).writesFromOne place table
    rw [Writes, ← log, ← state] at written
    exact written
  | command words => exact (Command.run_recorded settings keyed words).writesFromOne

/-- After any steps every table has its rows as it declares them, and a refresh writes no count below one, whether it
succeeds or fails. -/
theorem Session.constraints_hold (settings : Settings) (steps : List Step) :
    let databases := (run settings steps {}).1
    (∀ place table rows, (databases.get place).get table = some rows → table.Meets rows) ∧
    ∀ database (call : RefreshStep),
      WritesFromOne (call.plan? database) databases (call.perform settings database databases) := by
  intro databases
  have stored : databases.Stored := run_stored settings steps Databases.stored_empty
  refine ⟨fun place table rows there => (stored place table rows there).meets, fun database call => ?_⟩
  exact call.perform_writesFromOne settings database fun place => (stored place).keyed

/-- Amounts that are no numbers, a zero with a sign and a count of nothing are given, and then a refresh counts. -/
theorem Session.constraints_hold_after_odd_rows :
    let submission (id : Int) (problem : String) (point : Float) : List (String × Cell) :=
      [("id", .number id), ("epoch_second", .number 1500000100), ("problem_id", .text problem),
        ("contest_id", .text "abc1"), ("user_id", .text "ann"), ("point", .amount point), ("length", .number 20),
        ("result", .text "AC")]
    let steps : List Step := [
      ⟨"default", .store (.insert .submissions [submission 1 "a" (0.0 / 0.0), submission 2 "b" (-0.0)])⟩,
      ⟨"default", .store (.insert (.derived .acceptedCount) [[("user_id", .text "eve"), ("problem_count", .number 0)]])⟩]
    let databases := (run {} steps {}).1
    let call : RefreshStep := .run .acceptedCount
    let outcome := call.perform {} "default" databases
    (databases.default.rows .submissions).map (·.point) = [none, some 0.0] ∧
    databases.default.acceptedCount = some [⟨"eve", 0⟩] ∧
    Table.submissions.Meets (databases.default.rows .submissions) ∧
    outcome.state.default.acceptedCount = some [⟨"ann", 2⟩] ∧
    Derived.acceptedCount.CountsFromOne (outcome.state.default.rows (.derived .acceptedCount)) := by
  intro submission steps databases call outcome
  obtain ⟨constraints, written⟩ := constraints_hold {} steps
  have there : databases.default.get .submissions = some (databases.default.rows .submissions) := by decide +kernel
  have told : Writes (call.plan? "default") outcome.log .default .acceptedCount :=
    ⟨[.acceptedCount], by decide +kernel, by decide +kernel⟩
  exact ⟨by decide +kernel, by decide +kernel, constraints .default .submissions _ there, by decide +kernel,
    (written "default" call .default .acceptedCount).1 told⟩

end JudgeStats
