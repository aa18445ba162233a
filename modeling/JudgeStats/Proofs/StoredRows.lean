import JudgeStats.Proofs.AmountSums
import JudgeStats.Proofs.PointRows
import JudgeStats.Proofs.RefreshFaults
import JudgeStats.Proofs.SessionSteps
import JudgeStats.Proofs.SourceRows

/-! What every session keeps. A table has one row for each of its keys, and amounts are held in the form in which they are
saved, whatever was inserted, updated, deleted, denied, dropped or refreshed, and whether or not it failed. -/

namespace JudgeStats

theorem Cell.saved_saved (cell : Cell) : cell.saved.saved = cell.saved := by
  cases cell with
  | amount value =>
    have zero : Cell.saved (.amount 0.0) = .amount 0.0 := by decide +kernel
    rw [saved]
    split
    · rfl
    next number =>
      split
      · exact zero
      next other => rw [saved, if_neg number, if_neg other]
  | _ => rfl

namespace Table

/-- Whether a row has its amounts as they are saved. -/
def IsSaved : (table : Table) → table.Row → Prop
  | submissions, row => ∀ amount, row.point = some amount → Amount.IsSaved amount
  | derived .points, row => ∀ amount, row.point = some amount → Amount.IsSaved amount
  | derived .ratedPointSum, row => Amount.IsSaved row.total
  | contests, _ | derived .acceptedCount, _ | derived .solver, _ | derived .languageCount, _ | derived (.great _), _
  | derived (.greatCount _), _ => True

/-- Rows as a table may hold them. -/
structure Holds (table : Table) (rows : List table.Row) : Prop where
  ascending : Ascending Schema.key rows
  saved : ∀ row ∈ rows, table.IsSaved row

variable {table : Table} {rows : List table.Row}

theorem holds_nil : table.Holds [] :=
  ⟨.nil, fun _ member => nomatch member⟩

theorem Holds.put (held : table.Holds rows) {row : table.Row} (saved : table.IsSaved row) :
    table.Holds (Ascending.put Schema.key row rows) := by
  refine ⟨Ascending.put_ascending held.ascending row, fun member inside => ?_⟩
  rcases Ascending.mem_of_mem_put inside with rfl | old
  · exact saved
  · exact held.saved member old

theorem Holds.filter (held : table.Holds rows) (kept : table.Row → Bool) : table.Holds (rows.filter kept) :=
  ⟨held.ascending.filter kept, fun row inside => held.saved row (List.mem_of_mem_filter inside)⟩

private theorem isSaved_of_amount {given : List (String × Cell)} {rest : Fields} {column : String} {amount : Float}
    (found : (Fields.override given rest).amount column = .ok amount) : Amount.IsSaved amount := by
  cases cell : Fields.override given rest column with
  | amount value =>
    simp only [Fields.amount, cell] at found
    cases found
    rw [Amount.IsSaved, ← cell, Fields.override]
    exact Cell.saved_saved _
  | null | number _ | text _ =>
    simp only [Fields.amount, cell] at found
    cases found

private theorem isSaved_of_amount? {given : List (String × Cell)} {rest : Fields} {column : String} {amount : Float}
    (found : (Fields.override given rest).amount? column = some amount) : Amount.IsSaved amount := by
  rw [Fields.amount?] at found
  cases read : (Fields.override given rest).amount column with
  | error missing => rw [read] at found; cases found
  | ok value =>
    rw [read] at found
    cases found
    exact isSaved_of_amount read

theorem isSaved_of_read {given : List (String × Cell)} {rest : Fields} {row : table.Row}
    (found : Schema.read (Fields.override given rest) = .ok row) : table.IsSaved row := by
  cases table with
  | contests => trivial
  | submissions =>
    -- One step for each field that may be refused; a missing amount is none, so it comes without a step.
    obtain ⟨_, _, found⟩ := ok_of_bind found
    obtain ⟨_, _, found⟩ := ok_of_bind found
    obtain ⟨_, _, found⟩ := ok_of_bind found
    obtain ⟨_, _, found⟩ := ok_of_bind found
    obtain ⟨_, _, found⟩ := ok_of_bind found
    obtain ⟨_, _, found⟩ := ok_of_bind found
    obtain ⟨_, _, found⟩ := ok_of_bind found
    obtain ⟨_, _, found⟩ := ok_of_bind found
    cases found
    exact fun amount point => isSaved_of_amount? point
  | derived table =>
    cases table with
    | points =>
      obtain ⟨_, _, found⟩ := ok_of_bind found
      cases found
      exact fun amount point => isSaved_of_amount? point
    | ratedPointSum =>
      obtain ⟨_, _, found⟩ := ok_of_bind found
      obtain ⟨total, sum, found⟩ := ok_of_bind found
      cases found
      exact isSaved_of_amount sum
    | _ => trivial

end Table

namespace Store
open Schema (read)

def Stored (store : Store) : Prop :=
  ∀ table rows, store.get table = some rows → table.Holds rows

theorem insertRow_holds {store : Store} {table : Table} {rows next : List table.Row} {given : List (String × Cell)}
    (held : table.Holds rows) (inserted : store.insertRow table rows given = .ok next) : table.Holds next := by
  obtain ⟨row, made, _, rfl⟩ := insertRow_ok inserted
  exact held.put (Table.isSaved_of_read made)

theorem insertRows_holds {store : Store} {table : Table} {rows next : List table.Row}
    {given : List (List (String × Cell))} (held : table.Holds rows)
    (inserted : given.foldlM (store.insertRow table) rows = .ok next) : table.Holds next := by
  induction given generalizing rows with
  | nil => cases inserted; exact held
  | cons first rest ih =>
    obtain ⟨middle, single, others⟩ := ok_of_bind inserted
    exact ih (insertRow_holds held single) others

section Stored
variable {store next : Store} (stored : store.Stored)
include stored

theorem Stored.rows (table : Table) : table.Holds (store.rows table) := by
  rw [Store.rows]
  cases held : store.get table with
  | none => exact Table.holds_nil
  | some rows => exact stored table rows held

theorem Stored.keyed : store.Keyed := by
  have numbered (row : Submission) : Schema.key row = .number row.id := rfl
  exact ⟨Ascending.nodup_names numbered (stored.rows .submissions).ascending, (stored.rows _).ascending⟩

theorem Stored.hasSavedPoints : store.HasSavedPoints :=
  (stored.rows .submissions).saved

theorem Stored.set {table : Table} {rows : Option (List table.Row)} (held : ∀ given, rows = some given → table.Holds given) :
    (store.set table rows).Stored := by
  intro other found
  by_cases same : other = table
  · subst same
    rw [get_set_self]
    exact held found
  · rw [get_set_of_ne store same]
    exact stored other found

theorem Stored.insert {table : Table} {given : List (List (String × Cell))} {count : Nat}
    (inserted : store.insert table given = .ok (next, count)) : next.Stored := by
  rcases insert_cases inserted with rfl | ⟨rows, after, found, written, rfl⟩
  · exact stored
  · apply stored.set
    rintro _ ⟨⟩
    exact insertRows_holds (stored table rows found) written

theorem Stored.update {table : Table} {wanted : List Cell} {given : List (String × Cell)} {count : Nat}
    (updated : store.update table wanted given = .ok (next, count)) : next.Stored := by
  rcases update_cases updated with rfl | ⟨rows, row, changed, found, _, _, made, rfl⟩
  · exact stored
  · apply stored.set
    rintro _ ⟨⟩
    exact ((stored table rows found).filter _).put (Table.isSaved_of_read made)

theorem Stored.delete {table : Table} {wanted : Option (List (List Cell))} {count : Nat}
    (deleted : store.delete table wanted = .ok (next, count)) : next.Stored := by
  rcases delete_cases deleted with rfl | ⟨rows, found, rfl⟩
  · exact stored
  · apply stored.set
    rintro _ ⟨⟩
    exact (stored table rows found).filter _

theorem Stored.withDenials (denials : List Denial) : ({ store with denials := denials } : Store).Stored := by
  intro table rows found
  rw [get_withDenials] at found
  exact stored table rows found

theorem Stored.drop {table : Table} (dropped : store.drop table = .ok next) : next.Stored := by
  obtain ⟨_, rfl⟩ := drop_ok dropped
  apply stored.set
  rintro _ ⟨⟩

/-- A rebuild that may be written has saved amounts: the points are amounts of submissions, and a sum of points that is no
number is refused. -/
theorem Stored.isSaved_of_rebuild {settings : Settings} {table : Derived} {replaced : Store × Nat}
    (finished : store.replace settings table = .ok replaced) :
    ∀ row ∈ table.rebuild settings store, (Table.derived table).IsSaved row := by
  intro row member
  cases table with
  | points =>
    intro amount point
    obtain ⟨_, most⟩ := Statistic.mem_mostPoints_iff.mp member
    obtain ⟨submission, among, got⟩ := List.mem_filterMap.mp (mem_of_best? (most.symm.trans point))
    have solved := List.mem_of_mem_filter (List.mem_of_mem_filter among)
    exact stored.hasSavedPoints submission (mem_of_mem_solved solved) amount got
  | ratedPointSum =>
    obtain ⟨_, sum⟩ := Statistic.mem_pointsByUser_iff.mp member
    change Amount.IsSaved row.total
    have number : row.total.isNaN = false := by
      apply Bool.eq_false_iff.mpr
      intro nan
      exact sound_of_replace finished .rejectedRow ⟨_, row, member, _, .inr ⟨nan, rfl⟩, rfl⟩
    rw [sum] at number ⊢
    apply Amount.isSaved_sum _ number
    intro amount inside
    obtain ⟨problem, _, worth⟩ := List.mem_filterMap.mp inside
    have held := (Statistic.pointOf?_eq_some_iff stored.keyed.points).mp worth
    exact (stored.rows (.derived .points)).saved _ held amount rfl
  | _ => trivial

theorem Stored.replace {settings : Settings} {table : Derived} {count : Nat}
    (replaced : store.replace settings table = .ok (next, count)) : next.Stored := by
  have saved := stored.isSaved_of_rebuild replaced
  have old := stored.rows (.derived table)
  rw [(replace_ok replaced).1]
  apply stored.set
  rintro _ ⟨⟩
  refine ⟨Derived.rewritten_ascending settings old.ascending, fun row member => ?_⟩
  rcases (Derived.mem_rewritten_iff settings old.ascending).mp member with built | ⟨⟨kept, _⟩, _⟩
  · exact saved row built
  · exact old.saved row kept

theorem Stored.replaceAll {settings : Settings} {tables : List Derived} {told : List (Derived × Nat)}
    (replaced : Store.replaceAll settings tables store = .ok (next, told)) : next.Stored := by
  induction tables generalizing store next told with
  | nil => cases replaced; exact stored
  | cons table rest ih =>
    rw [Store.replaceAll] at replaced
    obtain ⟨⟨middle, count⟩, first, others⟩ := ok_of_bind replaced
    obtain ⟨⟨last, remaining⟩, later, whole⟩ := ok_of_bind others
    cases whole
    exact ih (stored.replace first) later

theorem Stored.perform {step : StoreStep} {reply : Reply} (performed : step.perform store = .ok (next, reply)) :
    next.Stored := by
  cases step with
  | insert table rows =>
    obtain ⟨⟨after, count⟩, inserted, ⟨⟩⟩ := ok_of_map performed
    exact stored.insert inserted
  | update table key given =>
    obtain ⟨⟨after, count⟩, updated, ⟨⟩⟩ := ok_of_map performed
    exact stored.update updated
  | delete table keys =>
    obtain ⟨⟨after, count⟩, deleted, ⟨⟩⟩ := ok_of_map performed
    exact stored.delete deleted
  | deny denial =>
    obtain ⟨after, denied, ⟨⟩⟩ := ok_of_map performed
    obtain ⟨_, rfl⟩ := deny_ok denied
    exact stored.withDenials _
  | allow table event =>
    cases performed
    exact stored.withDenials _
  | drop table =>
    obtain ⟨after, dropped, ⟨⟩⟩ := ok_of_map performed
    exact stored.drop dropped
  | dump tables =>
    cases performed
    exact stored
  | summaries table =>
    obtain ⟨lines, shown, ⟨⟩⟩ := ok_of_map performed
    exact stored

end Stored

theorem Stored.refreshedTo {settings : Settings} {store last : Store} (stored : store.Stored)
    (refreshed : store.RefreshedTo settings last) : last.Stored := by
  induction refreshed with
  | stay => exact stored
  | commit _ _ replaced _ ih => exact ih (stored.replaceAll replaced)

end Store

def Databases.Stored (databases : Databases) : Prop :=
  ∀ place, (databases.get place).Stored

theorem Step.perform_stored (settings : Settings) (step : Step) {databases : Databases} (stored : databases.Stored) :
    (step.perform settings databases).1.Stored := by
  intro place
  rcases step.perform_cases settings databases place with same | ⟨_, _, _, performed⟩ | ⟨_, _, refreshed⟩
  · rw [same]
    exact stored place
  · exact (stored place).perform performed
  · exact (stored place).refreshedTo refreshed

/-- Whatever the steps of a session are, its stores hold only what they may hold. -/
theorem Session.run_stored (settings : Settings) (steps : List Step) {databases : Databases} (stored : databases.Stored) :
    (Session.run settings steps databases).1.Stored := by
  induction steps generalizing databases with
  | nil => exact stored
  | cons step rest ih => exact ih (Step.perform_stored settings step stored)

theorem Databases.stored_empty : ({} : Databases).Stored := by
  intro place table rows found
  have empty : rows = [] := by
    cases place <;> rcases table with _ | _ | (_ | _ | _ | _ | (_ | _ | _) | (_ | _ | _) | _) <;> cases found <;> rfl
  rw [empty]
  exact Table.holds_nil

end JudgeStats
