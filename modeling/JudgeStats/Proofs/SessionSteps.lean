import JudgeStats.Proofs.CommitRecord

/-! What one step of a session can do to a store. A change from outside writes one table anew or takes it away, and leaves
all others. A refresh does some transactions, each of which succeeds, and the first that fails leaves nothing. What every
step keeps is proved from these cases. -/

namespace JudgeStats

namespace Store
open Schema (key keyCells read)

section Edits
variable {store next : Store} {table : Table} {count : Nat}

/-- A row that is added has a key of its own. -/
theorem insertRow_ok {rows after : List table.Row} {given : List (String × Cell)}
    (inserted : store.insertRow table rows given = .ok after) : ∃ row : table.Row,
      read (Fields.override (withoutNullKey table given) (.absent (Schema.columns table.Row))) = .ok row ∧
      (∀ old ∈ rows, key old ≠ key row) ∧ after = Ascending.put key row rows := by
  unfold insertRow at inserted
  dsimp only at inserted
  split at inserted
  · obtain ⟨_, _, inserted⟩ := ok_of_bind inserted
    obtain ⟨row, made, inserted⟩ := ok_of_bind inserted
    split at inserted
    · cases inserted
    next free =>
      cases inserted
      refine ⟨row, ok_of_mapError made, fun old member same => ?_, rfl⟩
      exact free (List.any_eq_true.mpr ⟨old, member, beq_iff_eq.mpr same⟩)
  · cases inserted

theorem insert_cases {given : List (List (String × Cell))} (inserted : store.insert table given = .ok (next, count)) :
    next = store ∨ ∃ rows after, store.get table = some rows ∧ given.foldlM (store.insertRow table) rows = .ok after ∧
      next = store.set table (some after) := by
  unfold insert at inserted
  split at inserted
  · cases inserted
    exact .inl rfl
  · cases inserted
  next _ _ _ rows found _ =>
    obtain ⟨after, written, whole⟩ := ok_of_bind inserted
    cases whole
    exact .inr ⟨rows, after, found, written, rfl⟩

theorem update_cases {wanted : List Cell} {given : List (String × Cell)}
    (updated : store.update table wanted given = .ok (next, count)) :
    next = store ∨ ∃ rows row changed, store.get table = some rows ∧ row ∈ rows ∧ keyCells row = wanted ∧
      read (Fields.override given (Schema.fields row)) = .ok changed ∧
      next = store.set table (some (Ascending.put key changed (rows.filter (key · != key row)))) := by
  unfold update at updated
  split at updated
  · cases updated
    exact .inl rfl
  · split at updated
    · cases updated
    next rows found =>
      split at updated
      · cases updated
      · split at updated
        · cases updated
          exact .inl rfl
        next row first =>
          dsimp only at updated
          obtain ⟨_, _, updated⟩ := ok_of_bind updated
          obtain ⟨changed, made, updated⟩ := ok_of_bind updated
          split at updated
          · cases updated
          · cases updated
            have same := List.find?_some first
            exact .inr ⟨rows, row, changed, found, List.mem_of_find?_eq_some first, beq_iff_eq.mp same,
              ok_of_mapError made, rfl⟩

theorem delete_cases {wanted : Option (List (List Cell))} (deleted : store.delete table wanted = .ok (next, count)) :
    next = store ∨ ∃ rows, store.get table = some rows ∧
      next = store.set table (some (rows.filter fun row => !wanted.all (·.contains (keyCells row)))) := by
  unfold delete at deleted
  split at deleted
  · cases deleted
    exact .inl rfl
  · split at deleted
    · cases deleted
    next rows found =>
      dsimp only at deleted
      split at deleted
      · cases deleted
      · split at deleted
        · cases deleted
        · cases deleted
          exact .inr ⟨rows, found, rfl⟩

theorem deny_ok {denial : Denial} (denied : store.deny denial = .ok next) :
    (store.get denial.table).isSome ∧
      next = { store with denials := denial :: (store.allow denial.table denial.event).denials } := by
  unfold deny at denied
  dsimp only at denied
  split at denied
  · split at denied
    · cases denied
    next there =>
      cases denied
      exact ⟨Option.ne_none_iff_isSome.mp (mt Option.isNone_iff_eq_none.mpr there), rfl⟩
  · cases denied

theorem drop_ok (dropped : store.drop table = .ok next) : (store.get table).isSome ∧ next = store.set table none := by
  unfold drop at dropped
  split at dropped
  · cases dropped
  next there =>
    cases dropped
    exact ⟨Option.ne_none_iff_isSome.mp (mt Option.isNone_iff_eq_none.mpr there), rfl⟩

theorem get_withDenials (store : Store) (denials : List Denial) (table : Table) :
    ({ store with denials := denials } : Store).get table = store.get table := by
  rcases table with _ | _ | (_ | _ | _ | _ | (_ | _ | _) | (_ | _ | _) | _) <;> rfl

end Edits

/-- What transactions of operations make of a store where each of them succeeds. -/
inductive RefreshedTo (settings : Settings) : Store → Store → Prop where
  | stay (store : Store) : RefreshedTo settings store store
  | commit {store next last : Store} {tables : List Derived} {told : List (Derived × Nat)} (operation : Operation)
      (part : tables ∈ operation.transactions) (replaced : replaceAll settings tables store = .ok (next, told))
      (later : RefreshedTo settings next last) : RefreshedTo settings store last

section Refresh
variable {settings : Settings} {store last : Store}

theorem refreshedTo_each {transactions : List (List Derived)}
    (parts : ∀ tables ∈ transactions, ∃ operation : Operation, tables ∈ operation.transactions) :
    store.RefreshedTo settings (Outcome.each (commit settings) transactions store).state := by
  induction transactions generalizing store with
  | nil => exact .stay store
  | cons tables rest ih =>
    obtain ⟨⟨operation, part⟩, others⟩ := List.forall_mem_cons.mp parts
    rw [Outcome.each, Store.commit]
    cases replaced : replaceAll settings tables store with
    | error error =>
      rw [Outcome.andThen_of_error rfl]
      exact .stay store
    | ok outcome =>
      rw [Outcome.andThen_of_ok rfl]
      exact .commit operation part replaced (ih others)

theorem refreshedTo_run (settings : Settings) (operation : Operation) (store : Store) :
    store.RefreshedTo settings (operation.run settings store).state :=
  refreshedTo_each fun _ part => ⟨operation, part⟩

theorem refreshedTo_updateAll (settings : Settings) (only : Option (List String)) (store : Store) :
    store.RefreshedTo settings (store.updateAll settings only).state := by
  unfold updateAll
  split
  · rw [(runAll_effect settings (Operation.selected only) store).1]
    apply refreshedTo_each
    intro tables member
    obtain ⟨operation, _, part⟩ := List.mem_flatMap.mp member
    exact ⟨operation, part⟩
  · exact .stay store

end Refresh

end Store

namespace StoreStep

/-- The table whose rows a step may change. -/
def target? : StoreStep → Option Table
  | insert table _ | update table _ _ | delete table _ | drop table => some table
  | deny _ | allow _ _ | dump _ | summaries _ => none

section Perform
variable {step : StoreStep} {store next : Store} {reply : Reply} (performed : step.perform store = .ok (next, reply))
include performed

theorem perform_cases : (∀ table, next.get table = store.get table) ∨
    ∃ table rows, step.target? = some table ∧ next = store.set table rows := by
  cases step with
  | insert table given =>
    obtain ⟨⟨after, count⟩, inserted, ⟨⟩⟩ := ok_of_map performed
    rcases Store.insert_cases inserted with rfl | ⟨_, _, _, _, rfl⟩
    · exact .inl fun _ => rfl
    · exact .inr ⟨table, _, rfl, rfl⟩
  | update table wanted given =>
    obtain ⟨⟨after, count⟩, updated, ⟨⟩⟩ := ok_of_map performed
    rcases Store.update_cases updated with rfl | ⟨_, _, _, _, _, _, _, rfl⟩
    · exact .inl fun _ => rfl
    · exact .inr ⟨table, _, rfl, rfl⟩
  | delete table wanted =>
    obtain ⟨⟨after, count⟩, deleted, ⟨⟩⟩ := ok_of_map performed
    rcases Store.delete_cases deleted with rfl | ⟨_, _, rfl⟩
    · exact .inl fun _ => rfl
    · exact .inr ⟨table, _, rfl, rfl⟩
  | deny denial =>
    obtain ⟨after, denied, ⟨⟩⟩ := ok_of_map performed
    obtain ⟨_, rfl⟩ := Store.deny_ok denied
    exact .inl (store.get_withDenials _)
  | allow table event =>
    cases performed
    exact .inl (store.get_withDenials _)
  | drop table =>
    obtain ⟨after, dropped, ⟨⟩⟩ := ok_of_map performed
    obtain ⟨_, rfl⟩ := Store.drop_ok dropped
    exact .inr ⟨table, _, rfl, rfl⟩
  | dump tables =>
    cases performed
    exact .inl fun _ => rfl
  | summaries table =>
    obtain ⟨lines, shown, ⟨⟩⟩ := ok_of_map performed
    exact .inl fun _ => rfl

theorem get_of_perform {table : Table} (other : step.target? ≠ some table) : next.get table = store.get table := by
  rcases perform_cases performed with same | ⟨target, rows, changed, rfl⟩
  · exact same table
  · apply Store.get_set_of_ne
    rintro rfl
    exact other changed

end Perform

end StoreStep

namespace Databases
variable {settings : Settings} {databases : Databases}

/-- Each of the stores is refreshed, on its own. -/
def RefreshedTo (settings : Settings) (databases later : Databases) : Prop :=
  ∀ place, (databases.get place).RefreshedTo settings (later.get place)

theorem refreshedTo_self : databases.RefreshedTo settings databases :=
  fun _ => .stay _

theorem refreshedTo_set {place : Alias} {store : Store} (refreshed : (databases.get place).RefreshedTo settings store) :
    databases.RefreshedTo settings (databases.set place store) := by
  intro apart
  by_cases same : apart = place
  · rw [same, get_set_self]
    exact refreshed
  · rw [get_set_of_ne databases same]
    exact .stay _

theorem refreshedTo_runOperation (name : String) (operation : Operation) :
    databases.RefreshedTo settings (databases.runOperation settings name operation).state := by
  unfold runOperation
  cases Alias.ofName? name with
  | none => exact refreshedTo_self
  | some place => exact refreshedTo_set (Store.refreshedTo_run settings operation _)

theorem refreshedTo_updateAll (name : String) (only : Option (List String)) :
    databases.RefreshedTo settings (databases.updateAll settings name only).state := by
  unfold updateAll
  cases Alias.ofName? name with
  | none => cases Operation.unknown only <;> cases Operation.selected only <;> exact refreshedTo_self
  | some place => exact refreshedTo_set (Store.refreshedTo_updateAll settings only _)

theorem refreshedTo_command (words : List String) :
    databases.RefreshedTo settings (Command.run settings words databases).state := by
  unfold Command.run
  split
  · exact refreshedTo_self
  next arguments _ =>
    split
    · exact refreshedTo_self
    · split
      · exact refreshedTo_self
      · split
        · exact refreshedTo_self
        · unfold Command.refresh
          split
          · exact refreshedTo_self
          · exact refreshedTo_self
          · dsimp only
            rw [(tellFailure_effect _).1]
            exact refreshedTo_updateAll _ _

end Databases

theorem RefreshStep.perform_refreshedTo (settings : Settings) (database : String) (databases : Databases)
    (call : RefreshStep) : databases.RefreshedTo settings (call.perform settings database databases).state := by
  cases call with
  | run operation => exact Databases.refreshedTo_runOperation database operation
  | updateAll only => exact Databases.refreshedTo_updateAll database only
  | task only =>
    change databases.RefreshedTo settings (Databases.tellFailure _).state
    rw [(tellFailure_effect _).1]
    exact Databases.refreshedTo_updateAll _ only
  | command words => exact Databases.refreshedTo_command words

/-- A store after a step is as it was, or as a change from outside or a refresh has left it. -/
theorem Step.perform_cases (settings : Settings) (step : Step) (databases : Databases) (place : Alias) :
    let before := databases.get place
    let after := (step.perform settings databases).1.get place
    after = before ∨
    (∃ action reply, step.action = .store action ∧ action.perform before = .ok (after, reply)) ∨
    ∃ call, step.action = .refresh call ∧ before.RefreshedTo settings after := by
  dsimp only
  unfold perform
  split
  next action stored =>
    split
    · exact .inl rfl
    next named _ =>
      split
      · exact .inl rfl
      next store reply performed =>
        by_cases same : place = named
        · rw [same, Databases.get_set_self]
          exact .inr (.inl ⟨action, reply, stored, performed⟩)
        · rw [Databases.get_set_of_ne databases same]
          exact .inl rfl
  next call refresh =>
    exact .inr (.inr ⟨call, refresh, RefreshStep.perform_refreshedTo settings step.database databases call place⟩)

end JudgeStats
