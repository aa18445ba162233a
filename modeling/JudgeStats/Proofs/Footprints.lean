import JudgeStats.Proofs.RefreshRuns
import Mathlib.Data.List.Find

/-! What an operation can see and what it can change. It changes its own tables, and looks at these and at the tables that
they are made from. Stores that agree on all of them are not told apart by it, whether it succeeds or fails. So two
operations commute, on every store, where neither changes a table that the other looks at. -/

namespace JudgeStats

namespace Derived

theorem mem_reads_of_mem_sources {settings : Settings} {table : Derived} {needed : Table}
    (member : needed ∈ table.sources settings) : needed ∈ table.reads := by
  cases table with
  | points =>
    rw [sources] at member
    split at member
    · exact member
    · cases member
  | _ => exact member

/-- The tables that a replacement looks at. -/
def footprint (table : Derived) : List Table :=
  .derived table :: table.reads

end Derived

namespace Operation

/-- The tables that an operation looks at. -/
def footprint (operation : Operation) : List Table :=
  operation.transactions.flatten.flatMap Derived.footprint

/-- Neither of two operations changes a table that the other looks at. -/
def Independent (first second : Operation) : Prop :=
  (∀ table ∈ first.transactions.flatten, .derived table ∉ second.footprint) ∧
    ∀ table ∈ second.transactions.flatten, .derived table ∉ first.footprint

instance (first second : Operation) : Decidable (first.Independent second) :=
  inferInstanceAs (Decidable (_ ∧ _))

theorem mem_footprint_of_mem {operation : Operation} {table : Derived}
    (own : table ∈ operation.transactions.flatten) : .derived table ∈ operation.footprint :=
  List.mem_flatMap.mpr ⟨table, own, List.mem_cons_self⟩

end Operation

namespace Outcome
variable {σ ε α β γ : Type}

/-- Two calls that tell and answer the same and leave related states. -/
structure Agree (related : σ → σ → Prop) (one other : Outcome σ ε α) : Prop where
  state : related one.state other.state
  log : one.log = other.log
  result : one.result = other.result

theorem Agree.map {related : σ → σ → Prop} {one other : Outcome σ ε α} (agree : Agree related one other) (f : α → β) :
    Agree related (one.map f) (other.map f) :=
  ⟨agree.state, agree.log, congrArg (Except.map f) agree.result⟩

theorem each_agree {related : σ → σ → Prop} {call : γ → σ → Outcome σ ε α} {items : List γ}
    (kept : ∀ item ∈ items, ∀ state other, related state other → Agree related (call item state) (call item other))
    {state other : σ} (same : related state other) : Agree related (each call items state) (each call items other) := by
  induction items generalizing state other with
  | nil => exact ⟨same, rfl, rfl⟩
  | cons item rest ih =>
    obtain ⟨first, others⟩ := List.forall_mem_cons.mp kept
    obtain ⟨left, told, answered⟩ := first state other same
    rw [each, each]
    cases head : (call item state).result with
    | error error =>
      rw [andThen_of_error head, andThen_of_error (answered.symm.trans head)]
      exact ⟨left, told, rfl⟩
    | ok value =>
      rw [andThen_of_ok head, andThen_of_ok (answered.symm.trans head)]
      obtain ⟨last, later, values⟩ := (ih others left).map (value :: ·)
      refine ⟨last, ?_, values⟩
      dsimp only
      rw [told, later]

end Outcome

namespace Store

/-- Two stores have the same in some tables and deny the same. -/
structure AgreesOn (tables : List Table) (store other : Store) : Prop where
  tables : ∀ table ∈ tables, store.get table = other.get table
  denials : store.denials = other.denials

variable {settings : Settings} {store other : Store} {seen : List Table} {table : Derived}

theorem refusal?_congr (denials : store.denials = other.denials) : store.refusal? = other.refusal? := by
  funext table event first
  rw [refusal?, refusal?, denials]

/-- Of its sources a table needs no more than that they are there and give the same rows. -/
theorem fault?_congr (denials : store.denials = other.denials)
    (present : ∀ needed ∈ .derived table :: table.sources settings, (store.get needed).isNone = (other.get needed).isNone)
    (unusable : table.sourceError? settings store = table.sourceError? settings other)
    (held : store.rows (.derived table) = other.rows (.derived table))
    (built : table.rebuild settings store = table.rebuild settings other) :
    store.fault? settings table = other.fault? settings table := by
  obtain ⟨there, needed⟩ := List.forall_mem_cons.mp present
  have own : [Table.derived table].find? (fun needed => (store.get needed).isNone) =
      [Table.derived table].find? fun needed => (other.get needed).isNone :=
    List.find?_congr fun needed member => List.mem_singleton.mp member ▸ there
  have clearing : store.clearError? table = other.clearError? table := by
    rw [clearError?, clearError?, held, refusal?_congr denials]
  have writing : store.writeError? table = other.writeError? table := by
    funext rows row
    rw [writeError?, writeError?, refusal?_congr denials]
  simp only [fault?, obstacle?, List.find?_congr needed, own, unusable, clearing, held, built, writing]

section Agree
variable (agree : AgreesOn seen store other)
include agree

variable (part : table.footprint ⊆ seen)
include part

theorem AgreesOn.rows_eq {needed : Table} (member : needed ∈ table.footprint) : store.rows needed = other.rows needed := by
  rw [rows, rows, agree.tables needed (part member)]

theorem AgreesOn.rebuild_eq : table.rebuild settings store = table.rebuild settings other :=
  Derived.rebuild_congr fun _ member => agree.rows_eq part (List.mem_cons_of_mem _ member)

theorem AgreesOn.fault?_eq : store.fault? settings table = other.fault? settings table := by
  apply fault?_congr agree.denials
  · intro needed member
    have inside : needed ∈ table.footprint := by
      rcases List.mem_cons.mp member with rfl | source
      · exact List.mem_cons_self
      · exact List.mem_cons_of_mem _ (Derived.mem_reads_of_mem_sources source)
    rw [agree.tables needed (part inside)]
  · exact Derived.sourceError?_congr fun _ member => agree.rows_eq part (List.mem_cons_of_mem _ member)
  · exact agree.rows_eq part List.mem_cons_self
  · exact agree.rebuild_eq part

theorem AgreesOn.rewrite (settings : Settings) : AgreesOn seen (store.rewrite settings table) (other.rewrite settings table) := by
  refine ⟨fun needed member => ?_, ?_⟩
  · by_cases same : needed = .derived table
    · subst same
      have held : store.rows (.derived table) = other.rows (.derived table) := agree.rows_eq part List.mem_cons_self
      rw [Store.rewrite, Store.rewrite, get_set_self, get_set_self, Derived.rewritten, Derived.rewritten,
        agree.rebuild_eq part, held]
    · rw [Store.rewrite, Store.rewrite, get_set_of_ne store same, get_set_of_ne other same, agree.tables needed member]
  · rw [Store.rewrite, Store.rewrite, denials_set, denials_set, agree.denials]

end Agree

theorem AgreesOn.replaceAll (agree : AgreesOn seen store other) {tables : List Derived}
    (part : ∀ table ∈ tables, table.footprint ⊆ seen) :
    (∃ error, Store.replaceAll settings tables store = .error error ∧
      Store.replaceAll settings tables other = .error error) ∨
    ∃ next last counts, Store.replaceAll settings tables store = .ok (next, counts) ∧
      Store.replaceAll settings tables other = .ok (last, counts) ∧ AgreesOn seen next last := by
  induction tables generalizing store other with
  | nil => exact .inr ⟨store, other, [], rfl, rfl, agree⟩
  | cons table rest ih =>
    obtain ⟨first, others⟩ := List.forall_mem_cons.mp part
    simp only [Store.replaceAll, replace_eq, ← agree.fault?_eq first, ← agree.rebuild_eq first]
    cases store.fault? settings table with
    | some error => exact .inl ⟨error, rfl, rfl⟩
    | none =>
      rcases ih (agree.rewrite first settings) others with ⟨error, failed, stopped⟩ | ⟨next, last, counts, done, left, same⟩
      · refine .inl ⟨error, ?_, ?_⟩
        · simp only [bind, Except.bind, failed]
        · simp only [bind, Except.bind, stopped]
      · refine .inr ⟨next, last, (table, (table.rebuild settings store).length) :: counts, ?_, ?_, same⟩
        · simp only [bind, Except.bind, done]
          rfl
        · simp only [bind, Except.bind, left]
          rfl

theorem AgreesOn.commit (agree : AgreesOn seen store other) {tables : List Derived}
    (part : ∀ table ∈ tables, table.footprint ⊆ seen) :
    Outcome.Agree (AgreesOn seen) (Store.commit settings tables store) (Store.commit settings tables other) := by
  rw [Store.commit, Store.commit]
  rcases agree.replaceAll part with ⟨error, failed, stopped⟩ | ⟨next, last, counts, done, left, same⟩
  · rw [failed, stopped]
    exact ⟨agree, rfl, rfl⟩
  · rw [done, left]
    exact ⟨same, rfl, rfl⟩

/-- Beyond its footprint an operation sees nothing of a store. -/
theorem AgreesOn.run (agree : AgreesOn seen store other) {operation : Operation} (part : operation.footprint ⊆ seen) :
    Outcome.Agree (AgreesOn seen) (operation.run settings store) (operation.run settings other) := by
  apply Outcome.Agree.map
  apply Outcome.each_agree _ agree
  intro tables member current same equal
  apply equal.commit
  intro table inside needed seen
  exact part (List.mem_flatMap.mpr ⟨table, List.mem_flatten.mpr ⟨tables, member, inside⟩, seen⟩)

/-- An operation does its transactions up to the first that fails, and tells of these. -/
theorem run_effect (settings : Settings) (operation : Operation) (store : Store) : ∃ done later,
    operation.transactions = done ++ later ∧ (operation.run settings store).state = store.rewriteAll settings done.flatten ∧
      (operation.run settings store).log = (store.counts settings done.flatten).map .ofCount := by
  obtain ⟨done, later, split, _, fine, left, told⟩ :=
    Outcome.each_stops (Store.commit settings) commit_clean operation.transactions store
  obtain ⟨state, log⟩ := each_commit_effect fine
  exact ⟨done, later, split, left.trans state, told.trans log⟩

theorem denials_run (settings : Settings) (operation : Operation) (store : Store) :
    (operation.run settings store).state.denials = store.denials := by
  obtain ⟨_, _, _, state, _⟩ := run_effect settings operation store
  rw [state, denials_rewriteAll]

/-- Whether it succeeds or fails, an operation changes nothing but tables of its own. -/
theorem get_run_of_foreign {operation : Operation} {table : Table}
    (foreign : ∀ target ∈ operation.transactions.flatten, table ≠ .derived target) :
    (operation.run settings store).state.get table = store.get table := by
  obtain ⟨done, later, split, state, _⟩ := run_effect settings operation store
  rw [state]
  apply get_rewriteAll_of_ne
  intro target member
  apply foreign
  rw [split, List.flatten_append]
  exact List.mem_append_left _ member

theorem agreesOn_run {operation : Operation} (foreign : ∀ target ∈ operation.transactions.flatten, .derived target ∉ seen) :
    AgreesOn seen (operation.run settings store).state store := by
  refine ⟨fun table member => ?_, denials_run settings operation store⟩
  exact get_run_of_foreign fun target own same => foreign target own (same ▸ member)

/-- Two operations that are independent may be done in either order. -/
theorem run_commute {first second : Operation} (independent : first.Independent second) (settings : Settings)
    (store : Store) :
    let one := first.run settings store
    let two := second.run settings store
    (second.run settings one.state).state = (first.run settings two.state).state ∧
    (second.run settings one.state).result = two.result ∧ (first.run settings two.state).result = one.result := by
  intro one two
  obtain ⟨spares, spared⟩ := independent
  have after : Outcome.Agree (AgreesOn second.footprint) (second.run settings one.state) two :=
    (agreesOn_run spares).run (List.Subset.refl _)
  have before : Outcome.Agree (AgreesOn first.footprint) (first.run settings two.state) one :=
    (agreesOn_run spared).run (List.Subset.refl _)
  refine ⟨eq_of_get_eq (fun table => ?_) ?_, after.result, before.result⟩
  · -- A table of one of them is as that one alone leaves it; any other is as it was.
    by_cases own : ∃ target ∈ first.transactions.flatten, table = .derived target
    · obtain ⟨target, member, rfl⟩ := own
      rw [before.state.tables _ (Operation.mem_footprint_of_mem member)]
      apply get_run_of_foreign
      intro other inside same
      exact spares target member (same ▸ Operation.mem_footprint_of_mem inside)
    · have foreign : ∀ target ∈ first.transactions.flatten, table ≠ .derived target := fun target member same =>
        own ⟨target, member, same⟩
      rw [get_run_of_foreign foreign]
      by_cases its : ∃ target ∈ second.transactions.flatten, table = .derived target
      · obtain ⟨target, member, rfl⟩ := its
        exact after.state.tables _ (Operation.mem_footprint_of_mem member)
      · have kept : ∀ target ∈ second.transactions.flatten, table ≠ .derived target := fun target member same =>
          its ⟨target, member, same⟩
        rw [get_run_of_foreign kept, get_run_of_foreign kept, get_run_of_foreign foreign]
  · rw [denials_run, denials_run, denials_run, denials_run]

end Store

end JudgeStats
