import JudgeStats.Proofs.RefreshFaults
import JudgeStats.Proofs.RepeatedRefresh
import JudgeStats.Proofs.SelectedRuns

/-! The order in which operations are done. It matters for two pairs: the counts of best submissions are made from the best
submissions, and the sums of rated points from the points of before. All other operations commute, so any two orders that
agree on these pairs can be turned into each other by swaps of neighbours, and have the same outcome. -/

namespace JudgeStats

namespace Operation

/-- The pairs of operations of which the first comes before the second in a full run, and has to. -/
def Precedes (first second : Operation) : Prop :=
  (first, second) ∈ [(greatSubmissions, greatCounts), (ratedPointSums, problemPoints)]

instance (first second : Operation) : Decidable (first.Precedes second) :=
  inferInstanceAs (Decidable (_ ∈ _))

theorem independent_of_not_precedes {first second : Operation} (different : first ≠ second)
    (free : ¬ first.Precedes second) (loose : ¬ second.Precedes first) : first.Independent second := by
  have whole : ∀ first ∈ all, ∀ second ∈ all, first ≠ second → ¬ first.Precedes second → ¬ second.Precedes first →
      first.Independent second := by decide
  exact whole first first.mem_all second second.mem_all different free loose

theorem not_sublist_swap {α : Type} {first second : α} {items : List α} (single : items.Nodup)
    (inside : [first, second].Sublist items) : ¬ [second, first].Sublist items := by
  intro swapped
  induction items with
  | nil => cases inside
  | cons item rest ih =>
    obtain ⟨once, others⟩ := List.nodup_cons.mp single
    cases inside with
    | cons _ inside =>
      cases swapped with
      | cons _ swapped => exact ih others inside swapped
      | cons_cons _ swapped => exact once (inside.subset (List.mem_cons_of_mem _ List.mem_cons_self))
    | cons_cons _ inside =>
      cases swapped with
      | cons _ swapped => exact once (swapped.subset (List.mem_cons_of_mem _ List.mem_cons_self))
      | cons_cons _ swapped => exact once (inside.subset List.mem_cons_self)

/-- Operations, each of them once, and none before one that has to precede it. -/
structure InOrder (operations : List Operation) : Prop where
  once : operations.Nodup
  sorted : operations.Pairwise fun earlier later => ¬ later.Precedes earlier

theorem inOrder_all : InOrder all :=
  ⟨by decide, by decide⟩

theorem inOrder_of_perm {order : List Operation} (same : order.Perm all)
    (sorted : ∀ first second : Operation, first.Precedes second → [first, second].Sublist order) : InOrder order := by
  have single : order.Nodup := same.nodup_iff.mpr (by decide)
  refine ⟨single, List.pairwise_iff_forall_sublist.mpr fun {earlier later} inside late => ?_⟩
  exact not_sublist_swap single inside (sorted later earlier late)

theorem InOrder.sublist {operations fewer : List Operation} (ordered : InOrder operations)
    (part : fewer.Sublist operations) : InOrder fewer :=
  ⟨ordered.once.sublist part, ordered.sorted.sublist part⟩

/-- Whatever one order has before an operation, and another one after it, is independent of it. -/
theorem InOrder.independent_of_mem {early later rest : List Operation} {operation other : Operation}
    (ordered : InOrder (early ++ operation :: later)) (sorted : InOrder (operation :: rest))
    (same : (early ++ operation :: later).Perm (operation :: rest)) (member : other ∈ early) :
    operation.Independent other := by
  have different : other ≠ operation := by
    rintro rfl
    exact (List.nodup_cons.mp (List.nodup_middle.mp ordered.once)).1 (List.mem_append_left _ member)
  have behind : other ∈ rest :=
    (List.mem_cons.mp (same.subset (List.mem_append_left _ member))).resolve_left different
  have free : ¬ other.Precedes operation := List.rel_of_pairwise_cons sorted.sorted behind
  have loose : ¬ operation.Precedes other :=
    (List.pairwise_append.mp ordered.sorted).2.2 other member operation List.mem_cons_self
  exact independent_of_not_precedes different.symm loose free

end Operation

namespace Store
variable {settings : Settings}

/-- Operations called one by one, each on what the one before it has left, even where that has failed. Each call has an
answer of its own. -/
def inTurn (settings : Settings) : List Operation → Store → Store × List (Operation × Except RefreshError Nat)
  | [], store => (store, [])
  | operation :: rest, store =>
    let outcome := operation.run settings store
    let (last, answers) := inTurn settings rest outcome.state
    (last, (operation, outcome.result) :: answers)

/-- Two orders that leave the same store and in which each operation has the same answer. -/
structure SameInTurn (settings : Settings) (order other : List Operation) (store : Store) : Prop where
  state : (inTurn settings order store).1 = (inTurn settings other store).1
  answers : (inTurn settings order store).2.Perm (inTurn settings other store).2

theorem SameInTurn.trans {first second third : List Operation} {store : Store} (one : SameInTurn settings first second store)
    (two : SameInTurn settings second third store) : SameInTurn settings first third store :=
  ⟨one.state.trans two.state, one.answers.trans two.answers⟩

theorem SameInTurn.cons {order other : List Operation} {operation : Operation} {store : Store}
    (same : SameInTurn settings order other (operation.run settings store).state) :
    SameInTurn settings (operation :: order) (operation :: other) store :=
  ⟨same.state, same.answers.cons _⟩

theorem sameInTurn_swap {first second : Operation} (independent : first.Independent second) (rest : List Operation)
    (store : Store) : SameInTurn settings (second :: first :: rest) (first :: second :: rest) store := by
  obtain ⟨state, after, before⟩ := run_commute independent settings store
  constructor
  · simp only [inTurn, state]
  · simp only [inTurn, state, after, before]
    exact List.Perm.swap _ _ _

/-- An operation may be done before others that it is independent of. -/
theorem sameInTurn_middle {operation : Operation} {early : List Operation}
    (independent : ∀ other ∈ early, operation.Independent other) (later : List Operation) (store : Store) :
    SameInTurn settings (early ++ operation :: later) (operation :: (early ++ later)) store := by
  induction early generalizing store with
  | nil => exact ⟨rfl, .refl _⟩
  | cons first rest ih =>
    obtain ⟨head, others⟩ := List.forall_mem_cons.mp independent
    exact (ih others _).cons.trans (sameInTurn_swap head (rest ++ later) store)

theorem sameInTurn_of_inOrder {order other : List Operation} (same : order.Perm other)
    (ordered : Operation.InOrder order) (sorted : Operation.InOrder other) (store : Store) :
    SameInTurn settings order other store := by
  induction other generalizing order store with
  | nil =>
    rw [same.eq_nil]
    exact ⟨rfl, .refl _⟩
  | cons operation rest ih =>
    -- The head of the one order is moved to the front in the other, and the rest of both are in order again.
    obtain ⟨early, later, rfl⟩ := List.append_of_mem (same.symm.subset List.mem_cons_self)
    have fewer : (early ++ later).Sublist (early ++ operation :: later) :=
      (List.sublist_cons_self operation later).append_left early
    have others : (early ++ later).Perm rest := (List.perm_middle.symm.trans same).cons_inv
    have moved : SameInTurn settings (early ++ operation :: later) (operation :: (early ++ later)) store :=
      sameInTurn_middle (fun other member => ordered.independent_of_mem sorted same member) later store
    exact moved.trans (ih others (ordered.sublist fewer) (sorted.sublist (List.sublist_cons_self _ _)) _).cons

theorem Completes.inTurn_eq {operations : List Operation} {store last : Store} {log : List LogEntry}
    {answers : List (Operation × Nat)} (completed : Completes settings operations store last log answers) :
    inTurn settings operations store = (last, answers.map fun (operation, count) => (operation, .ok count)) := by
  induction completed with
  | nil => rfl
  | cons first others ih =>
    rw [inTurn, first, ih]
    rfl

/-- A run that succeeds is its operations in turn. -/
theorem inTurn_of_runAll_ok {operations : List Operation} {store : Store} {answers : List (Operation × Nat)}
    (different : operations.Nodup) (finished : (store.runAll settings operations).result = .ok answers) :
    inTurn settings operations store =
      ((store.runAll settings operations).state, answers.map fun (operation, count) => (operation, .ok count)) := by
  have ends : Ends settings operations store (store.runAll settings operations) := runAll_ends different
  generalize store.runAll settings operations = outcome at finished ends ⊢
  cases ends with
  | finished completed => cases finished; exact completed.inTurn_eq
  | stopped => cases finished

theorem ratedPointSum_defect?_eq_none {store : Store}
    (usable : Text.patternSize settings.excludedStart ≤ Text.longestPattern ∨ store.solved settings = [])
    (numbers : ∀ sum ∈ Derived.ratedPointSum.rebuild settings store, sum.total.isNaN = false) :
    Derived.ratedPointSum.defect? settings store = none := by
  have complete : (Derived.ratedPointSum.rebuild settings store).findSome? Derived.ratedPointSum.missing? = none := by
    apply List.findSome?_eq_none_iff.mpr
    intro sum member
    rw [Derived.missing?, numbers sum member]
    rfl
  rw [Derived.defect?, complete, Derived.sourceError?, if_neg]
  · rfl
  · rw [Bool.and_eq_true, decide_eq_true_iff, Bool.not_eq_true', List.isEmpty_eq_false_iff, not_and, not_not]
    intro long
    exact usable.resolve_left (Nat.not_le.mpr long)

section Open
variable {store : Store} (free : store.Open) (positive : 0 < settings.batchSize)
include free positive

theorem Open.run_isOk {operation : Operation}
    (sound : operation = .ratedPointSums → Derived.ratedPointSum.defect? settings store = none) :
    (operation.run settings store).result.isOk := by
  refine (Outcome.isOk_map _ _).trans (free.each_commit_isOk positive fun done table later split => ?_)
  by_cases rated : table = .ratedPointSum
  · -- The sums are the one table of their operation, so they are replaced in the store as it is.
    subst rated
    have own : Derived.ratedPointSum ∈ operation.transactions.flatten :=
      split ▸ List.mem_append_right _ List.mem_cons_self
    obtain rfl : Operation.ratedPointSums = operation := Operation.mem_transactions_iff.mp own
    cases done with
    | nil => exact sound rfl
    | cons first rest =>
      have short : 1 = (first :: rest ++ Derived.ratedPointSum :: later).length := congrArg List.length split
      rw [List.length_append, List.length_cons, List.length_cons] at short
      omega
  · exact Derived.defect?_of_ne rated

variable (numbers : ∀ sum ∈ Derived.ratedPointSum.rebuild settings store, sum.total.isNaN = false)
  (usable : Text.patternSize settings.excludedStart ≤ Text.longestPattern ∨ store.solved settings = [])
include numbers usable

/-- Two operations commute unless one of them has to precede the other, and every order that keeps to these two pairs has
the outcome of a full run. -/
theorem operations_commute :
    (∀ first second : Operation, first ≠ second → ¬ first.Precedes second → ¬ second.Precedes first →
      ∃ last one two, inTurn settings [first, second] store = (last, [(first, .ok one), (second, .ok two)]) ∧
        inTurn settings [second, first] store = (last, [(second, .ok two), (first, .ok one)])) ∧
    ∃ answers, (store.updateAll settings none).result = .ok answers ∧
      ∀ order : List Operation, order.Perm Operation.all →
        (∀ first second : Operation, first.Precedes second → [first, second].Sublist order) →
        (inTurn settings order store).1 = (store.updateAll settings none).state ∧
        (inTurn settings order store).2.Perm (answers.map fun (operation, count) => (operation, .ok count)) := by
  have sound := ratedPointSum_defect?_eq_none usable numbers
  constructor
  · intro first second different unforced loose
    obtain ⟨state, after, before⟩ :=
      run_commute (Operation.independent_of_not_precedes different unforced loose) settings store
    have fine (operation : Operation) : (operation.run settings store).result.isOk :=
      free.run_isOk positive fun _ => sound
    obtain ⟨one, counted⟩ := ok_of_isOk (fine first)
    obtain ⟨two, told⟩ := ok_of_isOk (fine second)
    refine ⟨(second.run settings (first.run settings store).state).state, one, two, ?_, ?_⟩
    · simp only [inTurn, after, counted, told]
    · simp only [inTurn, before, counted, told, state]
  · have finished : (store.runAll settings Operation.all).result = .ok _ := updateAll_ok free positive sound
    refine ⟨_, finished, fun order same sorted => ?_⟩
    obtain ⟨state, answers⟩ : SameInTurn settings order Operation.all store :=
      sameInTurn_of_inOrder same (Operation.inOrder_of_perm same sorted) Operation.inOrder_all store
    rw [inTurn_of_runAll_ok (by decide) finished] at state answers
    exact ⟨state, answers⟩

end Open

/-- The counts of best submissions and the points may as well come first. -/
theorem operations_commute_firstContest :
    let store := firstContest [⟨"a", some 100⟩]
    let order : List Operation :=
      [.greatSubmissions, .greatCounts, .ratedPointSums, .problemPoints, .languageCount, .solverCount, .acceptedCount]
    store.Open ∧ 0 < ({} : Settings).batchSize ∧
    (∀ sum ∈ Derived.ratedPointSum.rebuild {} store, sum.total.isNaN = false) ∧
    Text.patternSize ({} : Settings).excludedStart ≤ Text.longestPattern ∧ order.Perm Operation.all ∧
    (∀ first second : Operation, first.Precedes second → [first, second].Sublist order) ∧
    (inTurn {} order store).1 = (store.updateAll {} none).state := by
  intro store order
  have free : store.Open := firstContest_open _
  have numbers : ∀ sum ∈ Derived.ratedPointSum.rebuild {} store, sum.total.isNaN = false := by decide +kernel
  have usable : Text.patternSize ({} : Settings).excludedStart ≤ Text.longestPattern := by decide +kernel
  have same : order.Perm Operation.all := by decide
  have sorted : ∀ first second : Operation, first.Precedes second → [first, second].Sublist order := by
    rintro first second (_ | ⟨_, _ | ⟨_, ⟨⟩⟩⟩) <;> decide
  obtain ⟨_, _, _, orders⟩ := operations_commute free (by decide) numbers (.inl usable)
  exact ⟨free, by decide, numbers, usable, same, sorted, (orders order same sorted).1⟩

theorem get_inTurn_of_other {operations : List Operation} {table : Derived} (other : table.operation ∉ operations)
    (store : Store) : (inTurn settings operations store).1.get (.derived table) = store.get (.derived table) := by
  induction operations generalizing store with
  | nil => rfl
  | cons operation rest ih =>
    rw [List.mem_cons, not_or] at other
    exact (ih other.2 _).trans (get_run_of_other other.1)

/-- Where the start of excluded names is too long to compare users with, a full run stops at the sums of rated points. In
an order that has the languages before these they are counted. -/
theorem languages_counted_before_long_start :
    let settings : Settings := { excludedStart := String.ofList (List.replicate 50000 'a') }
    let store := firstContest []
    let order : List Operation :=
      [.languageCount, .acceptedCount, .solverCount, .ratedPointSums, .greatSubmissions, .greatCounts, .problemPoints]
    store.Open ∧ 0 < settings.batchSize ∧
    (∀ sum ∈ Derived.ratedPointSum.rebuild settings store, sum.total.isNaN = false) ∧ order.Perm Operation.all ∧
    (∀ first second : Operation, first.Precedes second → [first, second].Sublist order) ∧
    (inTurn settings order store).1.get (.derived .languageCount) ≠
      (store.updateAll settings none).state.get (.derived .languageCount) := by
  intro settings store order
  have free : store.Open := firstContest_open _
  have positive : 0 < settings.batchSize := by decide
  have sorted : ∀ first second : Operation, first.Precedes second → [first, second].Sublist order := by
    rintro first second (_ | ⟨_, _ | ⟨_, ⟨⟩⟩⟩) <;> decide
  have numbers : ∀ sum ∈ Derived.ratedPointSum.rebuild settings store, sum.total.isNaN = false := by
    rw [rebuild_ratedPointSum_of_no_points rfl]
    exact fun _ member => nomatch member
  have counted : (inTurn settings order store).1.get (.derived .languageCount) =
      some (Derived.languageCount.rewritten settings store) := by
    have fine : (Operation.languageCount.run settings store).result.isOk := free.run_isOk positive nofun
    rw [inTurn]
    dsimp only
    rw [get_inTurn_of_other (by decide), get_run fine rfl]
  have long : (Derived.ratedPointSum.defect? settings store).isSome := by
    have solved : (store.solved settings).isEmpty = false := by decide +kernel
    have long : Text.longestPattern < Text.patternSize settings.excludedStart := lt_patternSize_replicate 50000
    rw [Derived.defect?, Derived.sourceError?, if_pos]
    · rfl
    · rw [solved, decide_eq_true long]
      rfl
  have stopped : (store.updateAll settings none).state.get (.derived .languageCount) = some [] := by
    rw [(updateAll_eq free positive).1, get_refreshed, replacedTables, if_pos long]
    rfl
  refine ⟨free, positive, numbers, by decide, sorted, fun same => ?_⟩
  have empty : some (Derived.languageCount.rewritten settings store) = some [] := counted.symm.trans (same.trans stopped)
  have filled : (Derived.languageCount.rewritten settings store).isEmpty = false := by decide +kernel
  rw [Option.some.inj empty] at filled
  cases filled

end Store

end JudgeStats
