import JudgeStats.Proofs.RefreshRuns

/-! When a refresh fails, and how. There are six faults that keep a table from being replaced. They are looked for in one
order, and the first that holds gives the error. An operation fails at the first of its tables that has a fault in the store
that the tables before it have left, and in no other case. -/

namespace JudgeStats

namespace Store

/-- A denial is about an event on a row, and this is what it answers. -/
def Denies (store : Store) (table : Derived) (event : Event) (row : table.Row) (cause : StoreError) : Prop :=
  ∃ denial ∈ store.denials, denial.covers (.derived table) event (Schema.firstCell row) ∧ cause = .denied denial.message

/-- A row that is to be written does not fit, although nothing denies its insertion: points take the place of a row without
points, and that update is denied, or a sum is no number, which cannot be held. -/
def Misfits (store : Store) : (table : Derived) → table.Row → StoreError → Prop
  | .points, row, cause => store.Denies .points .update row cause ∧
      ∃ old ∈ store.rows (.derived .points), old.point = none ∧ old.problem = row.problem
  | .ratedPointSum, row, cause => row.total.isNaN ∧ cause = .missing (.derived .ratedPointSum) "point_sum"
  | .acceptedCount, _, _ | .solver, _, _ | .languageCount, _, _ | .great _, _, _ | .greatCount _, _, _ => False

/-- What a store has against a row that is to be written. -/
def Rejects (store : Store) (table : Derived) (row : table.Row) (cause : StoreError) : Prop :=
  store.Denies table .insert row cause ∨ store.Misfits table row cause

end Store

/-- What keeps a table from being replaced. -/
inductive Fault where
  | missingSource
  /-- The start of excluded names is too long to compare users with. -/
  | longStart
  | missingTable
  /-- A row that has to go may not be deleted. -/
  | protectedRow
  | batchSize
  /-- A new row may not be written. -/
  | rejectedRow
deriving DecidableEq

namespace Fault

/-- The faults in the order in which they are looked for. -/
def order : List Fault :=
  [missingSource, longStart, missingTable, protectedRow, batchSize, rejectedRow]

/-- A fault holds for a table of a store, and this is how it shows. -/
def Gives (settings : Settings) (store : Store) (table : Derived) : Fault → RefreshError → Prop
  | missingSource, error => ∃ needed ∈ table.sources settings,
      store.get needed = none ∧ error = .refused table (.noSuchTable needed)
  | longStart, error => table = .ratedPointSum ∧ store.solved settings ≠ [] ∧
      Text.longestPattern < Text.patternSize settings.excludedStart ∧ error = .refused table .patternTooLong
  | missingTable, error => store.get (.derived table) = none ∧ error = .refused table (.noSuchTable (.derived table))
  | protectedRow, error => ∃ row ∈ store.rows (.derived table), table.isStale row ∧
      ∃ cause, store.Denies table .delete row cause ∧ error = .refused table cause
  | batchSize, error => settings.batchSize ≤ 0 ∧ error = .batchSize
  | rejectedRow, error => ∃ row ∈ table.rebuild settings store,
      ∃ cause, store.Rejects table row cause ∧ error = .refused table cause

def Holds (settings : Settings) (store : Store) (table : Derived) (fault : Fault) : Prop :=
  ∃ error, fault.Gives settings store table error

/-- The first of the faults that hold. -/
structure Decides (settings : Settings) (store : Store) (table : Derived) (fault : Fault) : Prop where
  holds : fault.Holds settings store table
  first : ∃ before after, order = before ++ fault :: after ∧ ∀ earlier ∈ before, ¬ earlier.Holds settings store table

end Fault

/-- Some tables, replaced one after the other, come to a stop at a table with a fault, in the store that the tables before it
have left. -/
inductive StopsAt (settings : Settings) : List Derived → Store → Store → Derived → Fault → Prop where
  | here {table rest store fault} (decides : fault.Decides settings store table) :
      StopsAt settings (table :: rest) store store table fault
  | later {first rest store start table fault} (sound : ∀ other : Fault, ¬ other.Holds settings store first)
      (stops : StopsAt settings rest (store.rewrite settings first) start table fault) :
      StopsAt settings (first :: rest) store start table fault

namespace Store
variable {settings : Settings} {store : Store} {table : Derived}

theorem denies_of_refusal? {event : Event} {row : table.Row} {message : String}
    (refused : store.refusal? (.derived table) event (Schema.firstCell row) = some message) :
    store.Denies table event row (.denied message) := by
  obtain ⟨denial, found, rfl⟩ := Option.map_eq_some_iff.mp refused
  have covers := List.find?_some found
  exact ⟨denial, List.mem_of_find?_eq_some found, covers, rfl⟩

theorem refusal?_isSome_of_denies {event : Event} {row : table.Row} {cause : StoreError}
    (denies : store.Denies table event row cause) :
    (store.refusal? (.derived table) event (Schema.firstCell row)).isSome := by
  obtain ⟨denial, member, covers, _⟩ := denies
  rw [refusal?, Option.isSome_map, List.find?_isSome]
  exact ⟨denial, member, covers⟩

theorem mem_kept_points_iff {row : ProblemPoint} :
    (((store.rows (.derived .points)).filter (!Derived.points.isStale ·)).any (Schema.key · == Schema.key row)) ↔
      ∃ old ∈ store.rows (.derived .points), old.point = none ∧ old.problem = row.problem := by
  simp only [List.any_eq_true, List.mem_filter, Bool.not_eq_true', and_assoc]
  apply exists_congr
  intro old
  apply and_congr_right
  intro _
  have named : (Schema.key old == Schema.key row) ↔ old.problem = row.problem :=
    beq_iff_eq.trans ⟨Key.text.inj, congrArg Key.text⟩
  rw [Derived.isStale_points_eq_false_iff, named]

/-- Beside a denied insertion, what keeps a row from being written. -/
def misfit? (store : Store) (table : Derived) (row : table.Row) : Option StoreError :=
  let kept := (store.rows (.derived table)).filter (!table.isStale ·)
  ((table.missing? row).map (.missing (.derived table))).or
    (if kept.any (Schema.key · == Schema.key row) then
      if table.replaces then (store.refusal? (.derived table) .update (Schema.firstCell row)).map .denied
      else some (.duplicate (.derived table))
    else none)

theorem misfit?_points {row : ProblemPoint} : store.misfit? .points row =
    if ((store.rows (.derived .points)).filter (!Derived.points.isStale ·)).any (Schema.key · == Schema.key row) then
      (store.refusal? (.derived .points) .update (.text row.problem)).map .denied
    else none :=
  rfl

theorem misfit?_eq_none_of_ne {row : table.Row} (other : table ≠ .points) (numbers : table ≠ .ratedPointSum) :
    store.misfit? table row = none := by
  rw [misfit?, Derived.kept_eq_nil other]
  cases table <;> first | rfl | exact absurd rfl other | exact absurd rfl numbers

theorem misfits_of_misfit? {row : table.Row} {cause : StoreError} (found : store.misfit? table row = some cause) :
    store.Misfits table row cause := by
  cases table with
  | points =>
    by_cases kept : ∃ old ∈ store.rows (.derived .points), old.point = none ∧ old.problem = row.problem
    · rw [misfit?_points, if_pos (mem_kept_points_iff.mpr kept)] at found
      obtain ⟨message, refused, rfl⟩ := Option.map_eq_some_iff.mp found
      exact ⟨denies_of_refusal? refused, kept⟩
    · rw [misfit?_points, if_neg (mt mem_kept_points_iff.mp kept)] at found
      cases found
  | ratedPointSum =>
    rw [misfit?, Derived.kept_eq_nil (by decide), Derived.missing?] at found
    by_cases nan : row.total.isNaN
    · rw [if_pos nan] at found
      cases found
      exact ⟨nan, rfl⟩
    · rw [if_neg nan] at found
      cases found
  | _ =>
    rw [misfit?_eq_none_of_ne (by simp) (by simp)] at found
    cases found

theorem misfit?_isSome_of_misfits {row : table.Row} {cause : StoreError} (misfits : store.Misfits table row cause) :
    (store.misfit? table row).isSome := by
  cases table with
  | points =>
    obtain ⟨denied, kept⟩ := misfits
    rw [misfit?_points, if_pos (mem_kept_points_iff.mpr kept), Option.isSome_map]
    exact refusal?_isSome_of_denies denied
  | ratedPointSum =>
    rw [misfit?, Derived.missing?, if_pos misfits.1]
    rfl
  | _ => cases misfits

theorem writeError?_eq (table : Derived) (row : table.Row) :
    store.writeError? table ((store.rows (.derived table)).filter (!table.isStale ·)) row =
      ((store.refusal? (.derived table) .insert (Schema.firstCell row)).map .denied).or (store.misfit? table row) :=
  rfl

end Store

namespace Fault
variable {settings : Settings} {store : Store} {table : Derived} {fault : Fault} {error : RefreshError}

/-- Looks for one fault. -/
def check? (settings : Settings) (store : Store) (table : Derived) : Fault → Option RefreshError
  | missingSource =>
    ((table.sources settings).find? fun needed => (store.get needed).isNone).map fun needed =>
      .refused table (.noSuchTable needed)
  | longStart => (table.sourceError? settings store).map (.refused table)
  | missingTable =>
    if (store.get (.derived table)).isNone then some (.refused table (.noSuchTable (.derived table))) else none
  | protectedRow => (store.clearError? table).map (.refused table)
  | batchSize => if settings.batchSize ≤ 0 then some .batchSize else none
  | rejectedRow =>
    let kept := (store.rows (.derived table)).filter (!table.isStale ·)
    ((table.rebuild settings store).findSome? (store.writeError? table kept)).map (.refused table)

theorem fault?_eq (settings : Settings) (store : Store) (table : Derived) :
    store.fault? settings table = order.findSome? (check? settings store table) := by
  simp only [Store.fault?, Store.obstacle?, order, List.findSome?_cons, List.findSome?_nil, check?]
  generalize ((table.rebuild settings store).findSome? _).map _ = rejected
  cases (table.sources settings).find? fun needed => (store.get needed).isNone with
  | some needed => rfl
  | none =>
    cases table.sourceError? settings store with
    | some cause => rfl
    | none =>
      cases gone : (store.get (.derived table)).isNone with
      | true => simp [gone]
      | false =>
        cases store.clearError? table with
        | some cause => simp [gone]
        | none => by_cases small : settings.batchSize ≤ 0 <;> cases rejected <;> simp [gone, small]

theorem gives_of_check? (found : fault.check? settings store table = some error) :
    fault.Gives settings store table error := by
  cases fault with
  | missingSource =>
    obtain ⟨needed, first, rfl⟩ := Option.map_eq_some_iff.mp found
    have gone := List.find?_some first
    exact ⟨needed, List.mem_of_find?_eq_some first, Option.isNone_iff_eq_none.mp gone, rfl⟩
  | longStart =>
    obtain ⟨cause, unusable, rfl⟩ := Option.map_eq_some_iff.mp found
    cases table with
    | ratedPointSum =>
      rw [Derived.sourceError?] at unusable
      split at unusable
      next long =>
        cases unusable
        simp only [Bool.and_eq_true, decide_eq_true_eq, Bool.not_eq_true', List.isEmpty_eq_false_iff] at long
        exact ⟨rfl, long.2, long.1, rfl⟩
      · cases unusable
    | _ => cases unusable
  | missingTable =>
    rw [check?] at found
    split at found
    next gone =>
      cases found
      exact ⟨Option.isNone_iff_eq_none.mp gone, rfl⟩
    · cases found
  | protectedRow =>
    obtain ⟨cause, kept, rfl⟩ := Option.map_eq_some_iff.mp found
    obtain ⟨message, first, rfl⟩ := Option.map_eq_some_iff.mp kept
    obtain ⟨row, member, refused⟩ := List.exists_of_findSome?_eq_some first
    obtain ⟨inside, stale⟩ := List.mem_filter.mp member
    exact ⟨row, inside, stale, _, Store.denies_of_refusal? refused, rfl⟩
  | batchSize =>
    rw [check?] at found
    split at found
    next small =>
      cases found
      exact ⟨small, rfl⟩
    · cases found
  | rejectedRow =>
    obtain ⟨cause, first, rfl⟩ := Option.map_eq_some_iff.mp found
    obtain ⟨row, member, rejected⟩ := List.exists_of_findSome?_eq_some first
    rw [Store.writeError?_eq, Option.or_eq_some_iff] at rejected
    refine ⟨row, member, cause, ?_, rfl⟩
    rcases rejected with denied | ⟨_, misfit⟩
    · obtain ⟨message, refused, rfl⟩ := Option.map_eq_some_iff.mp denied
      exact .inl (Store.denies_of_refusal? refused)
    · exact .inr (Store.misfits_of_misfit? misfit)

theorem check?_isSome_of_holds (holds : fault.Holds settings store table) : (fault.check? settings store table).isSome := by
  obtain ⟨error, gives⟩ := holds
  cases fault with
  | missingSource =>
    obtain ⟨needed, member, gone, rfl⟩ := gives
    rw [check?, Option.isSome_map, List.find?_isSome]
    exact ⟨needed, member, Option.isNone_iff_eq_none.mpr gone⟩
  | longStart =>
    obtain ⟨rfl, solved, long, rfl⟩ := gives
    rw [check?, Option.isSome_map, Derived.sourceError?, if_pos]
    · rfl
    · simp only [Bool.and_eq_true, decide_eq_true_eq, Bool.not_eq_true', List.isEmpty_eq_false_iff]
      exact ⟨long, solved⟩
  | missingTable =>
    obtain ⟨gone, rfl⟩ := gives
    rw [check?, if_pos (Option.isNone_iff_eq_none.mpr gone)]
    rfl
  | protectedRow =>
    obtain ⟨row, inside, stale, cause, denies, rfl⟩ := gives
    rw [check?, Store.clearError?, Option.isSome_map, Option.isSome_map, List.findSome?_isSome_iff]
    exact ⟨row, List.mem_filter.mpr ⟨inside, stale⟩, Store.refusal?_isSome_of_denies denies⟩
  | batchSize =>
    obtain ⟨small, rfl⟩ := gives
    rw [check?, if_pos small]
    rfl
  | rejectedRow =>
    obtain ⟨row, member, cause, rejects, rfl⟩ := gives
    rw [check?, Option.isSome_map, List.findSome?_isSome_iff]
    refine ⟨row, member, ?_⟩
    rw [Store.writeError?_eq, Option.isSome_or, Bool.or_eq_true, Option.isSome_map]
    exact rejects.imp Store.refusal?_isSome_of_denies Store.misfit?_isSome_of_misfits

theorem check?_eq_none_iff : fault.check? settings store table = none ↔ ¬ fault.Holds settings store table := by
  constructor
  · intro none holds
    have some := check?_isSome_of_holds holds
    rw [none] at some
    cases some
  · intro sound
    cases found : fault.check? settings store table with
    | none => rfl
    | some error => exact absurd ⟨error, gives_of_check? found⟩ sound

end Fault

namespace Store
variable {settings : Settings} {store : Store} {table : Derived} {fault : Fault}

theorem replace_of_sound (sound : ∀ fault : Fault, ¬ fault.Holds settings store table) :
    store.replace settings table = .ok (store.rewrite settings table, (table.rebuild settings store).length) := by
  have none : store.fault? settings table = none := by
    rw [Fault.fault?_eq]
    exact List.findSome?_eq_none_iff.mpr fun fault _ => Fault.check?_eq_none_iff.mpr (sound fault)
  rw [replace_eq, none]

theorem replace_of_decides (decides : fault.Decides settings store table) :
    ∃ error, fault.Gives settings store table error ∧ store.replace settings table = .error error := by
  obtain ⟨holds, before, after, split, sound⟩ := decides
  obtain ⟨error, found⟩ := Option.isSome_iff_exists.mp (Fault.check?_isSome_of_holds holds)
  have first : store.fault? settings table = some error := by
    rw [Fault.fault?_eq, List.findSome?_eq_some_iff]
    exact ⟨before, fault, after, split, found, fun earlier member => Fault.check?_eq_none_iff.mpr (sound earlier member)⟩
  refine ⟨error, Fault.gives_of_check? found, ?_⟩
  rw [replace_eq, first]

theorem sound_or_decides (settings : Settings) (store : Store) (table : Derived) :
    (∀ fault : Fault, ¬ fault.Holds settings store table) ∨ ∃ fault : Fault, fault.Decides settings store table := by
  cases found : Fault.order.findSome? (Fault.check? settings store table) with
  | none =>
    refine .inl fun fault => Fault.check?_eq_none_iff.mp (List.findSome?_eq_none_iff.mp found fault ?_)
    cases fault <;> decide
  | some error =>
    obtain ⟨before, fault, after, split, given, clear⟩ := List.findSome?_eq_some_iff.mp found
    exact .inr ⟨fault, ⟨error, Fault.gives_of_check? given⟩, before, after, split,
      fun earlier member => Fault.check?_eq_none_iff.mp (clear earlier member)⟩

theorem sound_of_replace {replaced : Store × Nat} (finished : store.replace settings table = .ok replaced) :
    ∀ fault : Fault, ¬ fault.Holds settings store table := by
  rcases sound_or_decides settings store table with sound | ⟨fault, decides⟩
  · exact sound
  · obtain ⟨error, _, failed⟩ := replace_of_decides decides
    rw [failed] at finished
    cases finished

theorem sources_of_replace {replaced : Store × Nat} (finished : store.replace settings table = .ok replaced) :
    ∀ needed ∈ table.sources settings, (store.get needed).isSome := by
  intro needed member
  apply Option.ne_none_iff_isSome.mp
  intro gone
  exact sound_of_replace finished .missingSource ⟨_, needed, member, gone, rfl⟩

section Runs
variable {tables first later : List Derived} {transactions : List (List Derived)} {start : Store} {error : RefreshError}

theorem replaceAll_of_stopsAt (stops : StopsAt settings tables store start table fault) :
    ∃ error, fault.Gives settings start table error ∧ replaceAll settings tables store = .error error := by
  induction stops with
  | here decides =>
    obtain ⟨error, gives, failed⟩ := replace_of_decides decides
    refine ⟨error, gives, ?_⟩
    rw [replaceAll, failed]
    rfl
  | later sound _ ih =>
    obtain ⟨error, gives, failed⟩ := ih
    refine ⟨error, gives, ?_⟩
    rw [replaceAll, replace_of_sound sound]
    simp only [bind, Except.bind, failed]

theorem stopsAt_of_replaceAll (failed : replaceAll settings tables store = .error error) :
    ∃ start table fault, StopsAt settings tables store start table fault := by
  induction tables generalizing store error with
  | nil => cases failed
  | cons head rest ih =>
    rcases sound_or_decides settings store head with sound | ⟨fault, decides⟩
    · rw [replaceAll, replace_of_sound sound] at failed
      simp only [bind, Except.bind] at failed
      cases others : replaceAll settings rest (store.rewrite settings head) with
      | error cause =>
        obtain ⟨start, table, fault, stops⟩ := ih others
        exact ⟨start, table, fault, .later sound stops⟩
      | ok replaced => rw [others] at failed; cases failed
    · exact ⟨store, head, fault, .here decides⟩

theorem replaceAll_append (settings : Settings) (first later : List Derived) (store : Store) :
    replaceAll settings (first ++ later) store = (replaceAll settings first store).bind fun (next, counts) =>
      (replaceAll settings later next).map fun (last, rest) => (last, counts ++ rest) := by
  induction first generalizing store with
  | nil =>
    simp only [List.nil_append, replaceAll, Except.bind]
    cases replaceAll settings later store <;> rfl
  | cons head rest ih =>
    simp only [List.cons_append, replaceAll, ih, bind, Except.bind]
    cases store.replace settings head with
    | error error => rfl
    | ok replaced =>
      simp only [pure, Except.pure]
      cases replaceAll settings rest replaced.1 with
      | error error => rfl
      | ok others =>
        dsimp only
        cases replaceAll settings later others.1 <;> rfl

/-- Where transactions are done one after the other, the error is that of all their tables in one transaction. -/
theorem each_commit_error_iff : (Outcome.each (commit settings) transactions store).result = .error error ↔
    replaceAll settings transactions.flatten store = .error error := by
  induction transactions generalizing store with
  | nil => exact ⟨nofun, nofun⟩
  | cons tables rest ih =>
    rw [List.flatten_cons, replaceAll_append, Outcome.each, commit]
    cases replaceAll settings tables store with
    | error cause =>
      rw [Outcome.andThen_of_error rfl]
      simp only [Except.bind, Except.error.injEq]
    | ok replaced =>
      rw [Outcome.andThen_of_ok rfl]
      exact map_eq_error_iff.trans (ih.trans map_eq_error_iff.symm)

theorem run_error_iff {operation : Operation} : (operation.run settings store).result = .error error ↔
    replaceAll settings operation.transactions.flatten store = .error error :=
  map_eq_error_iff.trans each_commit_error_iff

/-- An operation fails exactly if one of its tables has a fault when its turn comes. The first such table, and the first
fault of it, give the error. -/
theorem run_fails_iff (settings : Settings) (operation : Operation) (store : Store) :
    ((operation.run settings store).result.isOk = false ↔
      ∃ start table fault, StopsAt settings operation.transactions.flatten store start table fault) ∧
    ∀ start table fault, StopsAt settings operation.transactions.flatten store start table fault →
      ∃ error, fault.Gives settings start table error ∧ (operation.run settings store).result = .error error := by
  have shows (start : Store) (table : Derived) (fault : Fault)
      (stops : StopsAt settings operation.transactions.flatten store start table fault) :
      ∃ error, fault.Gives settings start table error ∧ (operation.run settings store).result = .error error := by
    obtain ⟨error, gives, failed⟩ := replaceAll_of_stopsAt stops
    exact ⟨error, gives, run_error_iff.mpr failed⟩
  refine ⟨⟨fun failed => ?_, ?_⟩, shows⟩
  · cases result : (operation.run settings store).result with
    | error error => exact stopsAt_of_replaceAll (run_error_iff.mp result)
    | ok count => rw [result] at failed; cases failed
  · rintro ⟨start, table, fault, stops⟩
    obtain ⟨error, _, failed⟩ := shows start table fault stops
    rw [failed]
    rfl

end Runs

theorem rebuild_ratedPointSum_of_no_points (none : store.rows (.derived .points) = []) :
    Derived.ratedPointSum.rebuild settings store = [] := by
  have never (submission : Submission) : (Statistic.pointOf? [] submission.problem).isSome = false := rfl
  simp only [Derived.rebuild, none, never, Bool.and_false, List.filter_false]
  rfl

theorem lt_patternSize_replicate (count : Nat) :
    count < Text.patternSize (String.ofList (List.replicate count 'a')) := by
  have long : count ≤ (String.ofList (List.replicate count 'a')).utf8ByteSize := by
    induction count with
    | zero => exact Nat.zero_le _
    | succ count ih =>
      rw [List.replicate_succ', String.ofList_append, String.utf8ByteSize_append]
      exact Nat.add_le_add ih (Nat.le_refl 1)
  rw [Text.patternSize]
  omega

/-- The length of the start of excluded names is a fault of its own: without it the sums would be replaced. -/
theorem ratedPointSums_fail_of_long_start :
    let settings : Settings := { excludedStart := String.ofList (List.replicate 50000 'a') }
    let store : Store :=
      { submissions := some [⟨1, 1500000100, "a", "abc1", "ann", "C++", some 100, 20, "AC", some 3⟩] }
    (∀ fault : Fault, fault ≠ .longStart → ¬ fault.Holds settings store .ratedPointSum) ∧
    (Operation.ratedPointSums.run settings store).result = .error (.refused .ratedPointSum .patternTooLong) := by
  intro settings store
  have sound : ∀ fault : Fault, fault ≠ .longStart → ¬ fault.Holds settings store .ratedPointSum := by
    rintro fault other ⟨error, gives⟩
    cases fault with
    | missingSource =>
      obtain ⟨needed, member, gone, _⟩ := gives
      have there : ∀ needed ∈ [Table.submissions, .derived .points], (store.get needed).isSome := by simp [store, get]
      have present := there needed member
      rw [gone] at present
      cases present
    | longStart => exact other rfl
    | missingTable => cases gives.1
    | protectedRow =>
      obtain ⟨row, member, _⟩ := gives
      cases member
    | batchSize => exact absurd gives.1 (by decide)
    | rejectedRow =>
      obtain ⟨row, member, _⟩ := gives
      rw [rebuild_ratedPointSum_of_no_points rfl] at member
      cases member
  have solved : store.solved settings ≠ [] := by decide +kernel
  have decides : Fault.longStart.Decides settings store .ratedPointSum := by
    refine ⟨⟨_, rfl, solved, lt_patternSize_replicate 50000, rfl⟩, [.missingSource], _, rfl, ?_⟩
    intro earlier member
    rw [List.mem_singleton.mp member]
    exact sound _ (by decide)
  obtain ⟨_, ⟨_, _, _, rfl⟩, failed⟩ := replaceAll_of_stopsAt (.here decides)
  exact ⟨sound, run_error_iff.mpr failed⟩

end Store

end JudgeStats
