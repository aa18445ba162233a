import JudgeStats.Proofs.Outcomes
import JudgeStats.Proofs.Rebuilding
import JudgeStats.Refresh.Operation

/-! What a transaction does to a store. One that succeeds rewrites its tables, each from what the ones before it left, and
tells how many rows the rebuild of each had. One that fails changes nothing and tells nothing. -/

namespace JudgeStats

namespace Store

def rewrite (settings : Settings) (store : Store) (table : Derived) : Store :=
  store.set (.derived table) (some (table.rewritten settings store))

def rewriteAll (settings : Settings) (store : Store) (tables : List Derived) : Store :=
  tables.foldl (rewrite settings) store

/-- How many rows the rebuild of each table has where they are replaced one after the other. -/
def counts (settings : Settings) (store : Store) : List Derived → List (Derived × Nat)
  | [] => []
  | table :: rest => (table, (table.rebuild settings store).length) :: counts settings (store.rewrite settings table) rest

section Rewrite
variable {settings : Settings} {store : Store} {tables : List Derived}

theorem rows_rewrite_of_ne {table : Table} {target : Derived} (different : table ≠ .derived target) :
    (store.rewrite settings target).rows table = store.rows table :=
  congrArg (·.getD []) (get_set_of_ne store different _)

theorem rewriteAll_append (first later : List Derived) :
    store.rewriteAll settings (first ++ later) = (store.rewriteAll settings first).rewriteAll settings later :=
  List.foldl_append

theorem counts_append (first later : List Derived) : store.counts settings (first ++ later) =
    store.counts settings first ++ (store.rewriteAll settings first).counts settings later := by
  induction first generalizing store with
  | nil => rfl
  | cons table rest ih => exact congrArg (_ :: ·) ih

theorem map_fst_counts : (store.counts settings tables).map Prod.fst = tables := by
  induction tables generalizing store with
  | nil => rfl
  | cons table rest ih => exact congrArg (table :: ·) ih

theorem get_rewriteAll_of_ne {table : Table} (untouched : ∀ target ∈ tables, table ≠ .derived target) :
    (store.rewriteAll settings tables).get table = store.get table := by
  induction tables generalizing store with
  | nil => rfl
  | cons first rest ih =>
    obtain ⟨different, others⟩ := List.forall_mem_cons.mp untouched
    exact (ih others).trans (get_set_of_ne store different _)

theorem rows_rewriteAll_of_ne {table : Table} (untouched : ∀ target ∈ tables, table ≠ .derived target) :
    (store.rewriteAll settings tables).rows table = store.rows table := by
  rw [rows, rows, get_rewriteAll_of_ne untouched]

theorem denials_rewriteAll : (store.rewriteAll settings tables).denials = store.denials := by
  induction tables generalizing store with
  | nil => rfl
  | cons first rest ih => exact ih.trans (denials_set store _ _)

theorem get_rewriteAll {done later : List Derived} {table : Derived} (once : table ∉ later) :
    (store.rewriteAll settings (done ++ table :: later)).get (.derived table) =
      some (table.rewritten settings (store.rewriteAll settings done)) := by
  rw [rewriteAll_append]
  change ((rewrite settings _ table).rewriteAll settings later).get _ = _
  rw [get_rewriteAll_of_ne]
  · exact get_set_self _ _ _
  · intro target member same
    cases same
    exact once member

theorem rebuild_rewriteAll {table : Derived} (unread : ∀ target ∈ tables, .derived target ∉ table.reads) :
    table.rebuild settings (store.rewriteAll settings tables) = table.rebuild settings store := by
  apply Derived.rebuild_congr
  intro needed member
  apply rows_rewriteAll_of_ne
  intro target inside same
  exact unread target inside (same ▸ member)

theorem rewritten_rewriteAll {table : Derived} (unread : ∀ target ∈ tables, .derived target ∉ table.reads)
    (other : table ∉ tables) : table.rewritten settings (store.rewriteAll settings tables) =
      table.rewritten settings store := by
  rw [Derived.rewritten, Derived.rewritten, rebuild_rewriteAll unread, rows_rewriteAll_of_ne]
  intro target inside same
  cases same
  exact other inside

/-- The count of a table that is replaced once is that of its turn. -/
theorem mem_counts_iff {table : Derived} {count : Nat} : (table, count) ∈ store.counts settings tables ↔
    ∃ done later, tables = done ++ table :: later ∧
      count = (table.rebuild settings (store.rewriteAll settings done)).length := by
  induction tables generalizing store with
  | nil => simp [counts]
  | cons first rest ih =>
    rw [counts, List.mem_cons, ih]
    constructor
    · rintro (same | ⟨done, later, rfl, rfl⟩)
      · cases same
        exact ⟨[], rest, rfl, rfl⟩
      · exact ⟨first :: done, later, rfl, rfl⟩
    · rintro ⟨done, later, split, rfl⟩
      cases done with
      | nil => cases split; exact .inl rfl
      | cons head done => cases split; exact .inr ⟨done, later, rfl, rfl⟩

end Rewrite

/-- What submissions and points have to keep apart: no two submissions have the same id, and no problem has two rows of
points. The points are ascending; submissions may be in any order. Stores are so throughout every session. -/
structure Keyed (store : Store) : Prop where
  submissions : ((store.rows .submissions).map (·.id)).Nodup
  points : Ascending Schema.key (store.rows (.derived .points))

instance (store : Store) : Decidable store.Keyed :=
  decidable_of_iff (((store.rows .submissions).map (·.id)).Nodup ∧ Ascending Schema.key (store.rows (.derived .points)))
    ⟨fun both => ⟨both.1, both.2⟩, fun keyed => ⟨keyed.submissions, keyed.points⟩⟩

theorem Keyed.rewriteAll {settings : Settings} {store : Store} (keyed : store.Keyed) (tables : List Derived) :
    (store.rewriteAll settings tables).Keyed := by
  induction tables generalizing store with
  | nil => exact keyed
  | cons table rest ih =>
    apply ih
    constructor
    · rw [rows_rewrite_of_ne (by simp)]
      exact keyed.submissions
    · by_cases same : table = .points
      · rw [same]
        exact Derived.rewritten_ascending settings keyed.points
      · rw [rows_rewrite_of_ne (by simpa using Ne.symm same)]
        exact keyed.points

section Replace
variable {settings : Settings} {store : Store} {table : Derived}

theorem writeError?_put {rows : List table.Row} {row other : table.Row} (apart : Schema.key row ≠ Schema.key other) :
    store.writeError? table (Ascending.put Schema.key row rows) other = store.writeError? table rows other := by
  rw [writeError?, writeError?, Ascending.any_put apart]

/-- Rows with different keys do not get in each other's way, so what keeps one of them from being written is found among
the rows that were there before any of them. -/
theorem writeAll_eq {built kept : List table.Row} (sorted : Ascending Schema.key built) :
    built.foldlM (store.write table) kept = match built.findSome? (store.writeError? table kept) with
      | some cause => .error cause
      | none => .ok (Ascending.putAll Schema.key built kept) := by
  have amid (rows : List table.Row)
      (same : ∀ row ∈ built, store.writeError? table rows row = store.writeError? table kept row) :
      built.foldlM (store.write table) rows = match built.findSome? (store.writeError? table kept) with
        | some cause => .error cause
        | none => .ok (Ascending.putAll Schema.key built rows) := by
    induction built generalizing rows with
    | nil => rfl
    | cons row rest ih =>
      obtain ⟨before, tail⟩ := List.pairwise_cons.mp sorted
      obtain ⟨head, others⟩ := List.forall_mem_cons.mp same
      rw [List.foldlM_cons, List.findSome?_cons, write, head]
      cases store.writeError? table kept row with
      | some cause => rfl
      | none =>
        apply ih tail
        intro later inside
        rw [writeError?_put (Ascending.ne_of_lt (before later inside)), others later inside]
  exact amid kept fun _ _ => rfl

/-- Why a table cannot be replaced, if it cannot. -/
def fault? (settings : Settings) (store : Store) (table : Derived) : Option RefreshError :=
  let kept := (store.rows (.derived table)).filter (!table.isStale ·)
  (store.obstacle? settings table).or
    (((table.rebuild settings store).findSome? (store.writeError? table kept)).map (.refused table))

theorem replace_eq (settings : Settings) (store : Store) (table : Derived) :
    store.replace settings table = match store.fault? settings table with
      | some error => .error error
      | none => .ok (store.rewrite settings table, (table.rebuild settings store).length) := by
  rw [replace, fault?]
  cases store.obstacle? settings table with
  | some error => rfl
  | none =>
    simp only [writeAll_eq (Derived.rebuild_ascending settings store table), Option.none_or]
    cases (table.rebuild settings store).findSome? _ <;> rfl

theorem replace_ok {next : Store} {count : Nat} (replaced : store.replace settings table = .ok (next, count)) :
    next = store.rewrite settings table ∧ count = (table.rebuild settings store).length := by
  rw [replace_eq] at replaced
  split at replaced
  · cases replaced
  · cases replaced
    exact ⟨rfl, rfl⟩

theorem replaceAll_ok {tables : List Derived} {next : Store} {told : List (Derived × Nat)}
    (replaced : replaceAll settings tables store = .ok (next, told)) :
    next = store.rewriteAll settings tables ∧ told = store.counts settings tables := by
  induction tables generalizing store next told with
  | nil => cases replaced; exact ⟨rfl, rfl⟩
  | cons table rest ih =>
    rw [replaceAll] at replaced
    obtain ⟨⟨middle, count⟩, first, rest⟩ := ok_of_bind replaced
    obtain ⟨rfl, rfl⟩ := replace_ok first
    obtain ⟨⟨last, remaining⟩, others, whole⟩ := ok_of_bind rest
    obtain ⟨rfl, rfl⟩ := ih others
    cases whole
    exact ⟨rfl, rfl⟩

/-- Contests and submissions are not replaced. -/
theorem get_of_replaceAll {tables : List Derived} {next : Store} {told : List (Derived × Nat)}
    (replaced : replaceAll settings tables store = .ok (next, told)) {table : Table}
    (source : ∀ target, table ≠ .derived target) : next.get table = store.get table := by
  rw [(replaceAll_ok replaced).1]
  exact get_rewriteAll_of_ne fun target _ => source target

end Replace

end Store

/-- The line of a table whose new rows are there for good. -/
def LogEntry.ofCount (count : Derived × Nat) : LogEntry :=
  .rebuilt count.1 count.2

namespace Store

theorem commit_cases (settings : Settings) (tables : List Derived) (store : Store) :
    (∃ error, commit settings tables store = .failed store error) ∨
    commit settings tables store = ⟨store.rewriteAll settings tables, (store.counts settings tables).map .ofCount,
      .ok (total ((store.counts settings tables).map (·.2)))⟩ := by
  unfold commit
  split
  next error _ => exact .inl ⟨error, rfl⟩
  next next told replaced =>
    obtain ⟨rfl, rfl⟩ := replaceAll_ok replaced
    exact .inr rfl

theorem each_commit_ok {settings : Settings} {transactions : List (List Derived)} {store : Store} {counts : List Nat}
    (finished : (Outcome.each (commit settings) transactions store).result = .ok counts) :
    (Outcome.each (commit settings) transactions store).state = store.rewriteAll settings transactions.flatten ∧
    (Outcome.each (commit settings) transactions store).log =
      (store.counts settings transactions.flatten).map .ofCount ∧
    total counts = total ((store.counts settings transactions.flatten).map (·.2)) := by
  induction transactions generalizing store counts with
  | nil => cases finished; exact ⟨rfl, rfl, rfl⟩
  | cons tables rest ih =>
    obtain ⟨count, remaining, head, tail, rfl⟩ := Outcome.each_cons_ok finished
    obtain ⟨state, log⟩ := Outcome.each_cons rest head
    rw [state, log, List.flatten_cons, rewriteAll_append, counts_append, List.map_append, List.map_append, total_append]
    rcases commit_cases settings tables store with ⟨error, failed⟩ | committed
    · rw [failed] at head
      cases head
    · rw [committed] at head tail ⊢
      cases head
      obtain ⟨others, told, same⟩ := ih tail
      rw [← same]
      exact ⟨others, congrArg (_ ++ ·) told, rfl⟩

theorem each_commit_effect {settings : Settings} {transactions : List (List Derived)} {store : Store}
    (finished : (Outcome.each (commit settings) transactions store).result.isOk) :
    (Outcome.each (commit settings) transactions store).state = store.rewriteAll settings transactions.flatten ∧
    (Outcome.each (commit settings) transactions store).log =
      (store.counts settings transactions.flatten).map .ofCount := by
  cases all : (Outcome.each (commit settings) transactions store).result with
  | error error => rw [all] at finished; cases finished
  | ok counts =>
    obtain ⟨state, log, _⟩ := each_commit_ok all
    exact ⟨state, log⟩

end Store

end JudgeStats
