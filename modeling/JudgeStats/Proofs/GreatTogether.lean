import JudgeStats.Proofs.GreatShares
import JudgeStats.Proofs.RefreshFaults
import JudgeStats.Proofs.SessionSteps

/-! The three tables of best submissions belong together. One transaction writes them and no other writes any of them, so
as long as nobody changes them from outside, all three come from the contests and submissions of one moment, whatever
has become of these since and wherever refreshes have failed. -/

namespace JudgeStats

namespace Store

/-- The tables of best submissions are those that the contests and submissions of a past store give, under every measure. -/
structure GreatFrom (settings : Settings) (store past : Store) : Prop where
  contests : past.contests.isSome
  submissions : past.submissions.isSome
  tables : ∀ measure, store.get (.derived (.great measure)) =
    some ((Derived.great measure).rebuild settings { contests := past.contests, submissions := past.submissions })

def SameGreat (store other : Store) : Prop :=
  ∀ measure, store.get (.derived (.great measure)) = other.get (.derived (.great measure))

variable {settings : Settings} {store next last past other : Store}

theorem GreatFrom.of_sources_eq (great : store.GreatFrom settings past) (contests : past.contests = other.contests)
    (submissions : past.submissions = other.submissions) : store.GreatFrom settings other := by
  obtain ⟨there, known, tables⟩ := great
  rw [contests, submissions] at tables
  exact ⟨contests ▸ there, submissions ▸ known, tables⟩

theorem GreatFrom.of_same (great : store.GreatFrom settings past) (same : other.SameGreat store) :
    other.GreatFrom settings past :=
  ⟨great.contests, great.submissions, fun measure => (same measure).trans (great.tables measure)⟩

theorem SameGreat.trans (first : last.SameGreat next) (second : next.SameGreat store) : last.SameGreat store :=
  fun measure => (first measure).trans (second measure)

/-- A transaction writes all tables of best submissions or none of them. -/
theorem great_of_replaceAll {operation : Operation} {tables : List Derived} {told : List (Derived × Nat)}
    (part : tables ∈ operation.transactions) (replaced : replaceAll settings tables store = .ok (next, told)) :
    next.SameGreat store ∨ next.GreatFrom settings store := by
  obtain ⟨rfl, _⟩ := replaceAll_ok replaced
  by_cases great : operation = .greatSubmissions
  · right
    subst great
    obtain rfl : tables = Operation.greatSubmissions.transactions.flatten := List.mem_singleton.mp part
    obtain ⟨_, first, _⟩ := ok_of_bind replaced
    have present : ∀ needed ∈ [Table.submissions, .contests], (store.get needed).isSome := sources_of_replace first
    refine ⟨present .contests (by simp), present .submissions (by simp), fun measure => ?_⟩
    have own : (Derived.great measure).operation = .greatSubmissions := rfl
    rw [get_rewriteAll_own own, Derived.rewritten_eq_rebuild _ _ (by simp)]
    -- Beside contests and submissions the rebuild looks at nothing of the store.
    rfl
  · left
    intro measure
    apply get_rewriteAll_of_ne
    intro target member same
    cases same
    exact great (Operation.mem_transactions_iff.mp (List.mem_flatten.mpr ⟨tables, part, member⟩)).symm

/-- A refresh does not change contests and submissions, so if it writes the best submissions, they come from those that it
began with. -/
theorem RefreshedTo.great (refreshed : store.RefreshedTo settings last) :
    last.SameGreat store ∨ last.GreatFrom settings store := by
  induction refreshed with
  | stay => exact .inl fun _ => rfl
  | @commit store next last tables told operation part replaced _ ih =>
    rcases ih with kept | great
    · rcases great_of_replaceAll part replaced with same | great
      · exact .inl (kept.trans same)
      · exact .inr (great.of_same kept)
    · have contests : next.get .contests = store.get .contests := get_of_replaceAll replaced nofun
      have submissions : next.get .submissions = store.get .submissions := get_of_replaceAll replaced nofun
      exact .inr (great.of_sources_eq contests submissions)

theorem GreatFrom.problems_eq (great : store.GreatFrom settings past) (measure other : Measure) :
    (store.rows (.derived (.great measure))).map (·.problem) = (store.rows (.derived (.great other))).map (·.problem) := by
  rw [rows, rows, great.tables measure, great.tables other]
  exact (Statistic.map_problem_bestByProblem measure _).trans (Statistic.map_problem_bestByProblem other _).symm

end Store

/-- A step that does not change a table of best submissions from outside. -/
def Step.SparesGreat (step : Step) : Prop :=
  ∀ action, step.action = .store action → ∀ measure, action.target? ≠ some (.derived (.great measure))

namespace Session

/-- The best submissions of a store after some steps come from the contests and submissions that it had before a refresh
among those steps. -/
def GreatFromPast (settings : Settings) (steps : List Step) (databases : Databases) (place : Alias) : Prop :=
  ∃ earlier database call later, steps = earlier ++ ⟨database, .refresh call⟩ :: later ∧
    ((run settings steps databases).1.get place).GreatFrom settings ((run settings earlier databases).1.get place)

theorem great_cases (settings : Settings) {steps : List Step} (spared : ∀ step ∈ steps, step.SparesGreat)
    (databases : Databases) (place : Alias) :
    ((run settings steps databases).1.get place).SameGreat (databases.get place) ∨
      GreatFromPast settings steps databases place := by
  induction steps generalizing databases with
  | nil => exact .inl fun _ => rfl
  | cons step rest ih =>
    obtain ⟨spares, others⟩ := List.forall_mem_cons.mp spared
    -- The later steps decide. Only where they have left the tables as they were does the first one matter.
    rcases ih others (step.perform settings databases).1 with kept | ⟨earlier, database, call, later, rfl, great⟩
    · rcases step.perform_cases settings databases place with
        same | ⟨action, _, store, performed⟩ | ⟨call, refresh, refreshed⟩
      · rw [same] at kept
        exact .inl kept
      · exact .inl fun measure => (kept measure).trans (StoreStep.get_of_perform performed (spares action store measure))
      · rcases refreshed.great with same | great
        · exact .inl (kept.trans same)
        · obtain ⟨database, _⟩ := step
          cases refresh
          exact .inr ⟨[], database, call, rest, rfl, great.of_same kept⟩
    · exact .inr ⟨step :: earlier, database, call, later, rfl, great⟩

/-- Where no step changes a table of best submissions from outside, all three are empty or all three come from the contests
and submissions of one store of the past, the one that some refresh has found. So they have the same problems. -/
theorem great_of_one_past (settings : Settings) (steps : List Step) (spared : ∀ step ∈ steps, step.SparesGreat)
    (place : Alias) :
    let final := (run settings steps {}).1.get place
    ((∀ measure, final.get (.derived (.great measure)) = some []) ∨ GreatFromPast settings steps {} place) ∧
    ∀ measure other, (final.rows (.derived (.great measure))).map (·.problem) =
      (final.rows (.derived (.great other))).map (·.problem) := by
  intro final
  rcases great_cases settings spared {} place with kept | past
  · have empty (measure : Measure) : final.get (.derived (.great measure)) = some [] := by
      rw [kept measure]
      cases place <;> cases measure <;> rfl
    refine ⟨.inl empty, fun measure other => ?_⟩
    rw [Store.rows, Store.rows, empty, empty]
  · refine ⟨.inr past, ?_⟩
    obtain ⟨_, _, _, _, _, great⟩ := past
    exact great.problems_eq

/-- After a new submission a refresh is refused at one row of the second table, and later one finds no contests. -/
theorem great_of_one_past_after_refusals :
    let submission (id : Int) (problem : String) : List (String × Cell) :=
      [("id", .number id), ("epoch_second", .number 1500000100), ("problem_id", .text problem),
        ("contest_id", .text "abc1"), ("user_id", .text "ann"), ("length", .number 20), ("result", .text "AC")]
    let denial : Denial := ⟨.derived (.great .fastest), .insert, some (.text "b"), "no"⟩
    let later : List Step := [
      ⟨"default", .store (.insert .contests [[("id", .text "abc1"), ("start_epoch_second", .number 1500000000)]])⟩,
      ⟨"default", .store (.insert .submissions [submission 1 "a"])⟩,
      ⟨"default", .refresh (.run .greatSubmissions)⟩,
      ⟨"default", .store (.insert .submissions [submission 2 "b"])⟩,
      ⟨"default", .refresh (.updateAll none)⟩,
      ⟨"default", .store (.drop .contests)⟩,
      ⟨"default", .refresh (.task none)⟩]
    let steps : List Step := ⟨"default", .store (.deny denial)⟩ :: later
    let final := (run {} steps {}).1.default
    (∀ step ∈ steps, step.SparesGreat) ∧ final.contests = none ∧ final.first = some [⟨"a", 1, "abc1"⟩] ∧
      final.shortest = some [⟨"a", 1, "abc1"⟩] ∧ GreatFromPast {} steps {} .default := by
  intro submission denial later steps final
  have spared : ∀ step ∈ steps, step.SparesGreat := by
    simp [steps, later, Step.SparesGreat, StoreStep.target?]
  -- Whether a denial can be written is asked of strings, which the kernel alone does not evaluate.
  have writable : denial.isWritable = true := by cbv
  have accepted : ({} : Store).deny denial = .ok { denials := [denial] } := by
    rw [Store.deny, writable]
    rfl
  have place : Alias.ofName? "default" = some .default := by decide +kernel
  have denied : (Step.perform {} {} ⟨"default", .store (.deny denial)⟩).1 = { default := { denials := [denial] } } := by
    simp only [Step.perform, place, StoreStep.perform, Databases.get, accepted, Except.map, Databases.set]
  have left : final = (run {} later { default := { denials := [denial] } }).1.default :=
    congrArg (fun databases => (run {} later databases).1.default) denied
  have first : final.first = some [⟨"a", 1, "abc1"⟩] := by
    rw [left]
    decide +kernel
  refine ⟨spared, ?_, first, ?_, ?_⟩
  · rw [left]
    decide +kernel
  · rw [left]
    decide +kernel
  · refine (great_of_one_past {} steps spared .default).1.resolve_left fun empty => ?_
    have none := first.symm.trans (empty .first)
    cases none

end Session

end JudgeStats
