import JudgeStats.Proofs.Beginnings
import JudgeStats.Proofs.PointRows
import JudgeStats.Proofs.RefreshRuns

/-! Whose points are summed up, and what the sums are made of. A user who is not excluded and has solved a problem that is
worth something has one row. Its total has every such problem of the user once, however often and for whatever contests the
user has solved it. -/

namespace JudgeStats

namespace Statistic

/-- What some problems are worth, where they are worth something. -/
def worthOf (points : List ProblemPoint) (problems : List String) : List (String × Float) :=
  problems.filterMap fun problem => (pointOf? points problem).map (problem, ·)

section Worth
variable {points : List ProblemPoint} {problems : List String}

theorem mem_worthOf_iff {problem : String} {amount : Float} :
    (problem, amount) ∈ worthOf points problems ↔ problem ∈ problems ∧ pointOf? points problem = some amount := by
  rw [worthOf, List.mem_filterMap]
  constructor
  · rintro ⟨problem, inside, made⟩
    obtain ⟨_, found, ⟨⟩⟩ := Option.map_eq_some_iff.mp made
    exact ⟨inside, found⟩
  · rintro ⟨inside, found⟩
    exact ⟨problem, inside, Option.map_eq_some_iff.mpr ⟨amount, found, rfl⟩⟩

theorem worthOf_ascending (sorted : Ascending id problems) : Ascending Prod.fst (worthOf points problems) := by
  apply sorted.filterMap
  intro first later one other less made found
  obtain ⟨_, _, rfl⟩ := Option.map_eq_some_iff.mp made
  obtain ⟨_, _, rfl⟩ := Option.map_eq_some_iff.mp found
  exact less

theorem map_snd_worthOf : (worthOf points problems).map Prod.snd = problems.filterMap (pointOf? points) := by
  rw [worthOf, List.map_filterMap]
  apply List.filterMap_congr
  intro problem _
  rw [Option.map_map]
  exact Option.map_id'

end Worth

end Statistic

namespace Store
open Statistic
variable {settings : Settings} {store : Store}

/-- All problems of a user that are worth something, each once and with its worth. -/
structure Collects (settings : Settings) (store : Store) (user : String) (worth : List (String × Float)) : Prop where
  single : (worth.map Prod.fst).Nodup
  each : ∀ problem amount, (problem, amount) ∈ worth ↔
    store.Solves settings user problem ∧ ⟨problem, some amount⟩ ∈ store.rows (.derived .points)

/-- What problems are worth together, added up in their order. -/
def sumOf (worth : List (String × Float)) : Float :=
  (worth.map Prod.snd).foldl (· + ·) 0.0

theorem Collects.perm {user : String} {worth others : List (String × Float)} (one : store.Collects settings user worth)
    (two : store.Collects settings user others) : worth.Perm others := by
  apply (List.perm_ext_iff_of_nodup (one.single.of_map _) (two.single.of_map _)).mpr
  rintro ⟨problem, amount⟩
  rw [one.each, two.each]

section Rows
variable (ordered : Ascending Schema.key (store.rows (.derived .points)))
include ordered

theorem pointOf?_isSome_iff {problem : String} : (pointOf? (store.rows (.derived .points)) problem).isSome ↔
    ∃ amount, ⟨problem, some amount⟩ ∈ store.rows (.derived .points) := by
  rw [Option.isSome_iff_exists]
  exact exists_congr fun amount => pointOf?_eq_some_iff ordered

/-- The submissions that count for a sum. -/
theorem mem_worthy_iff {submission : Submission} : submission ∈ (store.solved settings).filter (fun submission =>
      !isExcluded settings submission.user && (pointOf? (store.rows (.derived .points)) submission.problem).isSome) ↔
    submission ∈ store.solved settings ∧ ¬ Text.Begins settings.excludedStart.toList submission.user.toList ∧
      ∃ amount, ⟨submission.problem, some amount⟩ ∈ store.rows (.derived .points) := by
  rw [List.mem_filter, Bool.and_eq_true, Bool.not_eq_true', pointOf?_isSome_iff ordered, ← Text.beginsWith_iff,
    Bool.not_eq_true]
  rfl

theorem exists_sum_iff {user : String} :
    (∃ row ∈ Derived.ratedPointSum.rebuild settings store, row.user = user) ↔
      ¬ Text.Begins settings.excludedStart.toList user.toList ∧ ∃ problem amount,
        store.Solves settings user problem ∧ ⟨problem, some amount⟩ ∈ store.rows (.derived .points) := by
  refine (Ascending.exists_iff_of_map_eq (map_user_pointsByUser _ _)).trans ?_
  constructor
  · rintro ⟨submission, worthy, rfl⟩
    obtain ⟨solved, included, amount, held⟩ := (mem_worthy_iff ordered).mp worthy
    obtain ⟨member, accepted⟩ := mem_solved_iff.mp solved
    exact ⟨included, submission.problem, amount, ⟨submission, member, accepted, rfl, rfl⟩, held⟩
  · rintro ⟨included, _, amount, ⟨submission, member, accepted, rfl, rfl⟩, held⟩
    exact ⟨submission, (mem_worthy_iff ordered).mpr ⟨mem_solved_iff.mpr ⟨member, accepted⟩, included, amount, held⟩, rfl⟩

theorem exists_collects {row : PointSum} (member : row ∈ Derived.ratedPointSum.rebuild settings store) :
    ∃ worth, store.Collects settings row.user worth ∧ Ascending Prod.fst worth ∧ row.total = sumOf worth := by
  obtain ⟨_, total⟩ := mem_pointsByUser_iff.mp member
  obtain ⟨included, _⟩ := (exists_sum_iff ordered).mp ⟨row, member, rfl⟩
  rw [← map_snd_worthOf] at total
  refine ⟨_, ⟨?single, fun problem amount => ?_⟩, worthOf_ascending (Ascending.distinct_ascending _), total⟩
  case single => exact (worthOf_ascending (Ascending.distinct_ascending _)).nodup_keys
  rw [mem_worthOf_iff, pointOf?_eq_some_iff ordered]
  refine and_congr_left fun held => ?_
  rw [Ascending.mem_distinct, List.mem_map]
  constructor
  · rintro ⟨submission, inside, rfl⟩
    obtain ⟨worthy, owner⟩ := List.mem_filter.mp inside
    obtain ⟨among, accepted⟩ := mem_solved_iff.mp ((mem_worthy_iff ordered).mp worthy).1
    exact ⟨submission, among, accepted, beq_iff_eq.mp owner, rfl⟩
  · rintro ⟨submission, among, accepted, owner, rfl⟩
    have worthy := (mem_worthy_iff ordered).mpr ⟨mem_solved_iff.mpr ⟨among, accepted⟩, owner ▸ included, amount, held⟩
    exact ⟨submission, List.mem_filter.mpr ⟨worthy, beq_iff_eq.mpr owner⟩, rfl⟩

end Rows

/-- When the sums were replaced, each user who takes part and has solved something worth points has one row, with the points
of all such problems of the user, each once. -/
theorem ratedPointSums_collect (keyed : store.Keyed) {count : Nat}
    (finished : (Operation.ratedPointSums.run settings store).result = .ok count) :
    ∃ sums, (Operation.ratedPointSums.run settings store).state.ratedPointSum = some sums ∧
      (sums.map (·.user)).Nodup ∧
      (∀ user, (∃ row ∈ sums, row.user = user) ↔ ¬ Text.Begins settings.excludedStart.toList user.toList ∧
        ∃ problem amount, store.Solves settings user problem ∧
          ⟨problem, some amount⟩ ∈ store.rows (.derived .points)) ∧
      (∀ row ∈ sums, (∃ worth, store.Collects settings row.user worth ∧ Ascending Prod.fst worth ∧ row.total = sumOf worth) ∧
        ∀ worth, store.Collects settings row.user worth → (∀ order, order.Perm worth → sumOf order = sumOf worth) →
          row.total = sumOf worth) ∧
      ((∀ c ∈ settings.excludedStart.toList, c ≠ '\x00' ∧ c ∉ Text.unclear) →
        ∀ user : String, Text.Begins settings.excludedStart.toList user.toList ↔
          ∃ first rest, user.toList = first ++ rest ∧
            first.map Char.toLower = settings.excludedStart.toList.map Char.toLower) := by
  have succeeded : (Operation.ratedPointSums.run settings store).result.isOk := by
    rw [finished]
    rfl
  have held : (Operation.ratedPointSums.run settings store).state.get (.derived .ratedPointSum) =
      some (Derived.ratedPointSum.rebuild settings store) :=
    get_run_of_whole succeeded rfl (by decide)
  refine ⟨_, held, ?_, fun user => exists_sum_iff keyed.points, fun row member => ?_, fun plain user => ?_⟩
  · have named (row : PointSum) : Schema.key row = .text row.user := rfl
    exact Ascending.nodup_names named (Derived.rebuild_ascending settings store .ratedPointSum)
  · obtain ⟨worth, collects, ascending, total⟩ := exists_collects keyed.points member
    refine ⟨⟨worth, collects, ascending, total⟩, fun others collected independent => ?_⟩
    rw [total, independent worth (collects.perm collected)]
  · exact Text.begins_iff_of_plain plain

/-- A problem that was solved twice counts once, one without points does not count, and of two names that are like an excluded
one only the one that differs in case is excluded. -/
theorem ratedPointSums_collect_once :
    let store : Store :=
      { submissions := some [⟨1, 1500000100, "a", "abc1", "ann", "C++", some 100, 20, "AC", some 3⟩,
          ⟨2, 1500000200, "a", "abc2", "ann", "Rust", some 300, 10, "AC", none⟩,
          ⟨3, 1500000300, "b", "abc1", "ann", "C", none, 10, "AC", none⟩,
          ⟨4, 1500000400, "c", "abc1", "ann", "C", none, 10, "AC", none⟩,
          ⟨5, 1500000500, "a", "abc1", "VJudge_1", "C", none, 10, "AC", none⟩,
          ⟨6, 1500000600, "a", "abc1", "vjudgex1", "C", none, 10, "AC", none⟩,
          ⟨7, 1500000700, "c", "abc1", "bob", "C", none, 10, "AC", none⟩]
        points := some [⟨"a", some 0.5⟩, ⟨"b", some 2⟩, ⟨"c", none⟩] }
    let outcome := Operation.ratedPointSums.run {} store
    store.Keyed ∧ outcome.result = .ok 2 ∧
    outcome.state.ratedPointSum = some [⟨"ann", 2.5⟩, ⟨"vjudgex1", 0.5⟩] ∧
    ∀ row ∈ outcome.state.rows (.derived .ratedPointSum), ∃ worth, store.Collects {} row.user worth ∧ row.total = sumOf worth := by
  intro store outcome
  have keyed : store.Keyed := by decide +kernel
  have finished : outcome.result = .ok 2 := by decide +kernel
  obtain ⟨sums, held, _, _, total, _⟩ := ratedPointSums_collect keyed finished
  have rows : outcome.state.rows (.derived .ratedPointSum) = sums := congrArg (·.getD []) held
  refine ⟨keyed, finished, by decide +kernel, fun row member => ?_⟩
  obtain ⟨⟨worth, collects, _, whole⟩, _⟩ := total row (rows ▸ member)
  exact ⟨worth, collects, whole⟩

/-- Where the excluded start has a NUL in it, a user is left out whose name does not begin with it. -/
theorem sums_leave_out_shorter_name :
    let settings : Settings := { excludedStart := "a\x00b" }
    let store : Store :=
      { submissions := some [⟨1, 1500000100, "p", "abc1", "a", "C++", some 100, 20, "AC", some 3⟩]
        points := some [⟨"p", some 1⟩] }
    let outcome := Operation.ratedPointSums.run settings store
    outcome.result = .ok 0 ∧ outcome.state.ratedPointSum = some [] ∧
    store.Solves settings "a" "p" ∧ ⟨"p", some 1⟩ ∈ store.rows (.derived .points) ∧
    ¬ ∃ first rest, "a".toList = first ++ rest ∧
      first.map Char.toLower = settings.excludedStart.toList.map Char.toLower := by
  intro settings store outcome
  refine ⟨by decide +kernel, by decide +kernel, ⟨_, List.mem_singleton_self _, rfl, rfl, rfl⟩, List.mem_singleton_self _, ?_⟩
  rintro ⟨first, rest, split, same⟩
  have long : settings.excludedStart.toList.length = 3 := by decide +kernel
  have short : "a".toList.length = 1 := by decide +kernel
  have whole := congrArg List.length split
  have equal := congrArg List.length same
  rw [List.length_append, short] at whole
  rw [List.length_map, List.length_map, long] at equal
  omega

end Store

end JudgeStats
