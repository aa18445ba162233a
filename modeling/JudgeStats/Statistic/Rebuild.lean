import JudgeStats.Statistic.Points
import JudgeStats.Statistic.Tally
import JudgeStats.Store.Basic

/-! What every derived table is computed from and what it then holds. -/

namespace JudgeStats

open Statistic

def Store.solved (settings : Settings) (store : Store) : List Submission :=
  accepted settings (store.rows .submissions)

theorem Store.mem_solved_iff {settings : Settings} {store : Store} {submission : Submission} :
    submission ∈ store.solved settings ↔
      submission ∈ store.rows .submissions ∧ submission.result = settings.acceptedResult := by
  rw [solved, accepted, List.mem_filter, beq_iff_eq]

namespace Derived

/-- The tables that a rebuild reads. No contest starts after the largest number that a table can hold, so with a cutoff
beyond it nothing is read. -/
def sources (settings : Settings) : Derived → List Table
  | acceptedCount | solver | languageCount => [.submissions]
  | ratedPointSum => [.submissions, .derived points]
  | great _ => [.submissions, .contests]
  | greatCount measure => [.submissions, .derived (great measure)]
  | points => if settings.pointsCutoff < numberLimit then [.submissions, .contests] else []

/-- The rows that the tables of a store give a derived table, ascending by key. -/
def rebuild (settings : Settings) (store : Store) : (table : Derived) → List table.Row
  | acceptedCount => problemsByUser (store.solved settings)
  | solver => usersByProblem (store.solved settings)
  | ratedPointSum =>
    let worth := store.rows (.derived points)
    pointsByUser worth ((store.solved settings).filter fun submission =>
      !isExcluded settings submission.user && (pointOf? worth submission.problem).isSome)
  | languageCount => problemsByLanguage (store.solved settings)
  | great measure => bestByProblem measure ((store.solved settings).filter (startedBefore (store.rows .contests)))
  | greatCount measure => problemsByUser (named (store.rows (.derived (great measure))) (store.rows .submissions))
  | points => mostPoints ((store.solved settings).filter (isRated settings (store.rows .contests)))

/-- Why the sources of a table cannot be used although they are there. A user is compared with the start of excluded names
only after a submission was found to be accepted. -/
def sourceError? (settings : Settings) (store : Store) : Derived → Option StoreError
  | ratedPointSum =>
    if Text.longestPattern < Text.patternSize settings.excludedStart && !(store.solved settings).isEmpty then
      some .patternTooLong
    else none
  | acceptedCount | solver | languageCount | great _ | greatCount _ | points => none

/-- The rows that have to go before a rebuild is written. Problems without points are kept. -/
def isStale : (table : Derived) → table.Row → Bool
  | points, row => row.point.isSome
  | acceptedCount, _ | solver, _ | ratedPointSum, _ | languageCount, _ | great _, _ | greatCount _, _ => true

/-- Whether a row takes the place of one with its key, instead of being refused. -/
def replaces : Derived → Bool
  | points => true
  | _ => false

/-- The column of a row that would be saved as nothing although it has to hold something. -/
def missing? : (table : Derived) → table.Row → Option String
  | ratedPointSum, row => if row.total.isNaN then some "point_sum" else none
  | acceptedCount, _ | solver, _ | languageCount, _ | great _, _ | greatCount _, _ | points, _ => none

end Derived

end JudgeStats
