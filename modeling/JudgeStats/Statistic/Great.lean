import JudgeStats.Ascending
import JudgeStats.Table

/-! The best submissions on each problem. Only submissions after the start of their contest compete. The smaller value of
the measure wins, a missing value loses against every other, and the older submission wins a tie. -/

namespace JudgeStats

/-- The first of the elements that no other is better than, if better is the strict part of a total order. -/
def best? {α : Type} (better : α → α → Bool) : List α → Option α
  | [] => none
  | candidate :: rest =>
    match best? better rest with
    | none => some candidate
    | some rival => some (if better rival candidate then rival else candidate)

def Measure.value : Measure → Submission → Option Int
  | .first, submission => some submission.epochSecond
  | .fastest, submission => submission.executionTime
  | .shortest, submission => some submission.length

def Measure.better (measure : Measure) (a b : Submission) : Bool :=
  match measure.value a, measure.value b with
  | some x, some y => x < y || (x == y && a.id < b.id)
  | some _, none => true
  | none, some _ => false
  | none, none => a.id < b.id

namespace Statistic

def startedBefore (contests : List Contest) (submission : Submission) : Bool :=
  contests.any fun contest => contest.id == submission.contest && contest.start < submission.epochSecond

/-- For each problem of the submissions, ascending, the best one on it. -/
def bestByProblem (measure : Measure) (submissions : List Submission) : List GreatSubmission :=
  (Ascending.distinct (submissions.map (·.problem))).filterMap fun problem =>
    (best? measure.better (submissions.filter (·.problem == problem))).map fun winner =>
      ⟨problem, winner.id, winner.contest⟩

/-- The submissions that the rows of a table of best ones name. -/
def named (great : List GreatSubmission) (submissions : List Submission) : List Submission :=
  submissions.filter fun submission => great.any (·.submission == submission.id)

end Statistic

end JudgeStats
