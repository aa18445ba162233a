import JudgeStats.Settings
import JudgeStats.Statistic.Great
import JudgeStats.Text.Caseless

/-! The points of problems, and what users have collected of them. A problem is worth the most that an accepted submission
got for it in a rated contest. A user has the points of each problem once. -/

namespace JudgeStats.Statistic

def accepted (settings : Settings) (submissions : List Submission) : List Submission :=
  submissions.filter (·.result == settings.acceptedResult)

def isRated (settings : Settings) (contests : List Contest) (submission : Submission) : Bool :=
  contests.any fun contest => contest.id == submission.contest && settings.pointsCutoff ≤ contest.start &&
    contest.rateChange != settings.unratedContest

def highest? (amounts : List Float) : Option Float :=
  best? (fun a b => b < a) amounts

/-- For each problem of the submissions, ascending, the most points on it. Missing points do not count. -/
def mostPoints (submissions : List Submission) : List ProblemPoint :=
  (Ascending.distinct (submissions.map (·.problem))).map fun problem =>
    ⟨problem, highest? ((submissions.filter (·.problem == problem)).filterMap (·.point))⟩

def pointOf? (points : List ProblemPoint) (problem : String) : Option Float :=
  (points.find? (·.problem == problem)).bind (·.point)

def isExcluded (settings : Settings) (user : String) : Bool :=
  Text.beginsWith settings.excludedStart.toList user.toList

/-- For each user of the submissions, ascending, the points of all problems among them. -/
def pointsByUser (points : List ProblemPoint) (submissions : List Submission) : List PointSum :=
  (Ascending.distinct (submissions.map (·.user))).map fun user =>
    let problems := Ascending.distinct ((submissions.filter (·.user == user)).map (·.problem))
    ⟨user, (problems.filterMap (pointOf? points)).foldl (· + ·) 0.0⟩

end JudgeStats.Statistic
