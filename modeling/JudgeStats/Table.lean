import JudgeStats.Row

/-! The names of the tables and the types of their rows. Contests and submissions are what the judge knows; all other
tables are derived from them. -/

namespace JudgeStats

/-- What a submission may be best at: being early, running briefly, or being short. -/
inductive Measure where
  | first | fastest | shortest
deriving DecidableEq

inductive Derived where
  | acceptedCount
  | solver
  | ratedPointSum
  | languageCount
  /-- The best submission on each problem. -/
  | great (measure : Measure)
  /-- How many of the best submissions each user has. -/
  | greatCount (measure : Measure)
  | points
deriving DecidableEq

inductive Table where
  | contests
  | submissions
  | derived (table : Derived)
deriving DecidableEq

def Measure.name : Measure → String
  | .first => "first"
  | .fastest => "fastest"
  | .shortest => "shortest"

namespace Derived

def name : Derived → String
  | acceptedCount => "accepted_count"
  | solver => "solver"
  | ratedPointSum => "rated_point_sum"
  | languageCount => "language_count"
  | great measure => measure.name
  | greatCount measure => measure.name ++ "_submission_count"
  | points => "points"

def all : List Derived :=
  [acceptedCount, solver, ratedPointSum, languageCount, great .first, great .fastest, great .shortest,
    greatCount .first, greatCount .fastest, greatCount .shortest, points]

theorem mem_all (table : Derived) : table ∈ all := by
  cases table with
  | great measure => cases measure <;> decide
  | greatCount measure => cases measure <;> decide
  | _ => decide

abbrev Row : Derived → Type
  | acceptedCount => UserCount
  | solver => SolverCount
  | ratedPointSum => PointSum
  | languageCount => LanguageCount
  | great _ => GreatSubmission
  | greatCount _ => UserCount
  | points => ProblemPoint

instance : (table : Derived) → Schema table.Row
  | acceptedCount => inferInstanceAs (Schema UserCount)
  | solver => inferInstanceAs (Schema SolverCount)
  | ratedPointSum => inferInstanceAs (Schema PointSum)
  | languageCount => inferInstanceAs (Schema LanguageCount)
  | great _ => inferInstanceAs (Schema GreatSubmission)
  | greatCount _ => inferInstanceAs (Schema UserCount)
  | points => inferInstanceAs (Schema ProblemPoint)

end Derived

namespace Table

def name : Table → String
  | contests => "contests"
  | submissions => "submissions"
  | derived table => table.name

def all : List Table :=
  contests :: submissions :: Derived.all.map derived

def ofName? (name : String) : Option Table :=
  all.find? (·.name == name)

abbrev Row : Table → Type
  | contests => Contest
  | submissions => Submission
  | derived table => table.Row

instance : (table : Table) → Schema table.Row
  | contests => inferInstanceAs (Schema Contest)
  | submissions => inferInstanceAs (Schema Submission)
  | derived table => inferInstanceAs (Schema table.Row)

end Table

end JudgeStats
