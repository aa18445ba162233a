import JudgeStats.Ascending
import JudgeStats.Language
import JudgeStats.Row

/-! Counting how many different things rows have in common: problems of a user, users of a problem, problems of a user in a
language. A thing counts once, however many rows have it. -/

namespace JudgeStats.Statistic

variable {ρ κ ν : Type} [Ord κ] [BEq κ] [Ord ν]

/-- Each key of the rows, ascending, with the number of different values on its rows. -/
def tally (key : ρ → κ) (value : ρ → ν) (rows : List ρ) : List (κ × Nat) :=
  (Ascending.distinct (rows.map key)).map fun k =>
    (k, (Ascending.distinct ((rows.filter (key · == k)).map value)).length)

/-- How many problems each user has among the submissions. -/
def problemsByUser (submissions : List Submission) : List UserCount :=
  (tally (·.user) (·.problem) submissions).map fun (user, count) => ⟨user, count⟩

/-- How many users each problem has among the submissions. -/
def usersByProblem (submissions : List Submission) : List SolverCount :=
  (tally (·.problem) (·.user) submissions).map fun (problem, count) => ⟨problem, count⟩

/-- How many problems each user has in each simplified language. -/
def problemsByLanguage (submissions : List Submission) : List LanguageCount :=
  (Ascending.distinct (submissions.map (·.user))).flatMap fun user =>
    (tally (simplifyLanguage ·.language) (·.problem) (submissions.filter (·.user == user))).map
      fun (language, count) => ⟨user, language, count⟩

end JudgeStats.Statistic
