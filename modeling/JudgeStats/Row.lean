import JudgeStats.Decimal.Style
import JudgeStats.Schema

/-! The rows of all tables: contests, submissions and the points of problems on one side, the statistics about them on the
other. A field that may be missing is an option; every other field is always there. -/

namespace JudgeStats

/-- Amounts are written out from four places after the point up to sixteen digits before it. -/
def amountStyle : Decimal.Style where
  least := -4
  most := 15
  wholeEnd := ".0"
  mark := "e"
  exponentWidth := 2
  notANumber := "nan"
  infinite := "inf"

def amountText (amount : Option Float) : String :=
  amount.elim "None" amountStyle.render

structure Contest where
  id : String
  start : Int
  duration : Int
  title : String
  rateChange : String
deriving DecidableEq

instance : Schema Contest where
  columns := [.text "id", .number "start_epoch_second", ⟨"duration_second", .number, .number 0⟩, .text "title",
    ⟨"rate_change", .text, .text "-"⟩]
  keyWidth := 1
  read fields := do
    return { id := ← fields.text "id", start := ← fields.number "start_epoch_second",
             duration := ← fields.number "duration_second", title := ← fields.text "title",
             rateChange := ← fields.text "rate_change" }
  cells row := [.text row.id, .number row.start, .number row.duration, .text row.title, .text row.rateChange]
  key row := .text row.id
  summary row := row.id

structure Submission where
  id : Int
  epochSecond : Int
  problem : String
  contest : String
  user : String
  language : String
  point : Option Float
  length : Int
  result : String
  executionTime : Option Int
deriving DecidableEq

instance : Schema Submission where
  columns := [.number "id", .number "epoch_second", .text "problem_id", ⟨"contest_id", .text, .null⟩, .text "user_id",
    .text "language", .amount "point", .number "length", .text "result", .number "execution_time"]
  keyWidth := 1
  read fields := do
    return { id := ← fields.number "id", epochSecond := ← fields.number "epoch_second",
             problem := ← fields.text "problem_id", contest := ← fields.text "contest_id",
             user := ← fields.text "user_id", language := ← fields.text "language",
             point := fields.amount? "point", length := ← fields.number "length",
             result := ← fields.text "result", executionTime := fields.number? "execution_time" }
  cells row := [.number row.id, .number row.epochSecond, .text row.problem, .text row.contest, .text row.user,
    .text row.language, .ofAmount? row.point, .number row.length, .text row.result, .ofNumber? row.executionTime]
  key row := .number row.id
  summary row := s!"{row.user} {row.problem} #{row.id}"

/-- The points that a problem is worth, where that is known. -/
structure ProblemPoint where
  problem : String
  point : Option Float
deriving DecidableEq

instance : Schema ProblemPoint where
  columns := [.text "problem_id", .amount "point"]
  keyWidth := 1
  read fields := do
    return { problem := ← fields.text "problem_id", point := fields.amount? "point" }
  cells row := [.text row.problem, .ofAmount? row.point]
  key row := .text row.problem
  summary row := s!"{row.problem}: {amountText row.point}"

/-- A number of problems for a user. -/
structure UserCount where
  user : String
  problems : Int
deriving DecidableEq

instance : Schema UserCount where
  columns := [.text "user_id", .number "problem_count"]
  keyWidth := 1
  read fields := do
    return { user := ← fields.text "user_id", problems := ← fields.number "problem_count" }
  cells row := [.text row.user, .number row.problems]
  key row := .text row.user
  summary row := s!"{row.user}: {row.problems}"

/-- A number of users for a problem. -/
structure SolverCount where
  problem : String
  users : Int
deriving DecidableEq

instance : Schema SolverCount where
  columns := [.text "problem_id", .number "user_count"]
  keyWidth := 1
  read fields := do
    return { problem := ← fields.text "problem_id", users := ← fields.number "user_count" }
  cells row := [.text row.problem, .number row.users]
  key row := .text row.problem
  summary row := s!"{row.problem}: {row.users}"

/-- The points of all problems that a user has solved. -/
structure PointSum where
  user : String
  total : Float
deriving DecidableEq

instance : Schema PointSum where
  columns := [.text "user_id", .amount "point_sum"]
  keyWidth := 1
  read fields := do
    return { user := ← fields.text "user_id", total := ← fields.amount "point_sum" }
  cells row := [.text row.user, .amount row.total]
  key row := .text row.user
  summary row := s!"{row.user}: {amountText row.total}"

/-- A number of problems for a user and a simplified language. -/
structure LanguageCount where
  user : String
  language : String
  problems : Int
deriving DecidableEq

instance : Schema LanguageCount where
  columns := [.text "user_id", .text "simplified_language", .number "problem_count"]
  keyWidth := 2
  read fields := do
    return { user := ← fields.text "user_id", language := ← fields.text "simplified_language",
             problems := ← fields.number "problem_count" }
  cells row := [.text row.user, .text row.language, .number row.problems]
  key row := .pair row.user row.language
  summary row := s!"{row.user} {row.language}: {row.problems}"

/-- The best submission on a problem. -/
structure GreatSubmission where
  problem : String
  submission : Int
  contest : String
deriving DecidableEq

instance : Schema GreatSubmission where
  columns := [.text "problem_id", .number "submission_id", .text "contest_id"]
  keyWidth := 1
  read fields := do
    return { problem := ← fields.text "problem_id", submission := ← fields.number "submission_id",
             contest := ← fields.text "contest_id" }
  cells row := [.text row.problem, .number row.submission, .text row.contest]
  key row := .text row.problem
  summary row := s!"{row.problem}: #{row.submission}"

end JudgeStats
