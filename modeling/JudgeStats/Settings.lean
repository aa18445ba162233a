/-! What an installation of the statistics may choose. -/

namespace JudgeStats

structure Settings where
  /-- The result of a submission that counts as solved. -/
  acceptedResult : String := "AC"
  /-- Users whose name begins like this take no part in the rating. -/
  excludedStart : String := "vjudge_"
  /-- Only contests from this time on give problems their points. -/
  pointsCutoff : Int := 1468670400
  /-- The rated range of a contest that does not change ratings. -/
  unratedContest : String := "-"
  /-- How many rows are written at once. -/
  batchSize : Int := 1000
deriving DecidableEq

end JudgeStats
