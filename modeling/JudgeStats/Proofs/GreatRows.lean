import JudgeStats.Proofs.GreatShares

/-! Which submissions the tables of best ones name. An accepted submission competes if it came after the start of its contest.
On each problem that has a competing submission there is one row, and it names the one that is least by the measure: a
missing value comes after all others, and the older submission comes before one with the same value. -/

namespace JudgeStats

namespace Statistic

end Statistic

namespace Store
variable {settings : Settings} {store : Store}

end Store

end JudgeStats
