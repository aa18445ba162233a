import JudgeStats.Main
import JudgeStats.Proofs.Convergence
import JudgeStats.Proofs.CountAgreement
import JudgeStats.Proofs.EntryPoints
import JudgeStats.Proofs.GreatRows
import JudgeStats.Proofs.GreatTogether
import JudgeStats.Proofs.LanguageCounts
import JudgeStats.Proofs.LocalEffect
import JudgeStats.Proofs.OperationOrder
import JudgeStats.Proofs.PerlNames
import JudgeStats.Proofs.ProblemPoints
import JudgeStats.Proofs.RatedSums
import JudgeStats.Proofs.RemarkRemoval
import JudgeStats.Proofs.TableConstraints
