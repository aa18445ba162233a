import JudgeStats.Refresh.Replace

/-! The operations of a refresh, in the order in which a full run does them. -/

namespace JudgeStats

inductive Operation where
  | acceptedCount
  | solverCount
  | ratedPointSums
  | languageCount
  | greatSubmissions
  | greatCounts
  | problemPoints
deriving DecidableEq

namespace Operation

def name : Operation → String
  | acceptedCount => "update_accepted_count"
  | solverCount => "update_problem_solver_count"
  | ratedPointSums => "update_rated_point_sums"
  | languageCount => "update_language_count"
  | greatSubmissions => "update_great_submissions"
  | greatCounts => "aggregate_great_submissions"
  | problemPoints => "update_problem_points"

def all : List Operation :=
  [acceptedCount, solverCount, ratedPointSums, languageCount, greatSubmissions, greatCounts, problemPoints]

theorem mem_all (operation : Operation) : operation ∈ all := by
  cases operation <;> decide

def ofName? (name : String) : Option Operation :=
  all.find? (·.name == name)

/-- The transactions of an operation. The best submissions under all measures are replaced together, the counts made from
them one after the other. -/
def transactions : Operation → List (List Derived)
  | acceptedCount => [[.acceptedCount]]
  | solverCount => [[.solver]]
  | ratedPointSums => [[.ratedPointSum]]
  | languageCount => [[.languageCount]]
  | greatSubmissions => [[.great .first, .great .fastest, .great .shortest]]
  | greatCounts => [[.greatCount .first], [.greatCount .shortest], [.greatCount .fastest]]
  | problemPoints => [[.points]]

/-- Does an operation on a store. The result is the number of rows written. -/
def run (settings : Settings) (operation : Operation) (store : Store) : Outcome Store RefreshError Nat :=
  (Outcome.each (Store.commit settings) operation.transactions store).map total

/-- The operations with the given names, or all of them, in the order of a full run. -/
def selected : Option (List String) → List Operation
  | none => all
  | some names => all.filter fun operation => names.contains operation.name

/-- The names that no operation has, ascending and each once. -/
def unknown : Option (List String) → List String
  | none => []
  | some names => Ascending.distinct (names.filter fun name => (ofName? name).isNone)

end Operation

namespace Store

/-- Does operations one after the other, up to the first that fails. The result has the rows written by each of them. -/
def runAll (settings : Settings) (operations : List Operation) (store : Store) :
    Outcome Store RefreshError (List (Operation × Nat)) :=
  (Outcome.each (fun operation current => (operation.run settings current).map (operation, ·)) operations store).andThen
    fun counts last => ⟨last, [.finished counts.length], .ok counts⟩

/-- Does the selected operations in the order of a full run. A name that no operation has is found before anything is
done. -/
def updateAll (settings : Settings) (only : Option (List String)) (store : Store) :
    Outcome Store RefreshError (List (Operation × Nat)) :=
  match Operation.unknown only with
  | [] => store.runAll settings (Operation.selected only)
  | names => .failed store (.unknownOperations names)

end Store

end JudgeStats
