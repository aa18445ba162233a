import JudgeStats.Command.Run

/-! The command on its own. It works on databases that start empty: it prints the operations or what they have written, and
complains about words that it does not understand. -/

open JudgeStats

def main (words : List String) : IO UInt32 := do
  match (Command.run {} words {}).result with
  | .ok lines =>
    lines.forM fun line => IO.println line
    return 0
  | .error .stopped => return 0
  | .error failure =>
    IO.eprintln ("CommandError: " ++ failure.message)
    return 1
