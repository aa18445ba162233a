import JudgeStats.Refresh.Log

/-! What a call leaves behind: the state, what it told, and its result. A call that fails leaves a state too, and what it
had told until then. -/

namespace JudgeStats

def total (counts : List Nat) : Nat :=
  counts.foldr (· + ·) 0

structure Outcome (σ ε α : Type) where
  state : σ
  log : List LogEntry
  result : Except ε α

namespace Outcome

variable {σ ε α β γ : Type}

def done (state : σ) (value : α) : Outcome σ ε α := ⟨state, [], .ok value⟩

def failed (state : σ) (error : ε) : Outcome σ ε α := ⟨state, [], .error error⟩

/-- Goes on from a success. A failure stays as it is. -/
def andThen (first : Outcome σ ε α) (next : α → σ → Outcome σ ε β) : Outcome σ ε β :=
  match first.result with
  | .error error => ⟨first.state, first.log, .error error⟩
  | .ok value =>
    let second := next value first.state
    ⟨second.state, first.log ++ second.log, second.result⟩

def map (f : α → β) (outcome : Outcome σ ε α) : Outcome σ ε β :=
  { outcome with result := outcome.result.map f }

/-- One call after the other, up to the first that fails. -/
def each (call : γ → σ → Outcome σ ε α) : List γ → σ → Outcome σ ε (List α)
  | [], state => done state []
  | item :: rest, state => (call item state).andThen fun value next => (each call rest next).map (value :: ·)

end Outcome

end JudgeStats
