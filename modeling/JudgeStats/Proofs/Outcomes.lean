import JudgeStats.Refresh.Outcome
import Mathlib.Algebra.BigOperators.Group.List.Basic

/-! Calls in a row, up to the first that fails. A row of rows is one row, and where a failing call has no effect, a row has
the effect of the calls before the first that fails. -/

namespace JudgeStats

theorem total_append (first later : List Nat) : total (first ++ later) = total first + total later :=
  List.sum_append

theorem ok_of_bind {ε α β : Type} {first : Except ε α} {next : α → Except ε β} {value : β}
    (finished : (first >>= next) = .ok value) : ∃ inner, first = .ok inner ∧ next inner = .ok value := by
  cases first with
  | error error => cases finished
  | ok inner => exact ⟨inner, rfl, finished⟩

theorem ok_of_map {ε α β : Type} {f : α → β} {result : Except ε α} {value : β}
    (finished : result.map f = .ok value) : ∃ inner, result = .ok inner ∧ f inner = value := by
  cases result with
  | error error => cases finished
  | ok inner => cases finished; exact ⟨inner, rfl, rfl⟩

theorem map_eq_error_iff {ε α β : Type} {f : α → β} {result : Except ε α} {error : ε} :
    result.map f = .error error ↔ result = .error error := by
  cases result with
  | error cause => rw [Except.map, Except.error.injEq, Except.error.injEq]
  | ok value => exact ⟨nofun, nofun⟩

theorem ok_of_mapError {ε δ α : Type} {put : ε → δ} {result : Except ε α} {value : α}
    (finished : result.mapError put = .ok value) : result = .ok value := by
  cases result with
  | error error => cases finished
  | ok inner => cases finished; rfl

theorem ok_of_isOk {ε α : Type} {result : Except ε α} (fine : result.isOk) : ∃ value, result = .ok value := by
  cases result with
  | error error => cases fine
  | ok value => exact ⟨value, rfl⟩

namespace Outcome
variable {σ ε α β γ τ : Type}

theorem andThen_of_ok {first : Outcome σ ε α} {value : α} (succeeded : first.result = .ok value)
    (next : α → σ → Outcome σ ε β) : first.andThen next =
      ⟨(next value first.state).state, first.log ++ (next value first.state).log, (next value first.state).result⟩ := by
  simp only [andThen, succeeded]

theorem andThen_of_error {first : Outcome σ ε α} {error : ε} (failed : first.result = .error error)
    (next : α → σ → Outcome σ ε β) : first.andThen next = ⟨first.state, first.log, .error error⟩ := by
  simp only [andThen, failed]

theorem isOk_map (f : α → β) (result : Except ε α) : (result.map f).isOk = result.isOk := by
  cases result <;> rfl

theorem isOk_mapError {δ : Type} (put : ε → δ) (result : Except ε α) : (result.mapError put).isOk = result.isOk := by
  cases result <;> rfl

theorem map_map (first : α → β) (second : β → γ) (outcome : Outcome σ ε α) :
    (outcome.map first).map second = outcome.map (second ∘ first) := by
  rcases outcome with ⟨state, log, _ | _⟩ <;> rfl

theorem each_append (call : γ → σ → Outcome σ ε α) (first later : List γ) (state : σ) :
    each call (first ++ later) state =
      (each call first state).andThen fun values next => (each call later next).map (values ++ ·) := by
  induction first generalizing state with
  | nil =>
    rw [List.nil_append, each, andThen_of_ok rfl]
    cases rest : each call later state with
    | mk last log result => cases result <;> simp only [done, map, rest, List.nil_append, Except.map]
  | cons item rest ih =>
    rw [List.cons_append, each, each]
    cases head : (call item state).result with
    | error error => simp only [andThen, head]
    | ok value =>
      simp only [andThen_of_ok head, ih]
      cases others : (each call rest (call item state).state).result with
      | error error => simp only [andThen, map, others, Except.map]
      | ok values =>
        simp only [andThen, map, others, Except.map, List.append_assoc]
        cases (each call later (each call rest (call item state).state).state).result <;> rfl

theorem each_ok_of_append {call : γ → σ → Outcome σ ε α} {first later : List γ} {state : σ}
    (whole : (each call (first ++ later) state).result.isOk) : (each call first state).result.isOk := by
  rw [each_append] at whole
  cases start : (each call first state).result with
  | error error => rw [andThen_of_error start] at whole; cases whole
  | ok values => rfl

theorem each_cons_ok {call : γ → σ → Outcome σ ε α} {item : γ} {rest : List γ} {state : σ} {values : List α}
    (finished : (each call (item :: rest) state).result = .ok values) :
    ∃ value others, (call item state).result = .ok value ∧
      (each call rest (call item state).state).result = .ok others ∧ values = value :: others := by
  rw [each] at finished
  cases head : (call item state).result with
  | error error => rw [andThen_of_error head] at finished; cases finished
  | ok value =>
    rw [andThen_of_ok head] at finished
    cases tail : (each call rest (call item state).state).result with
    | error error => simp only [map, tail] at finished; cases finished
    | ok others =>
      simp only [map, tail] at finished
      cases finished
      exact ⟨value, others, rfl, rfl, rfl⟩

theorem each_cons {call : γ → σ → Outcome σ ε α} {item : γ} (rest : List γ) {state : σ} {value : α}
    (succeeded : (call item state).result = .ok value) :
    (each call (item :: rest) state).state = (each call rest (call item state).state).state ∧
    (each call (item :: rest) state).log = (call item state).log ++ (each call rest (call item state).state).log := by
  rw [each, andThen_of_ok succeeded]
  exact ⟨rfl, rfl⟩

/-- Two calls that leave the same state and log and either both succeed or both fail, whatever they answer. -/
structure SameEffect (first : Outcome σ ε α) (second : Outcome σ ε β) : Prop where
  state : first.state = second.state
  log : first.log = second.log
  result : first.result.isOk = second.result.isOk

/-- Calls that are rows of smaller calls have the effect of all the smaller ones in a row. -/
theorem each_flatMap (call : τ → σ → Outcome σ ε α) (parts : γ → List τ) (answer : γ → List α → β) (items : List γ)
    (state : σ) : SameEffect (each (fun item current => (each call (parts item) current).map (answer item)) items state)
      (each call (items.flatMap parts) state) := by
  induction items generalizing state with
  | nil => exact ⟨rfl, rfl, rfl⟩
  | cons item rest ih =>
    rw [List.flatMap_cons, each_append, each]
    cases head : (each call (parts item) state).result with
    | error error =>
      have failed : ((each call (parts item) state).map (answer item)).result = .error error := by
        simp only [map, head, Except.map]
      rw [andThen_of_error head, andThen_of_error failed]
      exact ⟨rfl, rfl, rfl⟩
    | ok values =>
      have succeeded : ((each call (parts item) state).map (answer item)).result = .ok (answer item values) := by
        simp only [map, head, Except.map]
      rw [andThen_of_ok head, andThen_of_ok succeeded]
      obtain ⟨same, told, both⟩ := ih (each call (parts item) state).state
      refine ⟨same, congrArg (_ ++ ·) told, ?_⟩
      exact (isOk_map _ _).trans (both.trans (isOk_map _ _).symm)

/-- Where a failing call has no effect, a row of calls has the effect of its first ones, up to one that fails. -/
theorem each_stops (call : γ → σ → Outcome σ ε α)
    (clean : ∀ item state, (call item state).result.isOk = false → (call item state).state = state ∧
      (call item state).log = []) (items : List γ) (state : σ) :
    ∃ done later, items = done ++ later ∧ (later = [] ↔ (each call items state).result.isOk) ∧
      (each call done state).result.isOk ∧ (each call items state).state = (each call done state).state ∧
      (each call items state).log = (each call done state).log := by
  induction items generalizing state with
  | nil => exact ⟨[], [], rfl, ⟨fun _ => rfl, fun _ => rfl⟩, rfl, rfl, rfl⟩
  | cons item rest ih =>
    rw [each]
    cases head : (call item state).result with
    | error error =>
      obtain ⟨same, silent⟩ := clean item state (by rw [head]; rfl)
      rw [andThen_of_error head]
      refine ⟨[], item :: rest, rfl, ⟨fun empty => ?_, fun fine => ?_⟩, rfl, same, silent⟩
      · cases empty
      · cases fine
    | ok value =>
      obtain ⟨done, later, rfl, whole, succeeded, same, told⟩ := ih (call item state).state
      refine ⟨item :: done, later, rfl, ?_⟩
      rw [each, andThen_of_ok head, andThen_of_ok head]
      refine ⟨?_, ?_, same, congrArg (_ ++ ·) told⟩
      · exact whole.trans (by rw [map, isOk_map])
      · exact (isOk_map _ _).trans succeeded

end Outcome

end JudgeStats
