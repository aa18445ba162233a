/-! The key of a row: a number, a text, or two texts. Numbers ascend by value and texts by code point, pairs by their first
text and then by their second. -/

namespace JudgeStats

inductive Key where
  | number (value : Int)
  | text (value : String)
  | pair (first second : String)
deriving DecidableEq

namespace Key

protected def compare : Key → Key → Ordering
  | .number a, .number b => Ord.compare a b
  | .number _, _ => .lt
  | .text _, .number _ => .gt
  | .text a, .text b => Ord.compare a b
  | .text _, .pair .. => .lt
  | .pair a b, .pair c d => (Ord.compare a c).then (Ord.compare b d)
  | .pair .., _ => .gt

instance : Ord Key := ⟨Key.compare⟩

instance : Std.LawfulEqOrd Key where
  compare_self {key} := by
    cases key with
    | number value => exact Std.ReflOrd.compare_self (α := Int)
    | text value => exact Std.ReflOrd.compare_self (α := String)
    | pair first second =>
      exact Ordering.then_eq_eq.mpr ⟨Std.ReflOrd.compare_self (α := String), Std.ReflOrd.compare_self (α := String)⟩
  eq_of_compare {a b} same := by
    cases a <;> cases b <;> try contradiction
    case number.number => exact congrArg number (Std.LawfulEqOrd.eq_of_compare (α := Int) same)
    case text.text => exact congrArg text (Std.LawfulEqOrd.eq_of_compare (α := String) same)
    case pair.pair =>
      obtain ⟨left, right⟩ := Ordering.then_eq_eq.mp same
      exact congr (congrArg pair (Std.LawfulEqOrd.eq_of_compare (α := String) left))
        (Std.LawfulEqOrd.eq_of_compare (α := String) right)

private theorem pairs_ordered :
    Std.TransCmp (compareLex (compareOn Prod.fst) (compareOn Prod.snd) : String × String → String × String → Ordering) :=
  inferInstance

instance : Std.TransOrd Key where
  eq_swap {a b} := by
    cases a <;> cases b
    case number.number => exact Std.OrientedOrd.eq_swap (α := Int)
    case text.text => exact Std.OrientedOrd.eq_swap (α := String)
    case pair.pair =>
      exact pairs_ordered.eq_swap (a := (_, _)) (b := (_, _))
    all_goals rfl
  isLE_trans {a b c} first second := by
    cases a <;> cases b <;> cases c <;> try contradiction
    case number.number.number => exact Std.TransOrd.isLE_trans (α := Int) first second
    case text.text.text => exact Std.TransOrd.isLE_trans (α := String) first second
    case pair.pair.pair =>
      exact pairs_ordered.isLE_trans (a := (_, _)) (b := (_, _)) (c := (_, _)) first second
    all_goals rfl

end Key

end JudgeStats
