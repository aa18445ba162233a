/-! The shortest decimal that is read back as a given double. A double stands for all reals that round to it: those up to
halfway to its neighbours, the halfway points included when its significand is even. Of the decimals in there the one
with the fewest digits is taken, of two with equally few the nearer, and the even one where both are equally near. -/

namespace JudgeStats.Decimal

/-- The positive double with the value significand · 2^exponent. -/
structure Binary where
  significand : Nat
  exponent : Int
  /-- At a power of two the neighbour below is half as far as the neighbour above. -/
  narrow : Bool

/-- The magnitude of a finite double, from its 64 bits. -/
def Binary.ofBits (bits : UInt64) : Binary :=
  let exponent : Nat := bits.toNat / 0x10000000000000 % 0x800
  let fraction := bits.toNat % 0x10000000000000
  if exponent = 0 then ⟨fraction, -1074, false⟩
  else ⟨0x10000000000000 + fraction, (exponent : Int) - 1075, fraction == 0 && exponent != 1⟩

/-- The reals that round to a double, in units of one over scale: its value lies between low and high. -/
structure Interval where
  low : Nat
  value : Nat
  high : Nat
  scale : Nat
  closed : Bool

/-- The interval of a double, divided by 10^place. -/
def Binary.interval (x : Binary) (place : Int) : Interval :=
  let up := Nat.pow 2 (x.exponent - 2).toNat * Nat.pow 10 (-place).toNat
  ⟨(4 * x.significand - if x.narrow then 1 else 2) * up, 4 * x.significand * up, (4 * x.significand + 2) * up,
    Nat.pow 2 (2 - x.exponent).toNat * Nat.pow 10 place.toNat, x.significand % 2 == 0⟩

def Interval.contains (range : Interval) (n : Nat) : Bool :=
  let point := n * range.scale
  (range.low < point && point < range.high) || (range.closed && (point == range.low || point == range.high))

/-- The whole number in the interval that is nearest to the value. It is one of the value's two neighbours. -/
def Interval.nearest? (range : Interval) : Option Nat :=
  let below := range.value / range.scale
  match range.contains below, range.contains (below + 1) with
  | false, false => none
  | true, false => some below
  | false, true => some (below + 1)
  | true, true =>
    match compare (2 * range.value) ((2 * below + 1) * range.scale) with
    | .lt => some below
    | .gt => some (below + 1)
    | .eq => some (if below % 2 == 0 then below else below + 1)

/-- The place of the first digit of numerator over denominator, both positive: the power of ten that it counts. -/
def firstPlace (numerator denominator : Nat) : Int :=
  if denominator ≤ numerator then (Nat.toDigits 10 (numerator / denominator)).length - 1
  else
    let digits := (Nat.toDigits 10 (denominator / numerator)).length
    if denominator ≤ numerator * Nat.pow 10 (digits - 1) then 1 - digits else -digits

/-- Digits of a decimal and the place of the last of them. -/
structure Digits where
  digits : Nat
  place : Int

/-- Seventeen digits always suffice for a double. -/
def Binary.shortest (x : Binary) : Digits :=
  let whole := x.interval 0
  let first := firstPlace whole.value whole.scale
  let found := (List.range 17).findSome? fun (more : Nat) =>
    let place : Int := first - more
    (x.interval place).nearest?.map fun digits => ⟨digits, place⟩
  found.getD ⟨(x.interval (first - 16)).value / (x.interval (first - 16)).scale, first - 16⟩

end JudgeStats.Decimal
