import JudgeStats.Decimal.Shortest

/-! How a decimal is written: which sizes are written out with all their zeros, and how the others name their power of
ten. -/

namespace JudgeStats.Decimal

structure Style where
  /-- The places of a first digit from which, and up to which, a number is written out. -/
  least : Int
  most : Int
  /-- What a whole number that is written out ends in. -/
  wholeEnd : String
  mark : String
  exponentWidth : Nat
  notANumber : String
  infinite : String

def zeros (count : Int) : List Char :=
  List.replicate count.toNat '0'

namespace Style

/-- The sign of the exponent is always written, and zeros fill it up to its width. -/
def exponentText (style : Style) (exponent : Int) : List Char :=
  let digits := Nat.toDigits 10 exponent.natAbs
  (if exponent < 0 then '-' else '+') :: (zeros (style.exponentWidth - digits.length) ++ digits)

/-- Writes the digits, the first of which is at the given place. -/
def layout (style : Style) (digits : List Char) (place : Int) : List Char :=
  if style.least ≤ place ∧ place ≤ style.most then
    if place < 0 then "0.".toList ++ zeros (-place - 1) ++ digits
    else if digits.length ≤ place + 1 then digits ++ zeros (place + 1 - digits.length) ++ style.wholeEnd.toList
    else digits.take (place + 1).toNat ++ '.' :: digits.drop (place + 1).toNat
  else
    let fraction := if digits.length ≤ 1 then [] else '.' :: digits.drop 1
    digits.take 1 ++ fraction ++ style.mark.toList ++ style.exponentText place

/-- A double by its shortest digits. -/
def render (style : Style) (value : Float) : String :=
  if value.isNaN then style.notANumber
  else
    let sign := if value.toBits ≥ 0x8000000000000000 then ['-'] else []
    if value.isInf then String.ofList (sign ++ style.infinite.toList)
    else
      let x := Binary.ofBits value.toBits
      if x.significand = 0 then String.ofList (sign ++ style.layout ['0'] 0)
      else
        let shortest := x.shortest
        let written := Nat.toDigits 10 shortest.digits
        let digits := (written.reverse.dropWhile (· == '0')).reverse
        String.ofList (sign ++ style.layout digits (shortest.place + written.length - 1))

end Style

end JudgeStats.Decimal
