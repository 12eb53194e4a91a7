import Collate.Number.Binary

namespace Collate

structure Decimal where
  coefficient : Nat
  exponent : Int
  deriving DecidableEq

/-- A positive number and the ends of the range that rounds to it, in quarters of a unit. -/
structure RoundingRange where
  low : Nat
  value : Nat
  high : Nat
  closed : Bool

def quartersPerOne : Nat := 4 * unitsPerOne

namespace RoundingRange

/-- The range of a positive number. Its ends, half-way to the neighbours, round to the even
significand; below a power of two the neighbour is only half as far. -/
def ofBinary {f : FloatFormat} (x : Binary f) : RoundingRange :=
  let step := 1 <<< (x.exponent - 1 + f.scale)
  let value := 4 * (x.significand * step)
  { low := if x.fraction = 0 ∧ 1 < x.exponent then value - step else value - 2 * step
    value := value
    high := value + 2 * step
    closed := x.significand % 2 == 0 }

def holds (r : RoundingRange) (n m : Nat) : Bool :=
  if r.closed then r.low * m ≤ n && n ≤ r.high * m else r.low * m < n && n < r.high * m

/-- The nearest multiple of `10 ^ p` in the range, a tie going up. Only the two neighbours of the
value can be nearest, and if any multiple lies in the range, one of them does. -/
def onGrid? (r : RoundingRange) (p : Int) : Option Decimal :=
  let m := Nat.pow 10 (-p).toNat
  let step := Nat.pow 10 p.toNat * quartersPerOne
  let value := r.value * m
  let d := value / step
  let below := r.holds (d * step) m
  let above := r.holds ((d + 1) * step) m
  if above && (!below || (d + 1) * step - value ≤ value - d * step) then some ⟨d + 1, p⟩
  else if below then some ⟨d, p⟩
  else none

/-- The exponent of the value's leading decimal digit. -/
def leading (r : RoundingRange) : Int :=
  if quartersPerOne ≤ r.value then (Nat.toDigits 10 (r.value / quartersPerOne)).length - 1
  else -(Nat.toDigits 10 ((quartersPerOne - 1) / r.value)).length

/-- The decimal of fewest digits in the range, and of those the nearest to the value. Seventeen
digits tell all numbers of both formats apart. -/
def shortest (r : RoundingRange) : Decimal :=
  ((List.range 17).findSome? fun k : Nat => r.onGrid? (r.leading - k)).getD ⟨0, 0⟩

end RoundingRange
end Collate
