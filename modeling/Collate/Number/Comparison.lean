import Collate.Number.Binary
import Collate.Outcome.Basic

namespace Collate

variable {s t : IntType} {f g : FloatFormat}

/-- Integers by value, read as signed words of 128 bits; only large unsigned ones do not fit
these. -/
def compareIntegers (a : Word s) (b : Word t) : Outcome :=
  match IntType.i128.narrow? a.toInt, IntType.i128.narrow? b.toInt with
  | some m, some n => .ofOrdering (compare m n)
  | none, some _ => .greater
  | some _, none => .less
  | none, none =>
    .ofOrdering (compare (IntType.u128.narrow? a.toInt) (IntType.u128.narrow? b.toInt))

/-- An integer against a floating-point number, neither of them rounded: the integral part decides
first, what is left of the float after it second. -/
def compareIntegerFloat (a : Word t) (x : Binary f) : Outcome :=
  if x.isNaN then .incomparable
  else if x.isInfinite then
    if x.isNegative then .greater else .less
  else
    let whole := x.trunc
    if (Binary.twoPow false 127 : Binary f).rank ≤ whole.rank then
      match IntType.u128.narrow? a.toInt, whole.toInt? .u128 with
      | some m, some n => .ofOrdering (compare m n)
      | _, _ => .less
    else if whole.rank < (Binary.twoPow true 127 : Binary f).rank then .greater
    else
      match IntType.i128.narrow? a.toInt with
      | some m => (Outcome.ofOrdering (compare m x.wholePart)).andThenWith fun _ =>
          .ofOrdering (compare 0 x.fract.rank)
      | none => .greater

/-- Floating-point numbers by value, in the wide format, which holds both of them. -/
def compareFloats (x : Binary f) (y : Binary g) : Outcome :=
  .ofPartial (x.toBinary64.order? y.toBinary64)

end Collate
