import Collate.Decimal.Shortest

namespace Collate

namespace Decimal

/-- The digits without the zeros at the end. -/
def digits (d : Decimal) : List Char :=
  ((Nat.toDigits 10 d.coefficient).reverse.dropWhile (· == '0')).reverse

def leading (d : Decimal) : Int := d.exponent + (Nat.toDigits 10 d.coefficient).length - 1

/-- Digits around a point, at least one on either side of it. -/
def positional (digits : List Char) (leading : Int) : List Char :=
  if leading < 0 then
    ['0', '.'] ++ List.replicate (-leading - 1).toNat '0' ++ digits
  else
    let n := leading.toNat + 1
    let whole := digits.take n ++ List.replicate (n - digits.length) '0'
    whole ++ '.' :: if digits.length ≤ n then ['0'] else digits.drop n

/-- One digit, a point if more follow, and the power of ten. -/
def scientific (digits : List Char) (leading : Int) : List Char :=
  let exponent := 'e' :: (if leading < 0 then ['-'] else []) ++ Nat.toDigits 10 leading.natAbs
  match digits with
  | [d] => d :: exponent
  | d :: rest => d :: '.' :: rest ++ exponent
  | [] => exponent

/-- Numbers from `10 ^ (-4)` up to `10 ^ 16` are written around a point, the others with a power of
ten. -/
def toText (d : Decimal) : List Char :=
  if -4 ≤ d.leading ∧ d.leading < 16 then positional d.digits d.leading
  else scientific d.digits d.leading

end Decimal

/-- The shortest decimal that reads back as the number. -/
def Binary.toText {f : FloatFormat} (x : Binary f) : String :=
  if x.isNaN then "NaN"
  else
    let size :=
      if x.isInfinite then ['i', 'n', 'f']
      else if x.magnitude = 0 then ['0', '.', '0']
      else (RoundingRange.ofBinary x).shortest.toText
    String.ofList (if x.isNegative then '-' :: size else size)

end Collate
