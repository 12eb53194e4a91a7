import Collate.Number.Word

namespace Collate

inductive FloatFormat where
  | binary32
  | binary64
  deriving DecidableEq

namespace FloatFormat

def all : List FloatFormat := [binary32, binary64]

def name : FloatFormat → String
  | binary32 => "f32"
  | binary64 => "f64"

def width : FloatFormat → Nat
  | binary32 => 32
  | binary64 => 64

def fractionBits : FloatFormat → Nat
  | binary32 => 23
  | binary64 => 52

/-- The exponent field of the number one. -/
def bias : FloatFormat → Nat
  | binary32 => 127
  | binary64 => 1023

/-- The exponent field of infinities and NaNs. -/
def maxExponent (f : FloatFormat) : Nat := 2 * f.bias + 1

/-- The pattern of an infinity without its sign. -/
def infinity (f : FloatFormat) : Nat := f.maxExponent <<< f.fractionBits

/-- The least positive number of the format is `2 ^ scale` units. -/
def scale : FloatFormat → Nat
  | binary32 => 925
  | binary64 => 0

/-- `n` divided by `2 ^ k`, to the nearest whole number, and from half-way to the even one. -/
def roundShift (n k : Nat) : Nat :=
  let rest := n % 1 <<< k
  if 1 <<< k < 2 * rest ∨ 1 <<< k = 2 * rest ∧ (n >>> k) % 2 = 1 then n >>> k + 1 else n >>> k

/-- The bits by which `n` units go beyond the precision of the format. -/
def excess (f : FloatFormat) (n : Nat) : Nat := n.log2 - (f.fractionBits + f.scale)

/-- The pattern without a sign of the number nearest to `n` units, and beyond the numbers that of
infinity. The hidden bit, and a carry of the rounding, count up the exponent field. -/
def nearestPattern (f : FloatFormat) (n : Nat) : Nat :=
  let m := f.excess n <<< f.fractionBits + roundShift n (f.excess n + f.scale)
  if m < f.infinity then m else f.infinity

end FloatFormat

/-- The units in one, `2 ^ 1074`. Every finite number of either format is a whole number of
units. -/
def unitsPerOne : Nat := 1 <<< 1074

structure Binary (f : FloatFormat) where
  bits : BitVec f.width
  deriving DecidableEq

namespace Binary

variable {f g : FloatFormat}

def isNegative (x : Binary f) : Bool := x.bits.msb

/-- The pattern without its sign bit. -/
def magnitude (x : Binary f) : Nat := x.bits.toNat % 1 <<< (f.width - 1)

def ofMagnitude (negative : Bool) (m : Nat) : Binary f :=
  ⟨BitVec.ofNat f.width (if negative then 1 <<< (f.width - 1) + m else m)⟩

def exponent (x : Binary f) : Nat := x.magnitude >>> f.fractionBits

def fraction (x : Binary f) : Nat := x.magnitude % 1 <<< f.fractionBits

def isNaN (x : Binary f) : Bool := f.infinity < x.magnitude

def isInfinite (x : Binary f) : Bool := x.magnitude == f.infinity

def isFinite (x : Binary f) : Bool := x.magnitude < f.infinity

/-- The fraction with its hidden bit, which subnormal numbers lack. -/
def significand (x : Binary f) : Nat :=
  if x.exponent = 0 then x.fraction else 1 <<< f.fractionBits + x.fraction

/-- The exact value of a finite number, in units. -/
def units (x : Binary f) : Int :=
  let n : Nat := x.significand <<< (x.exponent - 1 + f.scale)
  if x.isNegative then -n else n

/-- The place of a pattern in the numeric order, in which both zeros share a place. -/
def rank (x : Binary f) : Int := if x.isNegative then -x.magnitude else x.magnitude

/-- The place of a pattern in the total order: negative patterns from below, then positive ones. -/
def totalRank (x : Binary f) : Int := if x.isNegative then -x.magnitude - 1 else x.magnitude

/-- The numeric order, silent on NaNs. -/
def order? (x y : Binary f) : Option Ordering :=
  if x.isNaN || y.isNaN then none else some (compare x.rank y.rank)

def same (x y : Binary f) : Bool := !x.isNaN && !y.isNaN && x.rank == y.rank

/-- The order of all patterns, NaNs by sign and payload included. -/
def totalOrder (x y : Binary f) : Ordering := compare x.totalRank y.totalRank

/-- The power of two, for exponents within the format's range. -/
def twoPow (negative : Bool) (k : Nat) : Binary f :=
  ofMagnitude negative ((f.bias + k) <<< f.fractionBits)

/-- The integral part toward zero: the bits that weigh less than one are cleared. -/
def trunc (x : Binary f) : Binary f :=
  if x.exponent < f.bias then ofMagnitude x.isNegative 0
  else
    let low := f.bias + f.fractionBits - x.exponent
    ofMagnitude x.isNegative (x.magnitude >>> low <<< low)

/-- The number nearest to `n` units. Half-way between two it is the one with the even pattern. -/
def nearest (n : Int) : Binary f := ofMagnitude (n < 0) (f.nearestPattern n.natAbs)

/-- What `trunc` takes away, in units. -/
def fractionUnits (x : Binary f) : Int := x.units - x.trunc.units

/-- The difference of a finite number and its integral part, rounded to the format. -/
def fract (x : Binary f) : Binary f := nearest x.fractionUnits

/-- The integral part of a finite number, if the type `t` holds it. -/
def toInt? (t : IntType) (x : Binary f) : Option Int :=
  if x.isFinite then t.narrow? (x.units.tdiv unitsPerOne) else none

/-- The integral part of a number in the range of signed words of 128 bits. -/
def wholePart (x : Binary f) : Int := (x.trunc.toInt? .i128).getD IntType.i128.min

/-- The same number in the wide format. A subnormal number gets a leading bit of its own there. -/
def widen (x : Binary .binary32) : Binary .binary64 :=
  ofMagnitude x.isNegative <|
    if x.magnitude = 0 then 0
    else if x.exponent = 0 then
      let k := x.magnitude.log2
      (k + 874) <<< 52 + (x.magnitude - 1 <<< k) <<< (52 - k)
    else if x.exponent = 255 then 2047 <<< 52 + x.fraction <<< 29
    else (x.exponent + 896) <<< 52 + x.fraction <<< 29

def toBinary64 : {f : FloatFormat} → Binary f → Binary .binary64
  | .binary32, x => x.widen
  | .binary64, x => x

end Binary
end Collate
