import Collate.Number.Comparison

namespace Collate

inductive NumType where
  | int (t : IntType)
  | float (f : FloatFormat)
  deriving DecidableEq

namespace NumType

abbrev Val : NumType → Type
  | int t => Word t
  | float f => Binary f

def name : NumType → String
  | int t => t.name
  | float f => f.name

def all : List NumType := IntType.all.map int ++ FloatFormat.all.map float

def compare : (s t : NumType) → s.Val → t.Val → Outcome
  | int _, int _, a, b => compareIntegers a b
  | int _, float _, a, x => compareIntegerFloat a x
  | float _, int _, x, a => (compareIntegerFloat a x).flip
  | float _, float _, x, y => compareFloats x y

/-- The order that a number type has of its own. -/
def order : (s t : NumType) → Option (s.Val → t.Val → Option Ordering)
  | int s, int t => if s = t then some fun a b => some (Ord.compare a.toInt b.toInt) else none
  | float .binary32, float .binary32 => some Binary.order?
  | float .binary64, float .binary64 => some Binary.order?
  | _, _ => none

/-- The equality that a number type has of its own. -/
def same : (s t : NumType) → Option (s.Val → t.Val → Bool)
  | int s, int t => if s = t then some fun a b => a.toInt == b.toInt else none
  | float .binary32, float .binary32 => some Binary.same
  | float .binary64, float .binary64 => some Binary.same
  | _, _ => none

end NumType
end Collate
