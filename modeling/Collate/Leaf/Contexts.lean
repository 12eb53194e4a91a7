import Collate.Leaf.Offers

namespace Collate

namespace Leaf

/-- The pairs that may be asked for equality where no context changes anything. -/
def related : Leaf → Leaf → Bool
  | num _, num _ => true
  | bool, bool => true
  | char, char => true
  | unit, unit => true
  | textView, textView => true
  | text, text => true
  | textView, text => true
  | text, textView => true
  | outcome, outcome => true
  | layered, layered => true
  | label, label => true
  | slot, slot => true
  | celsius, kelvin => true
  | kelvin, celsius => true
  | _, _ => false

/-- The pairs among them that have an order too. -/
def ordered : Leaf → Leaf → Bool
  | outcome, outcome => false
  | slot, slot => false
  | a, b => related a b

def intrinsicBindings : Bindings Leaf where
  compare := ordered
  equal := related
  equivalent := related
  render a := a != null
  swap a := a != null && a != textView

/-- The context of the types as they are. -/
def intrinsic : Context Val where
  offers := offers
  extensions := {}
  binds := intrinsicBindings

end Leaf

/-- Exchanges the low bytes of two words and leaves the rest where it is. -/
def Word.swapLowByte (a b : Word .u32) : Word .u32 × Word .u32 :=
  (.wrap (a.toInt / 256 * 256 + b.toInt % 256), .wrap (b.toInt / 256 * 256 + a.toInt % 256))

namespace Leaf

def houseExtensions : Extensions Val where
  compare
    | i32, i32 => some fun a b => .ofOrdering (Ord.compare a.toInt.natAbs b.toInt.natAbs)
    | f64, f64 => some fun x y => .ofOrdering (x.totalOrder y)
    | layered, layered => some fun _ _ => .incomparable
    | _, _ => none
  equal
    | textView, textView => some Text.sameLetters
    | layered, layered => some fun _ _ => false
    | _, _ => none
  equivalent
    | i32, i32 => some fun a b => a.toInt.natAbs == b.toInt.natAbs
    | _, _ => none
  render
    | i32 => some fun a => "<" ++ a.toText ++ ">"
    | f64 => some Binary.toHex
    | layered => some fun _ => "registered"
    | _ => none
  swap
    | u32 => some Word.swapLowByte
    | layered => some fun a b => (a, b)
    | _ => none

def houseRelated : Leaf → Leaf → Bool
  | i32, i32 => true
  | f64, f64 => true
  | u32, u32 => true
  | textView, textView => true
  | text, text => true
  | layered, layered => true
  | i32, f64 => true
  | outcome, null => true
  | null, outcome => true
  | _, _ => false

def houseOrdered : Leaf → Leaf → Bool
  | i32, i32 => true
  | f64, f64 => true
  | u32, u32 => true
  | textView, textView => true
  | layered, layered => true
  | i32, f64 => true
  | f64, i32 => true
  | text, textView => true
  | outcome, null => true
  | null, outcome => true
  | _, _ => false

def houseBindings : Bindings Leaf where
  compare := houseOrdered
  equal := houseRelated
  equivalent := houseRelated
  render a := [i32, f64, u32, textView, text, layered].contains a
  swap a := [i32, f64, u32, text, layered].contains a

/-- A context with rules of its own: magnitude instead of value, every float in its place. -/
def house : Context Val where
  offers := offers
  extensions := houseExtensions
  binds := houseBindings

end Leaf
end Collate
