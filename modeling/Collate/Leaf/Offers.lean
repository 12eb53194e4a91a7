import Collate.Context
import Collate.Decimal.Layout
import Collate.Leaf.Basic
import Collate.Outcome.Token
import Collate.Text.Numeral
import Collate.Text.Order
import Collate.Text.Quoted

namespace Collate

namespace NumType

/-- Integers in decimal, floats by their shortest decimals. -/
def inspect : (t : NumType) → t.Val → String
  | int _, a => a.toText
  | float _, x => x.toText

end NumType

namespace Slot

def inspect (s : Slot) : String :=
  "Slot \x7b value: " ++ s.value.toText ++ ", moves: " ++ s.moves.toText ++ " \x7d"

def receive (s : Slot) (value : Word .u32) : Slot := ⟨value, .wrap (s.moves.toInt + 1)⟩

end Slot

namespace Leaf

/-- The kelvin that a temperature in degrees Celsius amounts to. -/
def inKelvin (c : Word .i64) : Int := c.toInt + 273

def compare : (a b : Leaf) → Option (a.Val → b.Val → Outcome)
  | num s, num t => if s = t then none else some (NumType.compare s t)
  | text, textView => some fun s t => .ofOrdering (Text.compare s t)
  | textView, text => some fun s t => .ofOrdering (Text.compare s t)
  | layered, layered => some fun a b => .ofOrdering (Ord.compare b.toInt a.toInt)
  | label, label => some fun s t =>
      .ofOrdering (Ord.compare (Text.bytes s).length (Text.bytes t).length)
  | kelvin, celsius => some fun k c => .ofOrdering (Ord.compare k.toInt (inKelvin c))
  | _, _ => none

def order : (a b : Leaf) → Option (a.Val → b.Val → Option Ordering)
  | num s, num t => NumType.order s t
  | bool, bool => some fun p q => some (Ord.compare p q)
  | char, char => some fun c d => some (Ord.compare c.toNat d.toNat)
  | unit, unit => some fun _ _ => some .eq
  | textView, textView => some fun s t => some (Text.compare s t)
  | text, text => some fun s t => some (Text.compare s t)
  | outcome, null => some fun o _ => o.toPartial
  | null, outcome => some fun _ o => o.flip.toPartial
  | layered, layered => some fun a b => some (Ord.compare a.toInt b.toInt)
  | _, _ => none

def equal : (a b : Leaf) → Option (a.Val → b.Val → Bool)
  | num s, num t => if s = t then none else some fun x y => (NumType.compare s t x y).isEq
  | layered, layered => some fun _ _ => true
  | celsius, kelvin => some fun c k => inKelvin c == k.toInt
  | _, _ => none

def same : (a b : Leaf) → Option (a.Val → b.Val → Bool)
  | num s, num t => NumType.same s t
  | bool, bool => some fun p q => p == q
  | char, char => some fun c d => c == d
  | unit, unit => some fun _ _ => true
  | textView, textView => some fun s t => s == t
  | text, text => some fun s t => s == t
  | text, textView => some fun s t => s == t
  | textView, text => some fun s t => s == t
  | outcome, outcome => some fun o p => o == p
  | outcome, null => some fun o _ => o.isEq
  | null, outcome => some fun _ o => o.isEq
  | null, null => some fun _ _ => true
  | layered, layered => some fun a b => a.toInt == b.toInt
  | label, label => some fun s t => s == t
  | slot, slot => some fun s t => s == t
  | _, _ => none

def equivalent : (a b : Leaf) → Option (a.Val → b.Val → Bool)
  | label, label => some Text.sameLetters
  | slot, slot => some fun s t => s.value == t.value
  | _, _ => none

def describe : (a : Leaf) → Option (a.Val → String)
  | outcome => some Outcome.token
  | layered => some fun a => "layer " ++ a.toText
  | celsius => some fun c => c.toText ++ "C"
  | _ => none

def inspect : (a : Leaf) → Option (a.Val → String)
  | num t => some t.inspect
  | bool => some fun p => if p then "true" else "false"
  | char => some Text.quotedChar
  | unit => some fun _ => "()"
  | textView => some Text.quotedString
  | text => some Text.quotedString
  | outcome => some Outcome.name
  | null => some fun _ => "Null"
  | layered => some fun a => "Layered(" ++ a.toText ++ ")"
  | celsius => none
  | kelvin => some fun k => "Kelvin(" ++ k.toText ++ ")"
  | label => some fun s => "Label(" ++ Text.quotedString s ++ ")"
  | slot => some Slot.inspect

/-- Layers change sign as they change places. -/
def swap : (a : Leaf) → Option (a.Val → a.Val → a.Val × a.Val)
  | layered => some fun a b => (.wrap (-b.toInt), .wrap (-a.toInt))
  | slot => some fun s t => (s.receive t.value, t.receive s.value)
  | _ => none

def movable : Leaf → Bool
  | textView => false
  | _ => true

def offers : Offers Val where
  compare := compare
  order := order
  equal := equal
  same := same
  equivalent := equivalent
  describe := describe
  inspect := inspect
  swap := swap
  movable := movable

end Leaf
end Collate
