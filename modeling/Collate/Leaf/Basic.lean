import Collate.Number.Basic

namespace Collate

/-- A value that counts how often it has changed places. -/
structure Slot where
  value : Word .u32
  moves : Word .u32
  deriving DecidableEq

/-- The types without parts. Those after `null` have operations of their own. -/
inductive Leaf where
  | num (t : NumType)
  | bool
  | char
  | unit
  | textView
  | text
  | outcome
  | null
  | layered
  | celsius
  | kelvin
  | label
  | slot
  deriving DecidableEq

namespace Leaf

/-- The values of a type. Texts are the same whether they can be moved (`text`) or only looked at
(`textView`). -/
abbrev Val : Leaf → Type
  | num t => t.Val
  | bool => Bool
  | char => Char
  | unit => Unit
  | textView => String
  | text => String
  | outcome => Outcome
  | null => Unit
  | layered => Word .i32
  | celsius => Word .i64
  | kelvin => Word .i64
  | label => String
  | slot => Slot

def name : Leaf → String
  | num t => t.name
  | bool => "bool"
  | char => "char"
  | unit => "unit"
  | textView => "str"
  | text => "string"
  | outcome => "ordering"
  | null => "null"
  | layered => "layered"
  | celsius => "celsius"
  | kelvin => "kelvin"
  | label => "label"
  | slot => "slot"

def all : List Leaf :=
  NumType.all.map num ++
    [bool, char, unit, textView, text, outcome, null, layered, celsius, kelvin, label, slot]

def ofName? (s : String) : Option Leaf := all.find? (·.name == s)

@[match_pattern] abbrev u32 : Leaf := num (.int .u32)

@[match_pattern] abbrev i32 : Leaf := num (.int .i32)

@[match_pattern] abbrev f64 : Leaf := num (.float .binary64)

end Leaf
end Collate
