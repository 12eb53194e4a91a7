import Collate.Leaf.Basic

namespace Collate

/-- The types: leaves, and containers of any depth over them. -/
inductive Ty where
  | leaf (a : Leaf)
  | list (t : Ty)
  | view (t : Ty)
  | array (n : Nat) (t : Ty)
  | option (t : Ty)
  | ref (t : Ty)
  deriving DecidableEq

/-- The values of a type; a reference is as good as what it refers to. -/
abbrev Ty.Val : Ty → Type
  | leaf a => a.Val
  | list t => List t.Val
  | view t => List t.Val
  | array n t => { xs : List t.Val // xs.length = n }
  | option t => Option t.Val
  | ref t => t.Val

end Collate
