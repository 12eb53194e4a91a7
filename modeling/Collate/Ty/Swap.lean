import Collate.Context
import Collate.Sequence
import Collate.Ty.Basic

namespace Collate.Ty

variable (cx : Context Leaf.Val)

/-- The exchange of two values of a type. Lists and optional values change places whole, arrays
entry by entry; what a view or a reference refers to stays where it is. -/
def swap? : (t : Ty) → Option (t.Val → t.Val → t.Val × t.Val)
  | leaf a => cx.swap? a
  | list _ => some fun xs ys => (ys, xs)
  | option _ => some fun x y => (y, x)
  | array _ t => (swap? t).map fun f xs ys =>
      let r := Sequence.swap f xs.1 ys.1
      (⟨r.1, (Sequence.length_swap_fst f xs.1 ys.1).trans xs.2⟩,
        ⟨r.2, (Sequence.length_swap_snd f xs.1 ys.1).trans ys.2⟩)
  | view _ => none
  | ref _ => none

end Collate.Ty
