import Collate.Context
import Collate.Optional
import Collate.Sequence
import Collate.Ty.Basic

namespace Collate.Ty

variable (cx : Context Leaf.Val)

def render? : (t : Ty) → Option (t.Val → String)
  | leaf a => cx.render? a
  | list t => (render? t).map fun f => Sequence.render f
  | view t => (render? t).map fun f => Sequence.render f
  | array _ t => (render? t).map fun f xs => Sequence.render f xs.1
  | option t => (render? t).map fun f => Optional.render f
  | ref t => render? t

end Collate.Ty
