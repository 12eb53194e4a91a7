import Collate.Context
import Collate.Optional
import Collate.Sequence
import Collate.Ty.Basic

namespace Collate.Ty

variable (cx : Context Leaf.Val)

/-- The comparison of two types, where a context has one. Only containers of one kind compare, and
arrays whatever their lengths. -/
def compare? : (s t : Ty) → Option (s.Val → t.Val → Outcome)
  | leaf a, leaf b => cx.compare? a b
  | list s, list t => (compare? s t).map fun f => Sequence.compare f
  | view s, view t => (compare? s t).map fun f => Sequence.compare f
  | array _ s, array _ t => (compare? s t).map fun f xs ys => Sequence.compare f xs.1 ys.1
  | option s, option t => (compare? s t).map fun f => Optional.compare f
  | ref s, ref t => compare? s t
  | _, _ => none

def equivalent? : (s t : Ty) → Option (s.Val → t.Val → Bool)
  | leaf a, leaf b => cx.equivalent? a b
  | list s, list t => (equivalent? s t).map fun f => Sequence.equivalent f
  | view s, view t => (equivalent? s t).map fun f => Sequence.equivalent f
  | array _ s, array _ t => (equivalent? s t).map fun f xs ys => Sequence.equivalent f xs.1 ys.1
  | option s, option t => (equivalent? s t).map fun f => Optional.equivalent f
  | ref s, ref t => equivalent? s t
  | _, _ => none

/-- Equality of containers asks no more of the values inside than that they are equivalent. -/
def equal? : (s t : Ty) → Option (s.Val → t.Val → Bool)
  | leaf a, leaf b => cx.equal? a b
  | list s, list t => (equivalent? cx s t).map fun f => Sequence.equal f
  | view s, view t => (equivalent? cx s t).map fun f => Sequence.equal f
  | array _ s, array _ t => (equivalent? cx s t).map fun f xs ys => Sequence.equal f xs.1 ys.1
  | option s, option t => (equivalent? cx s t).map fun f => Optional.equal f
  | ref s, ref t => equal? s t
  | _, _ => none

end Collate.Ty
