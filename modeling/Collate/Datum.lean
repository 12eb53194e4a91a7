import Collate.Ty.Relate
import Collate.Ty.Render
import Collate.Ty.Swap

namespace Collate

structure Datum where
  type : Ty
  value : type.Val

namespace Datum

variable (cx : Context Leaf.Val)

def compare? (x y : Datum) : Option Outcome :=
  (x.type.compare? cx y.type).map fun f => f x.value y.value

def equal? (x y : Datum) : Option Bool :=
  (x.type.equal? cx y.type).map fun f => f x.value y.value

def equivalent? (x y : Datum) : Option Bool :=
  (x.type.equivalent? cx y.type).map fun f => f x.value y.value

def render? (x : Datum) : Option String := (x.type.render? cx).map fun f => f x.value

/-- Only values of one type change places. -/
def swap? (x y : Datum) : Option (Datum × Datum) :=
  if h : y.type = x.type then
    (x.type.swap? cx).map fun f =>
      let r := f x.value (h ▸ y.value)
      (⟨x.type, r.1⟩, ⟨x.type, r.2⟩)
  else none

end Datum
end Collate
