import Collate.Outcome.Basic

namespace Collate.Optional

variable {α β : Type}

/-- Nothing comes before something. -/
def compare (f : α → β → Outcome) : Option α → Option β → Outcome
  | none, none => .equivalent
  | none, some _ => .less
  | some _, none => .greater
  | some x, some y => f x y

def equivalent (f : α → β → Bool) : Option α → Option β → Bool
  | none, none => true
  | some x, some y => f x y
  | _, _ => false

/-- As for sequences, the values inside need only be equivalent. -/
def equal (f : α → β → Bool) (x : Option α) (y : Option β) : Bool := equivalent f x y

def render (f : α → String) : Option α → String
  | none => "None"
  | some x => "Some(" ++ f x ++ ")"

end Collate.Optional
