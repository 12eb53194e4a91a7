import Collate.Outcome.Basic

namespace Collate.Sequence

variable {α β : Type}

/-- The outcome at the first place that decides; a sequence comes before its own continuations. -/
def compare (f : α → β → Outcome) : List α → List β → Outcome
  | [], [] => .equivalent
  | [], _ :: _ => .less
  | _ :: _, [] => .greater
  | x :: xs, y :: ys => (f x y).andThenWith fun _ => compare f xs ys

/-- Equivalent entries place by place, and no entry left over. -/
def equivalent (f : α → β → Bool) : List α → List β → Bool
  | [], [] => true
  | x :: xs, y :: ys => f x y && equivalent f xs ys
  | _, _ => false

/-- Sequences are equal as soon as their entries are equivalent. -/
def equal (f : α → β → Bool) (xs : List α) (ys : List β) : Bool := equivalent f xs ys

def render (f : α → String) (xs : List α) : String :=
  "[" ++ ", ".intercalate (xs.map f) ++ "]"

/-- Exchanges two sequences place by place, as far as both reach. -/
def swap (f : α → α → α × α) : List α → List α → List α × List α
  | x :: xs, y :: ys =>
    let head := f x y
    let tail := swap f xs ys
    (head.1 :: tail.1, head.2 :: tail.2)
  | xs, ys => (xs, ys)

theorem length_swap_fst (f : α → α → α × α) (xs ys : List α) :
    (swap f xs ys).1.length = xs.length := by
  induction xs generalizing ys with
  | nil => simp [swap]
  | cons x xs ih => cases ys <;> simp [swap, ih]

theorem length_swap_snd (f : α → α → α × α) (xs ys : List α) :
    (swap f xs ys).2.length = ys.length := by
  induction xs generalizing ys with
  | nil => simp [swap]
  | cons x xs ih => cases ys <;> simp [swap, ih]

end Collate.Sequence
