import Collate.Outcome.Token
import Collate.Ty.Relate
import Collate.Ty.Render

namespace Collate

/-- What a check found instead of what was expected, with both operands as text. -/
inductive Mismatch where
  | notEqual (lhs rhs : String)
  | notEquivalent (lhs rhs : String)
  | ordering (lhs rhs : String) (expected actual : Outcome)
  deriving DecidableEq

/-- A record of a failed check, for whoever listens. -/
structure Event where
  target : String
  level : String
  message : String
  lhs : String
  rhs : String
  outcomes : Option (Outcome × Outcome) := none
  deriving DecidableEq

namespace Mismatch

def lhs : Mismatch → String
  | notEqual lhs _ => lhs
  | notEquivalent lhs _ => lhs
  | ordering lhs _ _ _ => lhs

def rhs : Mismatch → String
  | notEqual _ rhs => rhs
  | notEquivalent _ rhs => rhs
  | ordering _ rhs _ _ => rhs

def outcomes : Mismatch → Option (Outcome × Outcome)
  | ordering _ _ expected actual => some (expected, actual)
  | _ => none

def message : Mismatch → String
  | notEqual lhs rhs => "expected " ++ lhs ++ " to equal " ++ rhs
  | notEquivalent lhs rhs => "expected " ++ lhs ++ " to be equivalent to " ++ rhs
  | ordering lhs rhs expected actual =>
    "expected " ++ lhs ++ " to compare " ++ expected.token ++ " to " ++ rhs ++
      ", but it compared " ++ actual.token

def summary : Mismatch → String
  | notEqual .. => "values are not equal"
  | notEquivalent .. => "values are not equivalent"
  | ordering .. => "unexpected ordering"

def event (m : Mismatch) : Event where
  target := "ordo::diagnostic"
  level := "DEBUG"
  message := m.summary
  lhs := m.lhs
  rhs := m.rhs
  outcomes := m.outcomes

end Mismatch

/-- The result of a check and the events it gave rise to. -/
structure Report where
  mismatch : Option Mismatch
  events : List Event
  deriving DecidableEq

namespace Report

def success : Report := ⟨none, []⟩

def failure (m : Mismatch) : Report := ⟨some m, [m.event]⟩

/-- The words with which an assertion stops the program, if it does. -/
def assertion (r : Report) : Option String :=
  r.mismatch.map fun m => "assertion failed: " ++ m.message

end Report

inductive Check where
  | equal
  | equivalent
  | ordering (expected : Outcome)
  deriving DecidableEq

namespace Check

variable {α β : Type} (renderLhs : α → String) (renderRhs : β → String)

def verifyEqual (f : α → β → Bool) (x : α) (y : β) : Report :=
  if f x y then .success else .failure (.notEqual (renderLhs x) (renderRhs y))

def verifyEquivalent (f : α → β → Bool) (x : α) (y : β) : Report :=
  if f x y then .success else .failure (.notEquivalent (renderLhs x) (renderRhs y))

def verifyOrdering (f : α → β → Outcome) (expected : Outcome) (x : α) (y : β) : Report :=
  let actual := f x y
  if actual = expected then .success
  else .failure (.ordering (renderLhs x) (renderRhs y) expected actual)

/-- The check of two types, where the context has the relation and can render both. -/
def verify? (cx : Context Leaf.Val) (c : Check) (s t : Ty) : Option (s.Val → t.Val → Report) := do
  let renderLhs ← s.render? cx
  let renderRhs ← t.render? cx
  match c with
  | equal => (s.equal? cx t).map fun f => verifyEqual renderLhs renderRhs f
  | equivalent => (s.equivalent? cx t).map fun f => verifyEquivalent renderLhs renderRhs f
  | ordering expected =>
    (s.compare? cx t).map fun f => verifyOrdering renderLhs renderRhs f expected

end Check
end Collate
