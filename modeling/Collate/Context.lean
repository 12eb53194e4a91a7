import Collate.Ladder
import Collate.Outcome.Basic

namespace Collate

/-- What the types of a universe offer of themselves, whatever the context. The values of a type `a`
are those of `V a`. -/
structure Offers {τ : Type} (V : τ → Type) where
  compare : (a b : τ) → Option (V a → V b → Outcome) := fun _ _ => none
  order : (a b : τ) → Option (V a → V b → Option Ordering) := fun _ _ => none
  equal : (a b : τ) → Option (V a → V b → Bool) := fun _ _ => none
  same : (a b : τ) → Option (V a → V b → Bool) := fun _ _ => none
  equivalent : (a b : τ) → Option (V a → V b → Bool) := fun _ _ => none
  describe : (a : τ) → Option (V a → String) := fun _ => none
  inspect : (a : τ) → Option (V a → String) := fun _ => none
  swap : (a : τ) → Option (V a → V a → V a × V a) := fun _ => none
  movable : τ → Bool := fun _ => true

/-- What a context adds from outside. -/
structure Extensions {τ : Type} (V : τ → Type) where
  compare : (a b : τ) → Option (V a → V b → Outcome) := fun _ _ => none
  equal : (a b : τ) → Option (V a → V b → Bool) := fun _ _ => none
  equivalent : (a b : τ) → Option (V a → V b → Bool) := fun _ _ => none
  render : (a : τ) → Option (V a → String) := fun _ => none
  swap : (a : τ) → Option (V a → V a → V a × V a) := fun _ => none

/-- The pairs, and for the last two the types, for which a context puts an operation into use. -/
structure Bindings (τ : Type) where
  compare : τ → τ → Bool
  equal : τ → τ → Bool
  equivalent : τ → τ → Bool
  render : τ → Bool
  swap : τ → Bool

/-- All that decides how an operation is carried out. -/
structure Context {τ : Type} (V : τ → Type) where
  offers : Offers V
  extensions : Extensions V
  binds : Bindings τ

namespace Context

variable {τ : Type} {V : τ → Type} (cx : Context V)

/-- A comparison that only the right operand offers is made from there and flipped back. -/
def compareLadder (a b : τ) : Ladder (V a → V b → Outcome) where
  extension := cx.extensions.compare a b
  memberFunction := cx.offers.compare a b
  memberOperator := (cx.offers.order a b).map fun f x y => .ofPartial (f x y)
  nonMemberFunction := (cx.offers.compare b a).map fun f x y => (f y x).flip
  fallback := (cx.offers.order b a).map fun f x y => (Outcome.ofPartial (f y x)).flip

def equalLadder (a b : τ) : Ladder (V a → V b → Bool) where
  extension := cx.extensions.equal a b
  memberFunction := cx.offers.equal a b
  nonMemberFunction := (cx.offers.equal b a).map fun f x y => f y x
  fallback := cx.offers.same a b

def compare? (a b : τ) : Option (V a → V b → Outcome) :=
  if cx.binds.compare a b then (cx.compareLadder a b).resolve else none

def equal? (a b : τ) : Option (V a → V b → Bool) :=
  if cx.binds.equal a b then (cx.equalLadder a b).resolve else none

/-- Values that a context can tell equal count as equivalent where nothing better is offered. -/
def equivalentLadder (a b : τ) : Ladder (V a → V b → Bool) where
  extension := cx.extensions.equivalent a b
  memberFunction := cx.offers.equivalent a b
  nonMemberFunction := (cx.offers.equivalent b a).map fun f x y => f y x
  fallback := cx.equal? a b

def equivalent? (a b : τ) : Option (V a → V b → Bool) :=
  if cx.binds.equivalent a b then (cx.equivalentLadder a b).resolve else none

def renderLadder (a : τ) : Ladder (V a → String) where
  extension := cx.extensions.render a
  memberFunction := cx.offers.describe a
  nonMemberFunction := cx.offers.inspect a

def render? (a : τ) : Option (V a → String) :=
  if cx.binds.render a then (cx.renderLadder a).resolve else none

/-- Values that can be moved are exchanged whole where nothing better is offered. -/
def swapLadder (a : τ) : Ladder (V a → V a → V a × V a) where
  extension := cx.extensions.swap a
  memberFunction := cx.offers.swap a
  fallback := if cx.offers.movable a then some fun x y => (y, x) else none

def swap? (a : τ) : Option (V a → V a → V a × V a) :=
  if cx.binds.swap a then (cx.swapLadder a).resolve else none

end Context

inductive Operation where
  | equal
  | equivalent
  | compare
  | render
  | swap
  deriving DecidableEq

def Operation.isBinary : Operation → Bool
  | equal | equivalent | compare => true
  | render | swap => false

namespace Context

variable {τ : Type} {V : τ → Type} (cx : Context V)

/-- The strategy by which an operation on `a` and `b`, or on `a` alone, would be carried out. -/
def strategy : Operation → τ → τ → Strategy
  | .equal, a, b => (cx.equalLadder a b).strategy
  | .equivalent, a, b => (cx.equivalentLadder a b).strategy
  | .compare, a, b => (cx.compareLadder a b).strategy
  | .render, a, _ => (cx.renderLadder a).strategy
  | .swap, a, _ => (cx.swapLadder a).strategy

/-- Whether an operation is in use for `a` and `b`, or for `a` alone. -/
def isBound : Operation → τ → τ → Bool
  | .equal, a, b => (cx.equal? a b).isSome
  | .equivalent, a, b => (cx.equivalent? a b).isSome
  | .compare, a, b => (cx.compare? a b).isSome
  | .render, a, _ => (cx.render? a).isSome
  | .swap, a, _ => (cx.swap? a).isSome

end Context
end Collate
