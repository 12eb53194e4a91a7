import Collate.Datum

namespace Collate

abbrev Registers := List Datum

inductive Fault where
  | noSuchRegister
  | sameRegister
  | unbound
  deriving DecidableEq

/-- What can be asked of registers, given by their numbers. -/
inductive Command where
  | compare (a b : Nat)
  | equal (a b : Nat)
  | equivalent (a b : Nat)
  | render (a : Nat)
  | swap (a b : Nat)
  deriving DecidableEq

inductive Reply where
  | outcome (o : Outcome)
  | verdict (b : Bool)
  | text (s : String)
  | contents (registers : Registers)

namespace Registers

variable (cx : Context Leaf.Val)

def fetch (regs : Registers) (a : Nat) : Except Fault Datum :=
  match regs[a]? with
  | some x => .ok x
  | none => .error .noSuchRegister

/-- The answer of a relation, or the fault that the context does not have it. -/
def answer {α : Type} : Option α → Except Fault α
  | some x => .ok x
  | none => .error .unbound

/-- Exchanges two different registers, the first being the left operand. -/
def swap (regs : Registers) (a b : Nat) : Except Fault Registers := do
  let x ← regs.fetch a
  let y ← regs.fetch b
  if a = b then .error .sameRegister
  else
    let r ← answer (x.swap? cx y)
    .ok ((regs.set a r.1).set b r.2)

def swaps (regs : Registers) : List (Nat × Nat) → Except Fault Registers
  | [] => .ok regs
  | p :: ps => do
    let regs ← regs.swap cx p.1 p.2
    regs.swaps ps

/-- The reply to a command and the registers after it. -/
def step (regs : Registers) : Command → Except Fault (Reply × Registers)
  | .compare a b => do
    let o ← answer ((← regs.fetch a).compare? cx (← regs.fetch b))
    .ok (.outcome o, regs)
  | .equal a b => do
    let v ← answer ((← regs.fetch a).equal? cx (← regs.fetch b))
    .ok (.verdict v, regs)
  | .equivalent a b => do
    let v ← answer ((← regs.fetch a).equivalent? cx (← regs.fetch b))
    .ok (.verdict v, regs)
  | .render a => do
    let s ← answer ((← regs.fetch a).render? cx)
    .ok (.text s, regs)
  | .swap a b => do
    let after ← regs.swap cx a b
    .ok (.contents after, after)

end Registers
end Collate
