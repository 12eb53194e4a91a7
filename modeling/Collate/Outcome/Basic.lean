namespace Collate

/-- How one value stands to another. -/
inductive Outcome where
  | less
  | equivalent
  | greater
  | incomparable
  deriving DecidableEq

namespace Outcome

def all : List Outcome := [less, equivalent, greater, incomparable]

/-- The number of an outcome: its place in `all`. -/
def position : Outcome → Nat
  | less => 0
  | equivalent => 1
  | greater => 2
  | incomparable => 3

def flip : Outcome → Outcome
  | less => greater
  | greater => less
  | equivalent => equivalent
  | incomparable => incomparable

/-- Whether a second comparison still has a say. -/
def isOpen : Outcome → Bool
  | equivalent => true
  | _ => false

/-- The first outcome that is not `equivalent`; the second comparison is made only where it has a
say. -/
def andThenWith (o : Outcome) (next : Unit → Outcome) : Outcome :=
  match o with
  | equivalent => next ()
  | decided => decided

/-- The first outcome, or the second where the first is `equivalent`. -/
def andThen (o next : Outcome) : Outcome := o.andThenWith fun _ => next

def isEq : Outcome → Bool
  | equivalent => true
  | _ => false

/-- Ordered apart; an incomparable outcome is not. -/
def isNe : Outcome → Bool
  | less | greater => true
  | _ => false

def isLT : Outcome → Bool
  | less => true
  | _ => false

def isLE : Outcome → Bool
  | less | equivalent => true
  | _ => false

def isGT : Outcome → Bool
  | greater => true
  | _ => false

def isGE : Outcome → Bool
  | greater | equivalent => true
  | _ => false

def isIncomparable : Outcome → Bool
  | incomparable => true
  | _ => false

def ofOrdering : Ordering → Outcome
  | .lt => less
  | .eq => equivalent
  | .gt => greater

/-- A partial order's answer; `none` stands for values that it does not relate. -/
def ofPartial : Option Ordering → Outcome
  | some o => ofOrdering o
  | none => incomparable

def toPartial : Outcome → Option Ordering
  | less => some .lt
  | equivalent => some .eq
  | greater => some .gt
  | incomparable => none

/-- How a number stands to zero, as three-way comparison functions report it. -/
def ofSign (n : Int) : Outcome :=
  if n < 0 then less else if 0 < n then greater else equivalent

@[simp] theorem flip_flip (o : Outcome) : o.flip.flip = o := by cases o <;> rfl

@[simp] theorem equivalent_andThen (o : Outcome) : equivalent.andThen o = o := rfl

theorem flip_andThen (o next : Outcome) : (o.andThen next).flip = o.flip.andThen next.flip := by
  cases o <;> rfl

theorem andThen_assoc (a b c : Outcome) : (a.andThen b).andThen c = a.andThen (b.andThen c) := by
  cases a <;> rfl

theorem flip_ofOrdering (o : Ordering) : (ofOrdering o).flip = ofOrdering o.swap := by
  cases o <;> rfl

@[simp] theorem ofPartial_toPartial (o : Outcome) : ofPartial o.toPartial = o := by
  cases o <;> rfl

@[simp] theorem toPartial_ofPartial (o : Option Ordering) : (ofPartial o).toPartial = o := by
  rcases o with _ | o
  · rfl
  · cases o <;> rfl

end Outcome
end Collate
