namespace Collate

/-- The ways in which an operation can be supplied, best first. -/
inductive Strategy where
  | extension
  | memberFunction
  | memberOperator
  | nonMemberFunction
  | fallback
  | illFormed
  deriving DecidableEq

namespace Strategy

/-- Higher wins; `illFormed` is below all that can be carried out. -/
def rank : Strategy → Int
  | extension => 4
  | memberFunction => 3
  | memberOperator => 2
  | nonMemberFunction => 1
  | fallback => 0
  | illFormed => -1

def name : Strategy → String
  | extension => "Extension"
  | memberFunction => "MemberFunction"
  | memberOperator => "MemberOperator"
  | nonMemberFunction => "NonMemberFunction"
  | fallback => "Fallback"
  | illFormed => "IllFormed"

def all : List Strategy :=
  [extension, memberFunction, memberOperator, nonMemberFunction, fallback, illFormed]

def ofName? (s : String) : Option Strategy := all.find? (·.name == s)

def outranks (a b : Strategy) : Bool := b.rank < a.rank

end Strategy
end Collate
