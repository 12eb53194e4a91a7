import Collate.Strategy

namespace Collate

/-- The implementations of one operation for one pair of types, at most one for each strategy. -/
structure Ladder (F : Type) where
  extension : Option F := none
  memberFunction : Option F := none
  memberOperator : Option F := none
  nonMemberFunction : Option F := none
  fallback : Option F := none

namespace Ladder

variable {F : Type}

def candidate (l : Ladder F) : Strategy → Option F
  | .extension => l.extension
  | .memberFunction => l.memberFunction
  | .memberOperator => l.memberOperator
  | .nonMemberFunction => l.nonMemberFunction
  | .fallback => l.fallback
  | .illFormed => none

/-- The highest strategy whose rung is taken. -/
def strategy (l : Ladder F) : Strategy :=
  if l.extension.isSome then .extension
  else if l.memberFunction.isSome then .memberFunction
  else if l.memberOperator.isSome then .memberOperator
  else if l.nonMemberFunction.isSome then .nonMemberFunction
  else if l.fallback.isSome then .fallback
  else .illFormed

/-- The implementation that carries the operation out: the first one from the top. -/
def resolve (l : Ladder F) : Option F :=
  l.extension <|> l.memberFunction <|> l.memberOperator <|> l.nonMemberFunction <|> l.fallback

end Ladder
end Collate
