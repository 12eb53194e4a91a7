import Collate.Outcome.Basic

namespace Collate

/-- The answers of the six relational operators and of the order behind them. -/
structure Relations where
  eq : Bool
  ne : Bool
  lt : Bool
  le : Bool
  gt : Bool
  ge : Bool
  order : Option Ordering
  deriving DecidableEq

/-- `ne` is the negation of `eq`; the others hold where the order says so. -/
def Relations.ofOrder (eq : Bool) (order : Option Ordering) : Relations where
  eq := eq
  ne := !eq
  lt := order == some .lt
  le := order == some .lt || order == some .eq
  gt := order == some .gt
  ge := order == some .gt || order == some .eq
  order := order

namespace Outcome

/-- An outcome held against the zero sentinel on its right, as in `o < 0`. -/
def againstZero (o : Outcome) : Relations := .ofOrder o.isEq o.toPartial

/-- The zero sentinel held against an outcome on its right, as in `0 < o`. -/
def zeroAgainst (o : Outcome) : Relations := .ofOrder o.isEq o.flip.toPartial

end Outcome
end Collate
