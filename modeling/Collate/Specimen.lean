import Collate.Context
import Collate.Number.Word
import Collate.Text.Numeral

namespace Collate

/-- The two operand types of a specimen, or the one type of an operation on one type. -/
inductive Side where
  | left
  | right
  deriving DecidableEq

/-- What a specimen may offer for an operation. -/
inductive Capability where
  | extension
  | member
  | operator
  | nonMember
  | reflectedOperator
  deriving DecidableEq

namespace Capability

def name : Capability → String
  | extension => "extension"
  | member => "member"
  | operator => "operator"
  | nonMember => "nonmember"
  | reflectedOperator => "reflected_operator"

/-- The capabilities that mean something for an operation. -/
def available : Operation → List Capability
  | .compare => [extension, member, operator, nonMember, reflectedOperator]
  | .equal => [extension, member, nonMember, operator]
  | .equivalent => [extension, member, nonMember]
  | .render => [extension, member, nonMember]
  | .swap => [extension, member]

def ofName? (op : Operation) (s : String) : Option Capability :=
  (available op).find? (·.name == s)

end Capability

/-- Types that offer exactly what is listed, so that every ladder can be climbed rung by rung. Each
implementation computes something of its own. -/
structure Specimen where
  compare : List Capability := []
  equal : List Capability := []
  equivalent : List Capability := []
  render : List Capability := []
  swap : List Capability := []
  bindsEqual : Bool := true
  movable : Bool := true

namespace Specimen

abbrev Val (_ : Side) : Type := Word .i64

variable (p : Specimen)

/-- An implementation for operands in the given places, if it is listed. -/
def listed {F : Type} (l : List Capability) (c : Capability) (f : F) : Option F :=
  if l.contains c then some f else none

def offers : Offers Val where
  compare
    | .left, .right => listed p.compare .member fun l r =>
        .ofOrdering (Ord.compare r.toInt l.toInt)
    | .right, .left => listed p.compare .nonMember fun r l =>
        if r.toInt = 0 ∨ l.toInt = 0 then .incomparable
        else .ofOrdering (Ord.compare (r.toInt % 10) (l.toInt % 10))
    | _, _ => none
  order
    | .left, .right => listed p.compare .operator fun l r =>
        if l.toInt % 2 = r.toInt % 2 then some (Ord.compare l.toInt r.toInt) else none
    | .right, .left => listed p.compare .reflectedOperator fun r l =>
        if r.toInt < 0 ∨ l.toInt < 0 then none
        else some (Ord.compare (r.toInt / 10) (l.toInt / 10))
    | _, _ => none
  equal
    | .left, .right => listed p.equal .member fun l r =>
        (Word.wrap (l.toInt - r.toInt) : Word .i64).toInt == 1
    | .right, .left => listed p.equal .nonMember fun r l =>
        (Word.wrap (r.toInt - l.toInt) : Word .i64).toInt == 2
    | _, _ => none
  same
    | .left, .right => listed p.equal .operator fun l r => l.toInt == r.toInt
    | _, _ => none
  equivalent
    | .left, .right => listed p.equivalent .member fun l r => l.toInt ≤ r.toInt
    | .right, .left => listed p.equivalent .nonMember fun r l => r.toInt < l.toInt
    | _, _ => none
  describe _ := listed p.render .member fun a => "member(" ++ a.toText ++ ")"
  inspect _ := listed p.render .nonMember fun a => "nonmember(" ++ a.toText ++ ")"
  swap _ := listed p.swap .member fun a b => (.wrap (b.toInt + 1), .wrap (a.toInt + 1))
  movable _ := p.movable

def extensions : Extensions Val where
  compare
    | .left, .right => listed p.compare .extension fun l r =>
        .ofOrdering (Ord.compare l.toInt.natAbs r.toInt.natAbs)
    | _, _ => none
  equal
    | .left, .right => listed p.equal .extension fun l r => l.toInt.natAbs == r.toInt.natAbs
    | _, _ => none
  equivalent
    | .left, .right => listed p.equivalent .extension fun l r =>
        l.toInt.tdiv 10 == r.toInt.tdiv 10
    | _, _ => none
  render _ := listed p.render .extension fun a => "extension(" ++ a.toText ++ ")"
  swap _ := listed p.swap .extension fun a b => (.wrap (-b.toInt), .wrap (-a.toInt))

def context : Context Val where
  offers := p.offers
  extensions := p.extensions
  binds :=
    { compare := fun _ _ => true
      equal := fun _ _ => p.bindsEqual
      equivalent := fun _ _ => true
      render := fun _ => true
      swap := fun _ => true }

end Specimen
end Collate
