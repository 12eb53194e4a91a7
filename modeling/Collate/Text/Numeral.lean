import Collate.Number.Binary

namespace Collate

namespace Text

/-- An integer in decimal digits, with a sign only where it is negative. -/
def decimal (n : Int) : List Char :=
  if n < 0 then '-' :: Nat.toDigits 10 n.natAbs else Nat.toDigits 10 n.natAbs

def hex : Nat → Nat → List Char
  | 0, _ => []
  | k + 1, n => hex k (n / 16) ++ [Nat.digitChar (n % 16)]

/-- The number written by decimal digits, of which there is at least one. -/
def ofDigits? (cs : List Char) : Option Nat :=
  if !cs.isEmpty && cs.all Char.isDigit then some (Nat.ofDigitChars 10 cs 0) else none

/-- The integer written by digits after a sign that may be absent; a minus only if `signed`. -/
def ofDecimal? (signed : Bool) : List Char → Option Int
  | '+' :: cs => (ofDigits? cs).map Int.ofNat
  | '-' :: cs => if signed then (ofDigits? cs).map fun n => -Int.ofNat n else none
  | cs => (ofDigits? cs).map Int.ofNat

def hexValue? (c : Char) : Option Nat :=
  if '0' ≤ c ∧ c ≤ '9' then some (c.toNat - '0'.toNat)
  else if 'a' ≤ c ∧ c ≤ 'f' then some (c.toNat - 'a'.toNat + 10)
  else none

/-- The number written by exactly `k` lowercase hexadecimal digits. -/
def ofHex? (k : Nat) (cs : List Char) : Option Nat :=
  if cs.length = k then cs.foldlM (fun n c => (hexValue? c).map (n * 16 + ·)) 0 else none

end Text

namespace Word

variable {t : IntType}

def toText (a : Word t) : String := String.ofList (Text.decimal a.toInt)

def ofText? (s : String) : Option (Word t) := (Text.ofDecimal? t.isSigned s.toList).bind ofInt?

end Word

namespace Binary

variable {f : FloatFormat}

def toHex (x : Binary f) : String :=
  String.ofList ('0' :: 'x' :: Text.hex (f.width / 4) x.bits.toNat)

def ofHex? (s : String) : Option (Binary f) :=
  match s.toList with
  | '0' :: 'x' :: cs => (Text.ofHex? (f.width / 4) cs).map fun n => ⟨BitVec.ofNat f.width n⟩
  | _ => none

end Binary
end Collate
