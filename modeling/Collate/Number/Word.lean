namespace Collate

/-- The integer types: an unsigned and a signed one for each width. -/
inductive IntType where
  | u8 | u16 | u32 | u64 | u128 | usize
  | i8 | i16 | i32 | i64 | i128 | isize
  deriving DecidableEq

namespace IntType

def all : List IntType := [u8, u16, u32, u64, u128, usize, i8, i16, i32, i64, i128, isize]

def name : IntType → String
  | u8 => "u8"
  | u16 => "u16"
  | u32 => "u32"
  | u64 => "u64"
  | u128 => "u128"
  | usize => "usize"
  | i8 => "i8"
  | i16 => "i16"
  | i32 => "i32"
  | i64 => "i64"
  | i128 => "i128"
  | isize => "isize"

def isSigned : IntType → Bool
  | u8 | u16 | u32 | u64 | u128 | usize => false
  | i8 | i16 | i32 | i64 | i128 | isize => true

/-- Width in bits; sizes of objects in memory take 64. -/
def width : IntType → Nat
  | u8 | i8 => 8
  | u16 | i16 => 16
  | u32 | i32 => 32
  | u64 | i64 | usize | isize => 64
  | u128 | i128 => 128

def span (t : IntType) : Nat := 1 <<< t.width

/-- Signed types hold as many negative integers as others. -/
def min (t : IntType) : Int := if t.isSigned then -Int.ofNat (1 <<< (t.width - 1)) else 0

def max (t : IntType) : Int := t.min + t.span - 1

theorem span_pos (t : IntType) : 0 < t.span := by cases t <;> decide

/-- The integer itself if the type holds it. -/
def narrow? (t : IntType) (n : Int) : Option Int :=
  if t.min ≤ n ∧ n ≤ t.max then some n else none

end IntType

structure Word (t : IntType) where
  toInt : Int
  min_le : t.min ≤ toInt
  le_max : toInt ≤ t.max
  deriving DecidableEq

namespace Word

variable {t : IntType}

@[ext] theorem ext {a b : Word t} (h : a.toInt = b.toInt) : a = b := by
  cases a; cases b; cases h; rfl

def ofInt? (n : Int) : Option (Word t) :=
  if h : t.min ≤ n ∧ n ≤ t.max then some ⟨n, h.1, h.2⟩ else none

/-- The word that agrees with `n` in its low bits: arithmetic that runs over wraps round. -/
def wrap (n : Int) : Word t where
  toInt := t.min + (n - t.min) % t.span
  min_le := by
    have h := Int.emod_nonneg (n - t.min) (Int.ne_of_gt (Int.natCast_pos.2 t.span_pos))
    omega
  le_max := by
    have h := Int.emod_lt_of_pos (n - t.min) (Int.natCast_pos.2 t.span_pos)
    unfold IntType.max
    omega

end Word
end Collate
