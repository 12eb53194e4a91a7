import Mathlib.Order.Monotone.Basic
import Mathlib.Tactic.Ring
import Collate.Number.Comparison

namespace Collate

namespace FloatFormat

theorem bias_pos (f : FloatFormat) : 0 < f.bias := by cases f <;> decide

/-- From the exponent field `bias + fractionBits` on, the lowest bit weighs at least one. -/
theorem unitsPerOne_eq (f : FloatFormat) :
    unitsPerOne = 2 ^ (f.bias + f.fractionBits - 1 + f.scale) := by
  have h : 1074 = f.bias + f.fractionBits - 1 + f.scale := by cases f <;> rfl
  rw [unitsPerOne, h, Nat.one_shiftLeft]

theorem infinity_eq (f : FloatFormat) : f.infinity = f.maxExponent * 2 ^ f.fractionBits :=
  Nat.shiftLeft_eq ..

theorem infinity_pos (f : FloatFormat) : 0 < f.infinity := by cases f <;> decide

theorem infinity_lt (f : FloatFormat) : f.infinity < 2 ^ (f.width - 1) := by cases f <;> decide

/-- What a pattern without a sign bit weighs, in units. -/
def weight (f : FloatFormat) (m : Nat) : Nat :=
  (if m / 2 ^ f.fractionBits = 0 then m % 2 ^ f.fractionBits
    else 2 ^ f.fractionBits + m % 2 ^ f.fractionBits) *
      2 ^ (m / 2 ^ f.fractionBits - 1 + f.scale)

theorem fields_div {e r w : Nat} (hr : r < 2 ^ w) : (e * 2 ^ w + r) / 2 ^ w = e := by
  rw [Nat.mul_comm, Nat.mul_add_div (Nat.two_pow_pos _), Nat.div_eq_of_lt hr, Nat.add_zero]

theorem fields_mod {e r w : Nat} (hr : r < 2 ^ w) : (e * 2 ^ w + r) % 2 ^ w = r := by
  rw [Nat.mul_comm, Nat.mul_add_mod, Nat.mod_eq_of_lt hr]

theorem weight_fields (f : FloatFormat) (e : Nat) {r : Nat} (hr : r < 2 ^ f.fractionBits) :
    f.weight (e * 2 ^ f.fractionBits + r) =
      (if e = 0 then r else 2 ^ f.fractionBits + r) * 2 ^ (e - 1 + f.scale) := by
  rw [weight, fields_div hr, fields_mod hr]

theorem fields_lt {e n r w : Nat} (he : e < n) (hr : r < 2 ^ w) : e * 2 ^ w + r < n * 2 ^ w :=
  calc
    e * 2 ^ w + r < e * 2 ^ w + 2 ^ w := Nat.add_lt_add_left hr _
    _ = (e + 1) * 2 ^ w := (Nat.succ_mul ..).symm
    _ ≤ n * 2 ^ w := Nat.mul_le_mul_right _ he

theorem exists_fields (f : FloatFormat) (m : Nat) :
    ∃ e r, r < 2 ^ f.fractionBits ∧ m = e * 2 ^ f.fractionBits + r :=
  ⟨m / 2 ^ f.fractionBits, m % 2 ^ f.fractionBits, Nat.mod_lt _ (Nat.two_pow_pos _),
    (Nat.div_add_mod' ..).symm⟩

theorem weight_zero (f : FloatFormat) : f.weight 0 = 0 := by
  have h := f.weight_fields 0 (Nat.two_pow_pos f.fractionBits)
  rw [Nat.zero_mul, Nat.zero_add, if_pos rfl, Nat.zero_mul] at h
  exact h

theorem weight_lt_succ (f : FloatFormat) (m : Nat) : f.weight m < f.weight (m + 1) := by
  obtain ⟨e, r, hr, rfl⟩ := f.exists_fields m
  rw [f.weight_fields e hr]
  by_cases hs : r + 1 < 2 ^ f.fractionBits
  · rw [Nat.add_assoc, f.weight_fields e hs]
    exact Nat.mul_lt_mul_of_pos_right (by split <;> omega) (Nat.two_pow_pos _)
  · -- the fraction is full, and the next pattern starts the next exponent field
    have hc : e * 2 ^ f.fractionBits + r + 1 = (e + 1) * 2 ^ f.fractionBits + 0 := by
      rw [Nat.succ_mul]
      omega
    rw [hc, f.weight_fields (e + 1) (Nat.two_pow_pos _), if_neg (Nat.succ_ne_zero e), Nat.add_zero,
      Nat.add_sub_cancel]
    split_ifs with he
    · rw [he]
      exact Nat.mul_lt_mul_of_pos_right hr (Nat.two_pow_pos _)
    · have hd : 2 ^ (e + f.scale) = 2 * 2 ^ (e - 1 + f.scale) := by
        rw [← Nat.pow_succ', show (e - 1 + f.scale).succ = e + f.scale by omega]
      rw [hd, ← Nat.mul_assoc]
      exact Nat.mul_lt_mul_of_pos_right (by omega) (Nat.two_pow_pos _)

/-- Patterns are ordered like what they weigh, from zero through the subnormal numbers to the
infinities and beyond. -/
theorem weight_strictMono (f : FloatFormat) : StrictMono f.weight :=
  strictMono_nat_of_lt_succ f.weight_lt_succ

end FloatFormat

theorem unitsPerOne_pos : 0 < unitsPerOne := by
  rw [FloatFormat.binary64.unitsPerOne_eq]
  exact Nat.two_pow_pos _

theorem natCast_unitsPerOne_pos : (0 : Int) < unitsPerOne := Int.natCast_pos.2 unitsPerOne_pos

namespace Binary

variable {f : FloatFormat}

theorem isFinite_iff {x : Binary f} :
    x.isFinite = true ↔ ¬x.isNaN = true ∧ ¬x.isInfinite = true := by
  simp only [isFinite, isNaN, isInfinite, decide_eq_true_eq, beq_iff_eq]
  omega

theorem magnitude_lt (x : Binary f) : x.magnitude < 2 ^ (f.width - 1) := by
  rw [magnitude, Nat.one_shiftLeft]
  exact Nat.mod_lt _ (Nat.two_pow_pos _)

theorem exponent_eq (x : Binary f) : x.exponent = x.magnitude / 2 ^ f.fractionBits :=
  Nat.shiftRight_eq_div_pow ..

theorem fraction_eq (x : Binary f) : x.fraction = x.magnitude % 2 ^ f.fractionBits := by
  rw [fraction, Nat.one_shiftLeft]

theorem units_eq (x : Binary f) :
    x.units = if x.isNegative then -(f.weight x.magnitude : Int) else f.weight x.magnitude := by
  rw [units, significand, Nat.shiftLeft_eq, Nat.one_shiftLeft, FloatFormat.weight, exponent_eq,
    fraction_eq]

theorem natAbs_units (x : Binary f) : x.units.natAbs = f.weight x.magnitude := by
  rw [units_eq]
  split_ifs
  · rw [Int.natAbs_neg, Int.natAbs_natCast]
  · exact Int.natAbs_natCast _

theorem toNat_ofMagnitude {negative : Bool} {m : Nat} (hm : m < 2 ^ (f.width - 1)) :
    (ofMagnitude negative m : Binary f).bits.toNat =
      if negative then 2 ^ (f.width - 1) + m else m := by
  rw [ofMagnitude, Nat.one_shiftLeft, BitVec.toNat_ofNat]
  apply Nat.mod_eq_of_lt
  cases f <;> simp only [FloatFormat.width] at hm ⊢ <;> split <;> omega

theorem magnitude_ofMagnitude {negative : Bool} {m : Nat} (hm : m < 2 ^ (f.width - 1)) :
    (ofMagnitude negative m : Binary f).magnitude = m := by
  rw [magnitude, toNat_ofMagnitude hm, Nat.one_shiftLeft]
  split
  · rw [Nat.add_mod_left, Nat.mod_eq_of_lt hm]
  · exact Nat.mod_eq_of_lt hm

theorem isNegative_ofMagnitude {negative : Bool} {m : Nat} (hm : m < 2 ^ (f.width - 1)) :
    (ofMagnitude negative m : Binary f).isNegative = negative := by
  rw [isNegative, BitVec.msb_eq_decide, toNat_ofMagnitude hm]
  cases negative
  · simpa using hm
  · simp

/-- In one format the places of two numbers are ordered like the numbers. -/
theorem units_lt_units_iff {x y : Binary f} : x.units < y.units ↔ x.rank < y.rank := by
  have hm := f.weight_strictMono.lt_iff_lt (a := x.magnitude) (b := y.magnitude)
  have hn := f.weight_strictMono.lt_iff_lt (a := y.magnitude) (b := x.magnitude)
  have hx := f.weight_strictMono.le_iff_le (a := x.magnitude) (b := 0)
  have hy := f.weight_strictMono.le_iff_le (a := y.magnitude) (b := 0)
  rw [f.weight_zero] at hx hy
  rw [units_eq, units_eq, rank, rank]
  split <;> split <;> omega

end Binary
end Collate
