import Collate.Proofs.Number.Rounding
import Collate.Proofs.Number.Value

namespace Collate

theorem IntType.narrow?_of_mem {t : IntType} {n : Int} (h : t.min ≤ n ∧ n ≤ t.max) :
    t.narrow? n = some n := if_pos h

theorem IntType.narrow?_of_not_mem {t : IntType} {n : Int} (h : ¬(t.min ≤ n ∧ n ≤ t.max)) :
    t.narrow? n = none := if_neg h

/-- Words of 128 bits, signed and unsigned ones together, hold every integer. -/
theorem Word.bounds {t : IntType} (a : Word t) :
    IntType.i128.min ≤ a.toInt ∧ a.toInt ≤ IntType.u128.max := by
  have hmin : IntType.i128.min ≤ t.min := by cases t <;> decide
  have hmax : t.max ≤ IntType.u128.max := by cases t <;> decide
  exact ⟨hmin.trans a.min_le, a.le_max.trans hmax⟩

theorem IntType.i128_min : IntType.i128.min = -2 ^ 127 := by decide

theorem IntType.i128_max : IntType.i128.max = 2 ^ 127 - 1 := by decide

theorem IntType.u128_min : IntType.u128.min = 0 := rfl

theorem IntType.u128_max : IntType.u128.max = 2 ^ 128 - 1 := by decide

theorem compareIntegers_eq {s t : IntType} (a : Word s) (b : Word t) :
    compareIntegers a b = .ofOrdering (compare a.toInt b.toInt) := by
  obtain ⟨ha, ha'⟩ := a.bounds
  obtain ⟨hb, hb'⟩ := b.bounds
  have hw : IntType.u128.min ≤ IntType.i128.max := by decide
  rw [compareIntegers]
  by_cases hla : a.toInt ≤ IntType.i128.max <;> by_cases hlb : b.toInt ≤ IntType.i128.max
  · rw [IntType.narrow?_of_mem ⟨ha, hla⟩, IntType.narrow?_of_mem ⟨hb, hlb⟩]
  · rw [IntType.narrow?_of_mem ⟨ha, hla⟩, IntType.narrow?_of_not_mem (fun h => hlb h.2),
      compare_lt_iff_lt.2 (by omega)]
    rfl
  · rw [IntType.narrow?_of_not_mem (fun h => hla h.2), IntType.narrow?_of_mem ⟨hb, hlb⟩,
      compare_gt_iff_gt.2 (by omega)]
    rfl
  · rw [IntType.narrow?_of_not_mem (fun h => hla h.2), IntType.narrow?_of_not_mem (fun h => hlb h.2),
      IntType.narrow?_of_mem ⟨by omega, ha'⟩, IntType.narrow?_of_mem ⟨by omega, hb'⟩]
    rfl

/-- A whole number of ones stands to `n` units as it stands to the whole part of these, and where
that leaves it open, as zero stands to the rest. -/
theorem compare_mul_unitsPerOne (a n : Int) :
    compare (a * unitsPerOne) n =
      (compare a (n.tdiv unitsPerOne)).then (compare 0 (n - n.tdiv unitsPerOne * unitsPerOne)) := by
  have hpos := natCast_unitsPerOne_pos
  have hsplit := Int.tdiv_mul_add_tmod n unitsPerOne
  have hlt : n.tmod unitsPerOne < unitsPerOne := Int.tmod_lt_of_pos n hpos
  have hgt : -(unitsPerOne : Int) < n.tmod unitsPerOne := Int.lt_tmod_of_pos n hpos
  generalize n.tdiv unitsPerOne = w at *
  generalize n.tmod unitsPerOne = r at *
  rcases lt_trichotomy a w with h | rfl | h
  · have hm := Int.mul_le_mul_of_nonneg_right (Int.add_one_le_of_lt h) hpos.le
    rw [Int.add_mul] at hm
    rw [compare_lt_iff_lt.2 h, compare_lt_iff_lt.2 (by omega)]
    rfl
  · rw [compare_eq_iff_eq.2 rfl]
    exact Outcome.compare_eq_compare (by omega) (by omega)
  · have hm := Int.mul_le_mul_of_nonneg_right (Int.add_one_le_of_lt h) hpos.le
    rw [Int.add_mul] at hm
    rw [compare_gt_iff_gt.2 h, compare_gt_iff_gt.2 (by omega)]
    rfl

namespace Binary

variable {f : FloatFormat}

/-- The whole part of a number, toward zero. -/
def whole (x : Binary f) : Int := x.units.tdiv unitsPerOne

theorem toInt?_trunc {x : Binary f} (hx : x.isFinite = true) (t : IntType) :
    x.trunc.toInt? t = t.narrow? x.whole := by
  have hpos := natCast_unitsPerOne_pos
  rw [toInt?, if_pos (isFinite_trunc hx), units_trunc, Int.mul_tdiv_cancel _ hpos.ne', whole]

theorem fractionUnits_eq (x : Binary f) : x.fractionUnits = x.units - x.whole * unitsPerOne := by
  rw [fractionUnits, units_trunc, whole]

theorem twoPow_rank_le_iff (x : Binary f) :
    (twoPow false 127 : Binary f).rank ≤ x.trunc.rank ↔ 2 ^ 127 ≤ x.whole := by
  have hpos := natCast_unitsPerOne_pos
  rw [← not_lt, ← units_lt_units_iff, not_lt, units_twoPow (by cases f <;> decide), units_trunc]
  push_cast
  exact mul_le_mul_iff_left₀ hpos

theorem rank_lt_twoPow_iff (x : Binary f) :
    x.trunc.rank < (twoPow true 127 : Binary f).rank ↔ x.whole < -2 ^ 127 := by
  have hpos := natCast_unitsPerOne_pos
  rw [← units_lt_units_iff, units_twoPow (by cases f <;> decide), units_trunc, if_pos rfl,
    Nat.cast_mul, ← Int.neg_mul]
  push_cast
  exact mul_lt_mul_iff_left₀ hpos

/-- A number has the sign of its place among the patterns. -/
theorem compare_zero_rank (x : Binary f) : compare 0 x.rank = compare 0 x.units := by
  have hzero := f.weight_strictMono.lt_iff_lt (a := 0) (b := x.magnitude)
  rw [f.weight_zero] at hzero
  rw [rank, units_eq]
  apply Outcome.compare_eq_compare <;> split <;> omega

/-- From `2 ^ 127` on to both sides, numbers of either format have no fraction. -/
theorem fractionUnits_of_le_whole {x : Binary f} (hx : 2 ^ 127 ≤ x.whole.natAbs) :
    x.fractionUnits = 0 := by
  have hp : 2 ^ f.fractionBits ≤ 2 ^ 127 := by cases f <;> decide
  rw [whole, Int.natAbs_tdiv, Int.natAbs_natCast] at hx
  have hle : 2 ^ 127 * unitsPerOne ≤ x.units.natAbs :=
    (Nat.le_div_iff_mul_le unitsPerOne_pos).1 hx
  rw [fractionUnits_eq_tmod]
  exact Int.tmod_eq_zero_of_dvd (unitsPerOne_dvd_units ((Nat.mul_le_mul_right _ hp).trans hle))

/-- Signed words hold the whole parts in their range, both ends of it included. -/
theorem toInt?_trunc_i128 {x : Binary f} (hx : x.isFinite = true) (hw : -2 ^ 127 ≤ x.whole)
    (hw' : x.whole < 2 ^ 127) : x.trunc.toInt? .i128 = some x.whole := by
  rw [toInt?_trunc hx, IntType.narrow?_of_mem]
  rw [IntType.i128_min, IntType.i128_max]
  omega

/-- Unsigned words hold them up to the end of their range. -/
theorem toInt?_trunc_u128 {x : Binary f} (hx : x.isFinite = true) (hw : 2 ^ 127 ≤ x.whole) :
    x.trunc.toInt? .u128 = if x.whole ≤ IntType.u128.max then some x.whole else none := by
  have hmin : IntType.u128.min ≤ x.whole := by
    rw [IntType.u128_min]
    omega
  rw [toInt?_trunc hx]
  exact if_congr (and_iff_right hmin) rfl rfl

theorem wholePart_eq {x : Binary f} (hx : x.isFinite = true) (hw : -2 ^ 127 ≤ x.whole)
    (hw' : x.whole < 2 ^ 127) : x.wholePart = x.whole := by
  rw [wholePart, toInt?_trunc_i128 hx hw hw', Option.getD_some]

end Binary

variable {s t : IntType} {f g : FloatFormat}

/-- From `2 ^ 127` on both sides are read as unsigned words, or one of them is no such word. -/
theorem compareIntegerFloat_of_large (a : Word t) {x : Binary f} (hx : x.isFinite = true)
    (hw : 2 ^ 127 ≤ x.whole) :
    compareIntegerFloat a x = .ofOrdering (compare a.toInt x.whole) := by
  obtain ⟨hn, hi⟩ := Binary.isFinite_iff.1 hx
  have ha := a.bounds.2
  rw [compareIntegerFloat, if_neg hn, if_neg hi]
  dsimp only
  rw [if_pos (x.twoPow_rank_le_iff.2 hw), Binary.toInt?_trunc_u128 hx hw]
  by_cases h0 : 0 ≤ a.toInt
  · rw [IntType.narrow?_of_mem ⟨h0, ha⟩]
    split_ifs with hmax
    · rfl
    · have hlt : compare a.toInt x.whole = .lt := compare_lt_iff_lt.2 (by omega)
      rw [hlt]
      rfl
  · have hlt : compare a.toInt x.whole = .lt := compare_lt_iff_lt.2 (by omega)
    rw [IntType.narrow?_of_not_mem (fun h => h0 h.1), hlt]
    rfl

theorem compareIntegerFloat_of_small (a : Word t) {x : Binary f} (hx : x.isFinite = true)
    (hw : x.whole < -2 ^ 127) : compareIntegerFloat a x = .greater := by
  obtain ⟨hn, hi⟩ := Binary.isFinite_iff.1 hx
  have hlarge : ¬(Binary.twoPow false 127 : Binary f).rank ≤ x.trunc.rank := by
    rw [x.twoPow_rank_le_iff]
    omega
  rw [compareIntegerFloat, if_neg hn, if_neg hi]
  dsimp only
  rw [if_neg hlarge, if_pos (x.rank_lt_twoPow_iff.2 hw)]

/-- In the range of signed words the whole parts decide, then the fraction. -/
theorem compareIntegerFloat_of_mem (a : Word t) {x : Binary f} (hx : x.isFinite = true)
    (hw : -2 ^ 127 ≤ x.whole) (hw' : x.whole < 2 ^ 127) :
    compareIntegerFloat a x =
      (Outcome.ofOrdering (compare a.toInt x.whole)).andThenWith fun _ =>
        .ofOrdering (compare 0 x.fractionUnits) := by
  obtain ⟨hn, hi⟩ := Binary.isFinite_iff.1 hx
  have ha := a.bounds.1
  have hlarge : ¬(Binary.twoPow false 127 : Binary f).rank ≤ x.trunc.rank := by
    rw [x.twoPow_rank_le_iff]
    omega
  have hsmall : ¬x.trunc.rank < (Binary.twoPow true 127 : Binary f).rank := by
    rw [x.rank_lt_twoPow_iff]
    omega
  rw [compareIntegerFloat, if_neg hn, if_neg hi]
  dsimp only
  rw [if_neg hlarge, if_neg hsmall, Binary.wholePart_eq hx hw hw', x.fract.compare_zero_rank,
    (Binary.fract_exact hx).2]
  by_cases hmax : a.toInt ≤ IntType.i128.max
  · rw [IntType.narrow?_of_mem ⟨ha, hmax⟩]
  · rw [IntType.narrow?_of_not_mem (fun h => hmax h.2)]
    rw [IntType.i128_max] at hmax
    have hgt : compare a.toInt x.whole = .gt := compare_gt_iff_gt.2 (by omega)
    rw [hgt]
    rfl

theorem compareIntegerFloat_of_isFinite (a : Word t) {x : Binary f} (hx : x.isFinite = true) :
    compareIntegerFloat a x = .ofOrdering (compare (a.toInt * unitsPerOne) x.units) := by
  have ha := a.bounds.1
  rw [IntType.i128_min] at ha
  have hsplit := compare_mul_unitsPerOne a.toInt x.units
  rw [← Binary.whole, ← Binary.fractionUnits_eq] at hsplit
  rw [hsplit, Outcome.ofOrdering_then]
  rcases lt_or_ge x.whole (-2 ^ 127) with hsmall | hsmall
  · have hgt : compare a.toInt x.whole = .gt := compare_gt_iff_gt.2 (by omega)
    rw [compareIntegerFloat_of_small a hx hsmall, hgt]
    rfl
  rcases lt_or_ge x.whole (2 ^ 127) with hlarge | hlarge
  · exact compareIntegerFloat_of_mem a hx hsmall hlarge
  · -- nothing is left after the whole part
    rw [compareIntegerFloat_of_large a hx hlarge, Binary.fractionUnits_of_le_whole (by omega)]
    cases compare a.toInt x.whole <;> rfl

theorem compareIntegerFloat_eq (a : Word t) (x : Binary f) :
    compareIntegerFloat a x = .between (some a.value) x.value? := by
  rw [Binary.value?]
  split_ifs with hn hi hneg
  · rw [compareIntegerFloat, if_pos hn]
    rfl
  · have hgt : compare a.value ⊥ = .gt := compare_gt_iff_gt.2 (EReal.bot_lt_coe _)
    rw [compareIntegerFloat, if_neg hn, if_pos hi, if_pos hneg, Outcome.between_some, hgt]
    rfl
  · have hlt : compare a.value ⊤ = .lt := compare_lt_iff_lt.2 (EReal.coe_lt_top _)
    rw [compareIntegerFloat, if_neg hn, if_pos hi, if_neg hneg, Outcome.between_some, hlt]
    rfl
  · have hx : x.isFinite = true := Binary.isFinite_iff.2 ⟨hn, hi⟩
    rw [compareIntegerFloat_of_isFinite a hx, Outcome.between_some, Word.value_eq, Binary.toReal_eq,
      ← ofUnits, compare_ofUnits]

theorem compareFloats_eq (x : Binary f) (y : Binary g) :
    compareFloats x y = .between x.value? y.value? := by
  rw [compareFloats, Binary.ofPartial_order?, Binary.value?_toBinary64, Binary.value?_toBinary64]

namespace NumType

/-- The mathematical value of a number, which NaNs do not have. -/
noncomputable def value? : (t : NumType) → t.Val → Option EReal
  | int _, a => some a.value
  | float _, x => x.value?

/-- The exact comparison of two numbers of any types is that of their values. -/
theorem compare_eq (s t : NumType) (a : s.Val) (b : t.Val) :
    compare s t a b = .between (s.value? a) (t.value? b) := by
  cases s with
  | int s =>
    cases t with
    | int t =>
      have hu := natCast_unitsPerOne_pos
      rw [compare, compareIntegers_eq, value?, value?, Outcome.between_some, Word.value_eq,
        Word.value_eq, compare_ofUnits]
      exact congrArg _ (Outcome.compare_eq_compare (mul_lt_mul_iff_left₀ hu)
        (mul_lt_mul_iff_left₀ hu)).symm
    | float g => exact compareIntegerFloat_eq a b
  | float f =>
    cases t with
    | int t =>
      rw [compare, compareIntegerFloat_eq, Outcome.flip_between]
      rfl
    | float g => exact compareFloats_eq a b

theorem ofPartial_order {s t : NumType} {o : s.Val → t.Val → Option Ordering}
    (ho : order s t = some o) (a : s.Val) (b : t.Val) : .ofPartial (o a b) = compare s t a b := by
  cases s with
  | int s =>
    cases t with
    | int t =>
      rw [order] at ho
      split_ifs at ho
      cases ho
      exact (compareIntegers_eq a b).symm
    | float g => cases ho
  | float f =>
    cases t with
    | int t => cases f <;> cases ho
    | float g =>
      rw [compare_eq]
      cases f <;> cases g <;> cases ho <;> exact Binary.ofPartial_order? a b

theorem same_eq {s t : NumType} {e : s.Val → t.Val → Bool} (he : same s t = some e) (a : s.Val)
    (b : t.Val) : e a b = (compare s t a b).isEq := by
  cases s with
  | int s =>
    cases t with
    | int t =>
      rw [same] at he
      split_ifs at he
      cases he
      rw [compare, compareIntegers_eq, Outcome.isEq_ofOrdering, Bool.eq_iff_iff, beq_iff_eq,
        beq_iff_eq, compare_eq_iff_eq]
    | float g => cases he
  | float f =>
    cases t with
    | int t => cases f <;> cases he
    | float g =>
      rw [compare_eq]
      cases f <;> cases g <;> cases he <;> rw [Binary.same_eq, Binary.ofPartial_order?] <;> rfl

end NumType
end Collate
