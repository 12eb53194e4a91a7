import Mathlib.Data.EReal.Basic
import Mathlib.Tactic.FieldSimp
import Collate.Number.Basic
import Collate.Proofs.Number.Widening
import Collate.Proofs.Outcome

namespace Collate

theorem real_unitsPerOne_pos : (0 : ℝ) < unitsPerOne := Nat.cast_pos.2 unitsPerOne_pos

/-- The point of the extended real line that lies `n` units from zero. -/
noncomputable def ofUnits (n : Int) : EReal := ((n / unitsPerOne : ℝ) : EReal)

theorem ofUnits_lt_ofUnits_iff {m n : Int} : ofUnits m < ofUnits n ↔ m < n := by
  rw [ofUnits, ofUnits, EReal.coe_lt_coe_iff, div_lt_div_iff_of_pos_right real_unitsPerOne_pos,
    Int.cast_lt]

theorem compare_ofUnits (m n : Int) : compare (ofUnits m) (ofUnits n) = compare m n :=
  Outcome.compare_eq_compare ofUnits_lt_ofUnits_iff ofUnits_lt_ofUnits_iff

/-- The mathematical value of an integer. -/
noncomputable def Word.value {t : IntType} (a : Word t) : EReal := ((a.toInt : ℝ) : EReal)

theorem Word.value_eq {t : IntType} (a : Word t) : a.value = ofUnits (a.toInt * unitsPerOne) := by
  rw [Word.value, ofUnits, Int.cast_mul, Int.cast_natCast,
    mul_div_cancel_right₀ _ real_unitsPerOne_pos.ne']

namespace Binary

variable {f : FloatFormat}

/-- The real number that a finite pattern stands for, by its sign, exponent field and fraction. An
exponent field of zero takes the exponent of the field one, and no hidden bit. -/
noncomputable def toReal (x : Binary f) : ℝ :=
  (if x.isNegative then -1 else 1) *
    if x.exponent = 0 then x.fraction / 2 ^ f.fractionBits * (2 : ℝ) ^ (1 - f.bias : ℤ)
    else (1 + x.fraction / 2 ^ f.fractionBits) * (2 : ℝ) ^ (x.exponent - f.bias : ℤ)

/-- The mathematical value of a floating-point number. The infinities are the ends of the line, and
NaNs are nowhere on it. -/
noncomputable def value? (x : Binary f) : Option EReal :=
  if x.isNaN then none
  else if x.isInfinite then some (if x.isNegative then ⊥ else ⊤)
  else some x.toReal

theorem toReal_eq (x : Binary f) : x.toReal = x.units / unitsPerOne := by
  obtain ⟨b, hb⟩ : ∃ b, f.bias = b + 1 := Nat.exists_eq_succ_of_ne_zero f.bias_pos.ne'
  have hu : (unitsPerOne : ℝ) = 2 ^ b * 2 ^ f.fractionBits * 2 ^ f.scale := by
    rw [f.unitsPerOne_eq, hb, ← pow_add, ← pow_add]
    push_cast
    congr 1
    omega
  have hn : (x.units : ℝ) = (if x.isNegative then -1 else 1) *
      ((x.significand : ℝ) * 2 ^ (x.exponent - 1) * 2 ^ f.scale) := by
    rw [units, Nat.shiftLeft_eq, pow_add]
    split_ifs <;> push_cast <;> ring
  rw [toReal, hn, hu, mul_div_assoc]
  congr 1
  rw [significand, Nat.one_shiftLeft]
  split_ifs with he
  · rw [he, hb]
    push_cast
    rw [sub_add_cancel_right, zpow_neg, zpow_natCast]
    field_simp
  · obtain ⟨e, he'⟩ := Nat.exists_eq_succ_of_ne_zero he
    rw [he', hb, Nat.succ_sub_one]
    push_cast
    rw [add_sub_add_right_eq_sub, zpow_sub₀ two_ne_zero, zpow_natCast, zpow_natCast]
    field_simp

theorem value?_of_isNaN {x : Binary f} (hx : x.isNaN = true) : x.value? = none := by
  rw [value?, if_pos hx]

/-- A number that is no NaN is one of the ends of the line or lies between them, and so does its
place among the patterns. -/
theorem value?_cases {x : Binary f} (hx : x.isNaN = false) :
    x.value? = some ⊥ ∧ x.rank = -f.infinity ∨
      x.value? = some (ofUnits x.units) ∧ -f.infinity < x.rank ∧ x.rank < f.infinity ∨
      x.value? = some ⊤ ∧ x.rank = f.infinity := by
  have hm : x.magnitude ≤ f.infinity := by simpa [isNaN] using hx
  rw [value?, if_neg (by simp [hx]), rank]
  by_cases hi : x.isInfinite = true
  · have he : x.magnitude = f.infinity := by simpa [isInfinite] using hi
    rw [if_pos hi, he]
    cases x.isNegative
    · exact .inr (.inr ⟨rfl, rfl⟩)
    · exact .inl ⟨rfl, rfl⟩
  · have hne : x.magnitude ≠ f.infinity := by simpa [isInfinite] using hi
    rw [if_neg hi, toReal_eq]
    refine .inr (.inl ⟨rfl, ?_, ?_⟩) <;> split <;> omega

theorem lt_iff_rank_lt {x y : Binary f} (hx : x.isNaN = false) (hy : y.isNaN = false)
    {u v : EReal} (hu : x.value? = some u) (hv : y.value? = some v) :
    u < v ↔ x.rank < y.rank := by
  have hb (n : Int) : ⊥ < ofUnits n := EReal.bot_lt_coe _
  have ht (n : Int) : ofUnits n < ⊤ := EReal.coe_lt_top _
  have hp := f.infinity_pos
  rcases value?_cases hx with ⟨h, hr⟩ | ⟨h, hr⟩ | ⟨h, hr⟩ <;>
    rcases value?_cases hy with ⟨k, hs⟩ | ⟨k, hs⟩ | ⟨k, hs⟩ <;>
    cases h.symm.trans hu <;> cases k.symm.trans hv
  · simp [hr, hs]
  · simpa only [hb, true_iff, hr] using hs.1
  · simp only [bot_lt_top, true_iff, hr, hs]
    omega
  · simpa only [not_lt_bot, false_iff, not_lt, hs] using hr.1.le
  · rw [ofUnits_lt_ofUnits_iff, units_lt_units_iff]
  · simpa only [ht, true_iff, hs] using hr.2
  · simp only [not_top_lt, false_iff, not_lt, hr, hs]
    omega
  · simpa only [not_top_lt, false_iff, not_lt, hr] using hs.2.le
  · simp [hr, hs]

/-- In one format the numeric order is the order of the values. -/
theorem ofPartial_order? (x y : Binary f) :
    Outcome.ofPartial (x.order? y) = Outcome.between x.value? y.value? := by
  rw [order?]
  by_cases hx : x.isNaN = true
  · rw [value?_of_isNaN hx, hx]
    rfl
  by_cases hy : y.isNaN = true
  · rw [value?_of_isNaN hy, hy, Bool.or_true, Outcome.between_none_right]
    rfl
  rw [Bool.not_eq_true] at hx hy
  obtain ⟨u, hu⟩ : ∃ u, x.value? = some u := by
    rcases value?_cases hx with h | h | h <;> exact ⟨_, h.1⟩
  obtain ⟨v, hv⟩ : ∃ v, y.value? = some v := by
    rcases value?_cases hy with h | h | h <;> exact ⟨_, h.1⟩
  rw [hx, hy, hu, hv, Outcome.between_some,
    Outcome.compare_eq_compare (lt_iff_rank_lt hx hy hu hv) (lt_iff_rank_lt hy hx hv hu)]
  rfl

theorem same_eq (x y : Binary f) : x.same y = (Outcome.ofPartial (x.order? y)).isEq := by
  rw [same, order?]
  cases x.isNaN <;> cases y.isNaN <;> try rfl
  simp only [Bool.not_false, Bool.true_and, Bool.or_false, Bool.false_eq_true, if_false,
    Outcome.ofPartial, Outcome.isEq_ofOrdering]
  rw [Bool.eq_iff_iff, beq_iff_eq, beq_iff_eq, compare_eq_iff_eq]

theorem value?_widen (x : Binary .binary32) : x.widen.value? = x.value? := by
  rw [value?, value?, isNaN_widen, isInfinite_widen, isNegative_widen]
  split_ifs with hn hi <;> try rfl
  rw [toReal_eq, toReal_eq, units_widen (isFinite_iff.2 ⟨hn, hi⟩)]

theorem value?_toBinary64 (x : Binary f) : x.toBinary64.value? = x.value? := by
  cases f
  · exact value?_widen x
  · rfl

end Binary
end Collate
