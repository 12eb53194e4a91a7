import Collate.Proofs.Number.Units

namespace Collate

namespace FloatFormat

/-- A pattern with the bits cleared that weigh less than one. -/
def wholePattern (f : FloatFormat) (m : Nat) : Nat :=
  if m / 2 ^ f.fractionBits < f.bias then 0
  else
    m / 2 ^ (f.bias + f.fractionBits - m / 2 ^ f.fractionBits) *
      2 ^ (f.bias + f.fractionBits - m / 2 ^ f.fractionBits)

theorem wholePattern_le (f : FloatFormat) (m : Nat) : f.wholePattern m ≤ m := by
  unfold wholePattern
  split_ifs
  · exact Nat.zero_le m
  · exact Nat.div_mul_le_self ..

theorem weight_lt_two_pow (f : FloatFormat) (e : Nat) {r n : Nat} (hr : r < 2 ^ f.fractionBits)
    (hn : f.fractionBits + e + f.scale ≤ n) :
    f.weight (e * 2 ^ f.fractionBits + r) < 2 ^ n := by
  rw [f.weight_fields e hr]
  have hp : 2 ^ (f.fractionBits + e + f.scale) ≤ 2 ^ n := Nat.pow_le_pow_right (by decide) hn
  refine Nat.lt_of_lt_of_le ?_ hp
  split_ifs with he
  · rw [he, Nat.add_zero, Nat.zero_sub, Nat.zero_add, Nat.pow_add]
    exact Nat.mul_lt_mul_of_pos_right hr (Nat.two_pow_pos _)
  · have hs : f.fractionBits + e + f.scale = f.fractionBits + 1 + (e - 1 + f.scale) := by omega
    rw [hs, Nat.pow_add 2 (f.fractionBits + 1), Nat.pow_succ]
    exact Nat.mul_lt_mul_of_pos_right (by omega) (Nat.two_pow_pos _)

theorem weight_lt_unitsPerOne (f : FloatFormat) {e r : Nat} (hr : r < 2 ^ f.fractionBits)
    (he : e < f.bias) : f.weight (e * 2 ^ f.fractionBits + r) < unitsPerOne := by
  rw [f.unitsPerOne_eq]
  exact f.weight_lt_two_pow e hr (by omega)

/-- From the exponent field `bias + fractionBits` on there is no fraction left. -/
theorem unitsPerOne_dvd_weight_fields (f : FloatFormat) {e r : Nat}
    (hr : r < 2 ^ f.fractionBits) (he : f.bias + f.fractionBits ≤ e) :
    unitsPerOne ∣ f.weight (e * 2 ^ f.fractionBits + r) := by
  rw [f.weight_fields e hr, f.unitsPerOne_eq]
  exact Dvd.dvd.mul_left (Nat.pow_dvd_pow 2 (by omega)) _

theorem unitsPerOne_dvd_weight (f : FloatFormat) {m : Nat}
    (hm : 2 ^ f.fractionBits * unitsPerOne ≤ f.weight m) : unitsPerOne ∣ f.weight m := by
  obtain ⟨e, r, hr, rfl⟩ := f.exists_fields m
  apply f.unitsPerOne_dvd_weight_fields hr
  by_contra he
  rw [f.unitsPerOne_eq, ← Nat.pow_add] at hm
  exact hm.not_gt (f.weight_lt_two_pow e hr (by omega))

/-- Clearing the low bits of a pattern takes away what it weighs beyond a whole number of ones. -/
theorem weight_wholePattern (f : FloatFormat) (m : Nat) :
    f.weight (f.wholePattern m) = f.weight m / unitsPerOne * unitsPerOne := by
  obtain ⟨e, r, hr, rfl⟩ := f.exists_fields m
  rw [wholePattern, fields_div hr]
  split_ifs with hb
  · rw [f.weight_zero, Nat.div_eq_of_lt (f.weight_lt_unitsPerOne hr hb), Nat.zero_mul]
  by_cases hl : f.bias + f.fractionBits ≤ e
  · rw [Nat.sub_eq_zero_of_le hl, Nat.pow_zero, Nat.div_one, Nat.mul_one,
      Nat.div_mul_cancel (f.unitsPerOne_dvd_weight_fields hr hl)]
  · -- some bits of the fraction weigh less than one, `low` of them
    obtain ⟨low, hlow⟩ : ∃ low, f.bias + f.fractionBits - e = low := ⟨_, rfl⟩
    have hbias := f.bias_pos
    have hk : 2 ^ f.fractionBits = 2 ^ (f.fractionBits - low) * 2 ^ low := by
      rw [← Nat.pow_add, show f.fractionBits - low + low = f.fractionBits by omega]
    have hfields : (e * 2 ^ f.fractionBits + r) / 2 ^ low * 2 ^ low =
        e * 2 ^ f.fractionBits + r / 2 ^ low * 2 ^ low := by
      rw [hk, ← Nat.mul_assoc, Nat.mul_comm (e * _), Nat.mul_add_div (Nat.two_pow_pos _)]
      ring
    have hfraction : (2 ^ f.fractionBits + r) / 2 ^ low * 2 ^ low =
        2 ^ f.fractionBits + r / 2 ^ low * 2 ^ low := by
      rw [hk, Nat.mul_comm (2 ^ (f.fractionBits - low)), Nat.mul_add_div (Nat.two_pow_pos _)]
      ring
    have hunits : unitsPerOne = 2 ^ low * 2 ^ (e - 1 + f.scale) := by
      rw [f.unitsPerOne_eq, ← Nat.pow_add]
      congr 1
      omega
    have hle : r / 2 ^ low * 2 ^ low < 2 ^ f.fractionBits :=
      Nat.lt_of_le_of_lt (Nat.div_mul_le_self ..) hr
    have he : e ≠ 0 := by omega
    rw [hlow, hfields, f.weight_fields e hle, f.weight_fields e hr, if_neg he, if_neg he, hunits,
      Nat.mul_div_mul_right _ _ (Nat.two_pow_pos _), ← Nat.mul_assoc, hfraction]

end FloatFormat

namespace Binary

variable {f : FloatFormat}

theorem trunc_eq (x : Binary f) :
    x.trunc = ofMagnitude x.isNegative (f.wholePattern x.magnitude) := by
  rw [trunc, FloatFormat.wholePattern, exponent_eq]
  split_ifs
  · rfl
  · dsimp only
    rw [Nat.shiftLeft_eq, Nat.shiftRight_eq_div_pow]

theorem magnitude_trunc (x : Binary f) : x.trunc.magnitude = f.wholePattern x.magnitude := by
  rw [trunc_eq, magnitude_ofMagnitude ((f.wholePattern_le _).trans_lt x.magnitude_lt)]

theorem isNegative_trunc (x : Binary f) : x.trunc.isNegative = x.isNegative := by
  rw [trunc_eq, isNegative_ofMagnitude ((f.wholePattern_le _).trans_lt x.magnitude_lt)]

theorem isFinite_trunc {x : Binary f} (hx : x.isFinite = true) : x.trunc.isFinite = true := by
  simp only [isFinite, decide_eq_true_eq, magnitude_trunc] at hx ⊢
  exact (f.wholePattern_le _).trans_lt hx

/-- The integral part of a number, toward zero, in whole ones. -/
theorem units_trunc (x : Binary f) :
    x.trunc.units = x.units.tdiv unitsPerOne * unitsPerOne := by
  rw [units_eq, units_eq, isNegative_trunc, magnitude_trunc, f.weight_wholePattern]
  split_ifs
  · rw [Int.neg_tdiv, ← Int.ofNat_tdiv]
    push_cast
    ring
  · rw [← Int.ofNat_tdiv]
    push_cast
    ring

/-- A number that is large against the precision of its format is whole. -/
theorem unitsPerOne_dvd_units {x : Binary f}
    (hx : 2 ^ f.fractionBits * unitsPerOne ≤ x.units.natAbs) : (unitsPerOne : Int) ∣ x.units := by
  rw [natAbs_units] at hx
  rw [Int.natCast_dvd, natAbs_units]
  exact f.unitsPerOne_dvd_weight hx

/-- Powers of two within the range of a format are what their names say. -/
theorem units_twoPow {negative : Bool} {k : Nat} (hk : k ≤ f.bias) :
    (twoPow negative k : Binary f).units =
      if negative then -((2 ^ k * unitsPerOne : Nat) : Int) else (2 ^ k * unitsPerOne : Nat) := by
  have hlt : (f.bias + k) * 2 ^ f.fractionBits < 2 ^ (f.width - 1) := by
    refine Nat.lt_of_le_of_lt ?_ f.infinity_lt
    rw [f.infinity_eq, FloatFormat.maxExponent]
    exact Nat.mul_le_mul_right _ (by omega)
  have hb := f.bias_pos
  have hw : f.weight ((f.bias + k) * 2 ^ f.fractionBits) = 2 ^ k * unitsPerOne := by
    have h := f.weight_fields (f.bias + k) (Nat.two_pow_pos f.fractionBits)
    rw [Nat.add_zero, if_neg (by omega), Nat.add_zero, ← Nat.pow_add] at h
    rw [h, f.unitsPerOne_eq, ← Nat.pow_add]
    congr 1
    omega
  rw [twoPow, Nat.shiftLeft_eq, units_eq, isNegative_ofMagnitude hlt, magnitude_ofMagnitude hlt, hw]

end Binary
end Collate
