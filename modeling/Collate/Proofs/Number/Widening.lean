import Collate.Proofs.Number.Units

namespace Collate.Binary

/-- The wide pattern of a narrow one, without the sign. -/
def widePattern (m : Nat) : Nat :=
  if m = 0 then 0
  else if m / 2 ^ 23 = 0 then (m.log2 + 874) * 2 ^ 52 + (m - 2 ^ m.log2) * 2 ^ (52 - m.log2)
  else if m / 2 ^ 23 = 255 then 2047 * 2 ^ 52 + m % 2 ^ 23 * 2 ^ 29
  else (m / 2 ^ 23 + 896) * 2 ^ 52 + m % 2 ^ 23 * 2 ^ 29

theorem widen_eq (x : Binary .binary32) :
    x.widen = ofMagnitude x.isNegative (widePattern x.magnitude) := by
  rw [widen, widePattern, exponent_eq, fraction_eq]
  simp only [Nat.shiftLeft_eq, Nat.one_mul]
  rfl

theorem weight_wide {e r : Nat} (he : e ≠ 0) (hr : r < 2 ^ 52) :
    FloatFormat.binary64.weight (e * 2 ^ 52 + r) = (2 ^ 52 + r) * 2 ^ (e - 1) := by
  have h := FloatFormat.binary64.weight_fields e hr
  rw [if_neg he] at h
  exact h

theorem weight_narrow {e r : Nat} (hr : r < 2 ^ 23) :
    FloatFormat.binary32.weight (e * 2 ^ 23 + r) =
      (if e = 0 then r else 2 ^ 23 + r) * 2 ^ (e - 1 + FloatFormat.binary32.scale) :=
  FloatFormat.binary32.weight_fields e hr

/-- A subnormal number moves its leading bit, the bit `k`, up to the place of the hidden one. -/
theorem widePattern_subnormal {m : Nat} (h0 : m ≠ 0) (hm : m < 2 ^ 23) :
    widePattern m < 2047 * 2 ^ 52 ∧
      FloatFormat.binary64.weight (widePattern m) = FloatFormat.binary32.weight m := by
  obtain ⟨k, hk⟩ : ∃ k, m.log2 = k := ⟨_, rfl⟩
  have hle : 2 ^ k ≤ m := hk ▸ Nat.log2_self_le h0
  have hlt : m < 2 ^ (k + 1) := hk ▸ Nat.lt_log2_self
  have hk23 : k < 23 := (Nat.pow_lt_pow_iff_right (by decide)).1 (hle.trans_lt hm)
  have hp : 2 ^ k * 2 ^ (52 - k) = 2 ^ 52 := by rw [← Nat.pow_add, Nat.add_sub_cancel' (by omega)]
  have hr : (m - 2 ^ k) * 2 ^ (52 - k) < 2 ^ 52 := by
    rw [← hp]
    exact Nat.mul_lt_mul_of_pos_right (by rw [Nat.pow_succ] at hlt; omega) (Nat.two_pow_pos _)
  have hsum : 2 ^ 52 + (m - 2 ^ k) * 2 ^ (52 - k) = m * 2 ^ (52 - k) := by
    rw [← hp, ← Nat.add_mul, Nat.add_sub_cancel' hle]
  have hn := weight_narrow (e := 0) hm
  rw [Nat.zero_mul, Nat.zero_add, if_pos rfl] at hn
  rw [widePattern, if_neg h0, Nat.div_eq_of_lt hm, if_pos rfl, hk]
  constructor
  · exact FloatFormat.fields_lt (by omega) hr
  · have hexp : 52 - k + (k + 874 - 1) = 0 - 1 + FloatFormat.binary32.scale := by
      change _ = 0 - 1 + 925
      omega
    rw [weight_wide (by omega) hr, hsum, hn, Nat.mul_assoc, ← Nat.pow_add, hexp]

theorem widePattern_fields {e r : Nat} (he : e ≠ 0) (hr : r < 2 ^ 23) :
    widePattern (e * 2 ^ 23 + r) =
      (if e = 255 then 2047 else e + 896) * 2 ^ 52 + r * 2 ^ 29 := by
  rw [widePattern, if_neg (by omega), FloatFormat.fields_div hr, FloatFormat.fields_mod hr,
    if_neg he]
  split_ifs <;> rfl

/-- Finite numbers keep what they weigh. -/
theorem weight_widePattern {m : Nat} (hm : m < FloatFormat.binary32.infinity) :
    widePattern m < FloatFormat.binary64.infinity ∧
      FloatFormat.binary64.weight (widePattern m) = FloatFormat.binary32.weight m := by
  rw [FloatFormat.infinity_eq] at hm ⊢
  change m < 255 * 2 ^ 23 at hm
  change widePattern m < 2047 * 2 ^ 52 ∧ _
  by_cases h0 : m = 0
  · rw [h0, FloatFormat.weight_zero]
    exact ⟨by decide, FloatFormat.weight_zero _⟩
  by_cases hs : m < 2 ^ 23
  · exact widePattern_subnormal h0 hs
  · obtain ⟨e, r, hr, rfl⟩ := FloatFormat.binary32.exists_fields m
    change r < 2 ^ 23 at hr
    change e * 2 ^ 23 + r < _ at hm
    change ¬ e * 2 ^ 23 + r < _ at hs
    change widePattern (e * 2 ^ 23 + r) < _ ∧
      FloatFormat.binary64.weight (widePattern (e * 2 ^ 23 + r)) =
        FloatFormat.binary32.weight (e * 2 ^ 23 + r)
    have he : e ≠ 0 := by omega
    have he' : e ≠ 255 := by omega
    have hr' : r * 2 ^ 29 < 2 ^ 52 :=
      (Nat.mul_lt_mul_of_pos_right hr (by decide) : r * 2 ^ 29 < 2 ^ 23 * 2 ^ 29)
    have hsum : 2 ^ 52 + r * 2 ^ 29 = (2 ^ 23 + r) * 2 ^ 29 := by ring
    have hexp : 29 + (e + 896 - 1) = e - 1 + FloatFormat.binary32.scale := by
      change _ = e - 1 + 925
      omega
    rw [widePattern_fields he hr, if_neg he']
    constructor
    · exact FloatFormat.fields_lt (by omega) hr'
    · rw [weight_wide (by omega) hr', weight_narrow hr, if_neg he, hsum, Nat.mul_assoc,
        ← Nat.pow_add, hexp]

/-- Infinities and NaNs stay what they are, NaNs with their payload. -/
theorem widePattern_of_infinity_le {m : Nat} (hm : FloatFormat.binary32.infinity ≤ m)
    (hlt : m < 2 ^ 31) :
    widePattern m =
      FloatFormat.binary64.infinity + (m - FloatFormat.binary32.infinity) * 2 ^ 29 := by
  rw [FloatFormat.infinity_eq] at hm
  change 255 * 2 ^ 23 ≤ m at hm
  rw [FloatFormat.infinity_eq, FloatFormat.infinity_eq]
  change _ = 2047 * 2 ^ 52 + (m - 255 * 2 ^ 23) * 2 ^ 29
  have h := widePattern_fields (e := 255) (r := m - 255 * 2 ^ 23) (by decide) (by omega)
  rw [if_pos rfl, Nat.add_sub_cancel' hm] at h
  exact h

theorem widePattern_lt {m : Nat} (hm : m < 2 ^ 31) : widePattern m < 2 ^ 63 := by
  rcases Nat.lt_or_ge m FloatFormat.binary32.infinity with h | h
  · exact (weight_widePattern h).1.trans FloatFormat.binary64.infinity_lt
  · rw [widePattern_of_infinity_le h hm, FloatFormat.infinity_eq, FloatFormat.infinity_eq]
    change 2047 * 2 ^ 52 + (m - 255 * 2 ^ 23) * 2 ^ 29 < _
    omega

variable (x : Binary .binary32)

@[simp] theorem magnitude_widen : x.widen.magnitude = widePattern x.magnitude := by
  rw [widen_eq]
  exact magnitude_ofMagnitude (widePattern_lt x.magnitude_lt)

@[simp] theorem isNegative_widen : x.widen.isNegative = x.isNegative := by
  rw [widen_eq]
  exact isNegative_ofMagnitude (widePattern_lt x.magnitude_lt)

theorem infinity_lt_widePattern_iff {m : Nat} (hm : m < 2 ^ 31) :
    FloatFormat.binary64.infinity < widePattern m ↔ FloatFormat.binary32.infinity < m := by
  rcases Nat.lt_or_ge m FloatFormat.binary32.infinity with h | h
  · have hw := (weight_widePattern h).1
    omega
  · rw [widePattern_of_infinity_le h hm]
    omega

theorem widePattern_eq_infinity_iff {m : Nat} (hm : m < 2 ^ 31) :
    widePattern m = FloatFormat.binary64.infinity ↔ m = FloatFormat.binary32.infinity := by
  rcases Nat.lt_or_ge m FloatFormat.binary32.infinity with h | h
  · have hw := (weight_widePattern h).1
    omega
  · rw [widePattern_of_infinity_le h hm]
    omega

@[simp] theorem isNaN_widen : x.widen.isNaN = x.isNaN := by
  rw [isNaN, isNaN, magnitude_widen, decide_eq_decide]
  exact infinity_lt_widePattern_iff x.magnitude_lt

@[simp] theorem isInfinite_widen : x.widen.isInfinite = x.isInfinite := by
  rw [isInfinite, isInfinite, magnitude_widen, Bool.eq_iff_iff, beq_iff_eq, beq_iff_eq]
  exact widePattern_eq_infinity_iff x.magnitude_lt

/-- The wide format holds every finite number of the narrow one. -/
theorem units_widen {x : Binary .binary32} (hx : x.isFinite = true) : x.widen.units = x.units := by
  have h := (weight_widePattern (of_decide_eq_true hx)).2
  rw [units_eq, units_eq, isNegative_widen, magnitude_widen, h]

end Collate.Binary
