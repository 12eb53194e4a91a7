import Collate.Proofs.Number.Truncation

namespace Collate

namespace FloatFormat

theorem roundShift_of_dvd {n k : Nat} (h : 2 ^ k ∣ n) : roundShift n k = n / 2 ^ k := by
  have hrest : n % 1 <<< k = 0 := by
    rw [Nat.one_shiftLeft]
    exact Nat.mod_eq_zero_of_dvd h
  have hpos := Nat.two_pow_pos k
  rw [roundShift, hrest, Nat.one_shiftLeft, Nat.shiftRight_eq_div_pow, if_neg (by omega)]

theorem nearestPattern_le (f : FloatFormat) (n : Nat) : f.nearestPattern n ≤ f.infinity := by
  rw [nearestPattern]
  split_ifs with h
  · exact h.le
  · exact le_rfl

/-- A significand that keeps its hidden bit counts up the exponent field by that bit, and once more
where it has carried. -/
theorem weight_significand (f : FloatFormat) {e q : Nat} (hq : q ≤ 2 * 2 ^ f.fractionBits)
    (he : e = 0 ∨ 2 ^ f.fractionBits ≤ q) :
    f.weight (e * 2 ^ f.fractionBits + q) = q * 2 ^ (e + f.scale) := by
  rcases Nat.lt_or_ge q (2 ^ f.fractionBits) with h | h
  · have he0 : e = 0 := he.resolve_right (by omega)
    rw [f.weight_fields e h, if_pos he0, he0]
  obtain ⟨r, rfl⟩ := Nat.exists_eq_add_of_le h
  rcases Nat.lt_or_ge r (2 ^ f.fractionBits) with hr | hr
  · have hhidden : e * 2 ^ f.fractionBits + (2 ^ f.fractionBits + r) =
        (e + 1) * 2 ^ f.fractionBits + r := by ring
    rw [hhidden, f.weight_fields (e + 1) hr, if_neg (Nat.succ_ne_zero e), Nat.add_sub_cancel]
  · have hr' : r = 2 ^ f.fractionBits := by omega
    have hcarry : e * 2 ^ f.fractionBits + (2 ^ f.fractionBits + 2 ^ f.fractionBits) =
        (e + 2) * 2 ^ f.fractionBits + 0 := by ring
    have hexp : e + 2 - 1 + f.scale = e + f.scale + 1 := by omega
    rw [hr', hcarry, f.weight_fields (e + 2) (Nat.two_pow_pos _), if_neg (by omega), hexp]
    ring

theorem div_two_pow_lt (f : FloatFormat) (n : Nat) :
    n / 2 ^ (f.excess n + f.scale) < 2 * 2 ^ f.fractionBits := by
  rw [Nat.div_lt_iff_lt_mul (Nat.two_pow_pos _), ← Nat.pow_succ', ← Nat.pow_add]
  refine Nat.lt_log2_self.trans_le (Nat.pow_le_pow_right (by decide) ?_)
  unfold excess
  omega

theorem le_div_two_pow (f : FloatFormat) {n : Nat} (he : f.excess n ≠ 0) :
    2 ^ f.fractionBits ≤ n / 2 ^ (f.excess n + f.scale) := by
  have hlog : f.fractionBits + (f.excess n + f.scale) = n.log2 := by
    unfold excess at he ⊢
    omega
  have hn : n ≠ 0 := by
    rintro rfl
    exact he (by simp [excess])
  rw [Nat.le_div_iff_mul_le (Nat.two_pow_pos _), ← Nat.pow_add, hlog]
  exact Nat.log2_self_le hn

/-- The pattern that is left when the bits of `n` units beyond the precision are cut off. -/
def patternBelow (f : FloatFormat) (n : Nat) : Nat :=
  f.excess n * 2 ^ f.fractionBits + n / 2 ^ (f.excess n + f.scale)

theorem patternBelow_mod_two (f : FloatFormat) (n : Nat) :
    f.patternBelow n % 2 = n / 2 ^ (f.excess n + f.scale) % 2 := by
  have hbits : f.fractionBits ≠ 0 := by cases f <;> decide
  obtain ⟨b, hb⟩ := dvd_pow_self 2 hbits
  rw [patternBelow, hb, Nat.mul_left_comm, Nat.mul_add_mod]

/-- The numbers on both sides of `n` units are neighbouring multiples of the lowest bit kept. -/
theorem weight_patternBelow (f : FloatFormat) (n : Nat) :
    f.weight (f.patternBelow n) =
        n / 2 ^ (f.excess n + f.scale) * 2 ^ (f.excess n + f.scale) ∧
      f.weight (f.patternBelow n + 1) =
        (n / 2 ^ (f.excess n + f.scale) + 1) * 2 ^ (f.excess n + f.scale) := by
  have hlt := f.div_two_pow_lt n
  have hle : f.excess n = 0 ∨ 2 ^ f.fractionBits ≤ n / 2 ^ (f.excess n + f.scale) :=
    or_iff_not_imp_left.2 f.le_div_two_pow
  rw [patternBelow, Nat.add_assoc]
  exact ⟨f.weight_significand hlt.le hle,
    f.weight_significand hlt (hle.imp_right Nat.le_succ_of_le)⟩

/-- Rounding chooses the nearer neighbour, and the even one of two that are equally near. -/
theorem nearestPattern_cases (f : FloatFormat) {n : Nat} (hn : f.nearestPattern n < f.infinity) :
    ∃ m, f.weight m ≤ n ∧ n < f.weight (m + 1) ∧
      (f.nearestPattern n = m ∧
          (n - f.weight m < f.weight (m + 1) - n ∨
            n - f.weight m = f.weight (m + 1) - n ∧ m % 2 = 0) ∨
        f.nearestPattern n = m + 1 ∧
          (f.weight (m + 1) - n < n - f.weight m ∨
            f.weight (m + 1) - n = n - f.weight m ∧ (m + 1) % 2 = 0)) := by
  obtain ⟨hbelow, habove⟩ := f.weight_patternBelow n
  have hsplit := Nat.div_add_mod' n (2 ^ (f.excess n + f.scale))
  have hlt := Nat.mod_lt n (Nat.two_pow_pos (f.excess n + f.scale))
  have heven := f.patternBelow_mod_two n
  rw [Nat.succ_mul, ← hbelow] at habove
  rw [← hbelow] at hsplit
  rw [nearestPattern, roundShift, Nat.shiftLeft_eq, Nat.one_shiftLeft,
    Nat.shiftRight_eq_div_pow] at hn ⊢
  refine ⟨f.patternBelow n, by omega, by omega, ?_⟩
  -- rounded up or down, and each time within the numbers, since `hn` excludes infinity
  split_ifs at hn ⊢ with hup hlarge hlarge
  · right
    refine ⟨rfl, ?_⟩
    omega
  · exact absurd hn (lt_irrefl _)
  · left
    refine ⟨rfl, ?_⟩
    omega
  · exact absurd hn (lt_irrefl _)

/-- No pattern weighs nearer to `n` units than the one they are rounded to, and where another one
weighs as near, they are rounded to the even one. -/
theorem nearestPattern_nearest (f : FloatFormat) {n : Nat} (hn : f.nearestPattern n < f.infinity)
    (m : Nat) :
    ((n : Int) - f.weight (f.nearestPattern n)).natAbs ≤ ((n : Int) - f.weight m).natAbs ∧
      (((n : Int) - f.weight (f.nearestPattern n)).natAbs = ((n : Int) - f.weight m).natAbs →
        m = f.nearestPattern n ∨ f.nearestPattern n % 2 = 0) := by
  obtain ⟨k, hle, hlt, hchoice⟩ := f.nearestPattern_cases hn
  have hdown : m < k → f.weight m < f.weight k := fun h => f.weight_strictMono h
  have hup : k + 1 < m → f.weight (k + 1) < f.weight m := fun h => f.weight_strictMono h
  have hm : m < k ∨ m = k ∨ m = k + 1 ∨ k + 1 < m := by omega
  rcases hchoice with ⟨hk, hnear⟩ | ⟨hk, hnear⟩ <;> rw [hk] <;>
    rcases hm with h | rfl | rfl | h <;> omega

theorem nearestPattern_of_dvd (f : FloatFormat) {n : Nat} (h : 2 ^ (f.excess n + f.scale) ∣ n)
    (hn : n < f.weight f.infinity) :
    f.nearestPattern n < f.infinity ∧ f.weight (f.nearestPattern n) = n := by
  have hweight : f.weight (f.patternBelow n) = n := by
    rw [(f.weight_patternBelow n).1, Nat.div_mul_cancel h]
  have hfinite : f.patternBelow n < f.infinity := by
    rwa [← f.weight_strictMono.lt_iff_lt, hweight]
  have hnearest : f.nearestPattern n = f.patternBelow n := by
    rw [nearestPattern, roundShift_of_dvd h, Nat.shiftLeft_eq, ← patternBelow, if_pos hfinite]
  rw [hnearest]
  exact ⟨hfinite, hweight⟩

/-- The step from a pattern to the next one is `2 ^ step` units. -/
def step (f : FloatFormat) (m : Nat) : Nat := m / 2 ^ f.fractionBits - 1 + f.scale

theorem step_dvd_weight (f : FloatFormat) (m : Nat) : 2 ^ f.step m ∣ f.weight m :=
  Dvd.intro_left _ rfl

/-- A whole number of the steps at a finite pattern that weighs no more than the pattern is held by
the format, since smaller numbers lie no further apart. -/
theorem nearestPattern_of_step_dvd (f : FloatFormat) {m n : Nat} (hm : m < f.infinity)
    (hn : n ≤ f.weight m) (hd : 2 ^ f.step m ∣ n) :
    f.nearestPattern n < f.infinity ∧ f.weight (f.nearestPattern n) = n := by
  refine f.nearestPattern_of_dvd ?_ (hn.trans_lt (f.weight_strictMono hm))
  refine (Nat.pow_dvd_pow 2 ?_).trans hd
  by_cases h0 : n = 0
  · simp [h0, excess, step]
  obtain ⟨e, r, hr, rfl⟩ := f.exists_fields m
  have hlog : n.log2 < f.fractionBits + e + f.scale :=
    (Nat.log2_lt h0).2 (hn.trans_lt (f.weight_lt_two_pow e hr le_rfl))
  rw [excess, step, fields_div hr]
  omega

/-- What a finite pattern weighs beyond a whole number of ones is held by the format. -/
theorem nearestPattern_weight_mod (f : FloatFormat) {m : Nat} (hm : m < f.infinity) :
    f.nearestPattern (f.weight m % unitsPerOne) < f.infinity ∧
      f.weight (f.nearestPattern (f.weight m % unitsPerOne)) = f.weight m % unitsPerOne := by
  refine f.nearestPattern_of_step_dvd hm (Nat.mod_le ..) ?_
  have hstep := f.step_dvd_weight m
  rw [f.unitsPerOne_eq]
  rcases le_total (f.step m) (f.bias + f.fractionBits - 1 + f.scale) with h | h
  · exact (Nat.dvd_mod_iff (Nat.pow_dvd_pow 2 h)).2 hstep
  · -- the steps are whole numbers of ones
    rw [Nat.mod_eq_zero_of_dvd ((Nat.pow_dvd_pow 2 h).trans hstep)]
    exact Nat.dvd_zero _

end FloatFormat

namespace Binary

variable {f : FloatFormat}

theorem magnitude_nearest (n : Int) :
    (nearest n : Binary f).magnitude = f.nearestPattern n.natAbs :=
  magnitude_ofMagnitude ((f.nearestPattern_le _).trans_lt f.infinity_lt)

theorem units_nearest (n : Int) : (nearest n : Binary f).units =
    if n < 0 then -(f.weight (f.nearestPattern n.natAbs) : Int)
      else f.weight (f.nearestPattern n.natAbs) := by
  rw [units_eq, magnitude_nearest, nearest,
    isNegative_ofMagnitude ((f.nearestPattern_le _).trans_lt f.infinity_lt)]
  by_cases h : n < 0 <;> simp [h]

/-- No number of the format is nearer to `n` units than the one that they are rounded to. -/
theorem natAbs_sub_units_nearest_le {n : Int} (hn : (nearest n : Binary f).isFinite = true)
    (y : Binary f) :
    (n - (nearest n : Binary f).units).natAbs ≤ (n - y.units).natAbs := by
  rw [isFinite, magnitude_nearest, decide_eq_true_eq] at hn
  have hy := (f.nearestPattern_nearest hn y.magnitude).1
  have hzero := (f.nearestPattern_nearest hn 0).1
  rw [f.weight_zero] at hzero
  rw [units_nearest, units_eq]
  split_ifs <;> omega

theorem fractionUnits_eq_tmod (x : Binary f) : x.fractionUnits = x.units.tmod unitsPerOne := by
  have hsplit := Int.tdiv_mul_add_tmod x.units unitsPerOne
  rw [fractionUnits, units_trunc]
  omega

/-- What is left of a finite number after its integral part needs no rounding. -/
theorem fract_exact {x : Binary f} (hx : x.isFinite = true) :
    x.fract.isFinite = true ∧ x.fract.units = x.fractionUnits := by
  have habs : x.fractionUnits.natAbs = f.weight x.magnitude % unitsPerOne := by
    rw [fractionUnits_eq_tmod, Int.natAbs_tmod, natAbs_units, Int.natAbs_natCast]
  obtain ⟨hfinite, hweight⟩ := f.nearestPattern_weight_mod (of_decide_eq_true hx)
  rw [← habs] at hfinite hweight
  rw [isFinite, fract, magnitude_nearest, units_nearest, hweight]
  refine ⟨decide_eq_true hfinite, ?_⟩
  split_ifs <;> omega

end Binary
end Collate
