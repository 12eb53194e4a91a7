import Mathlib.Algebra.Order.Floor.Ring
import Mathlib.Data.Sign.Defs
import Mathlib.Tactic.Linarith
import Collate.Proofs.Number.Exact

namespace Collate

/-- The whole number next to `r` on the way to zero. -/
noncomputable def towardZero (r : ℝ) : ℤ := if 0 ≤ r then ⌊r⌋ else ⌈r⌉

theorem towardZero_intCast (n : ℤ) : towardZero n = n := by
  rw [towardZero, Int.floor_intCast, Int.ceil_intCast, ite_self]

namespace Binary

variable {f : FloatFormat} {x : Binary f}

/-- The integer `w` and the float `y` are the whole and the fractional part of the float `x`, with
nothing lost between them. -/
structure SplitsInto (x : Binary f) (w : Int) (y : Binary f) : Prop where
  isFinite : y.isFinite = true
  toReal_eq : x.toReal = w + y.toReal
  abs_lt_one : |y.toReal| < 1
  sign_eq : y.toReal = 0 ∨ SignType.sign y.toReal = SignType.sign x.toReal

/-- A split leaves no choice of the whole part. -/
theorem SplitsInto.towardZero_eq {w : Int} {y : Binary f} (h : x.SplitsInto w y) :
    towardZero x.toReal = w := by
  obtain ⟨hgt, hlt⟩ := abs_lt.1 h.abs_lt_one
  have heq := h.toReal_eq
  rw [towardZero]
  split_ifs with hx
  · have hy : 0 ≤ y.toReal := by
      rcases h.sign_eq with hy | hy
      · exact hy.ge
      · rwa [← sign_nonneg_iff, hy, sign_nonneg_iff]
    rw [Int.floor_eq_iff]
    constructor <;> linarith
  · have hy : y.toReal ≤ 0 := by
      rcases h.sign_eq with hy | hy
      · exact hy.le
      · rw [← sign_nonpos_iff, hy, sign_nonpos_iff]
        exact (not_le.1 hx).le
    rw [Int.ceil_eq_iff]
    constructor <;> linarith

theorem toReal_pos_iff : 0 < x.toReal ↔ 0 < x.units := by
  rw [toReal_eq, div_pos_iff_of_pos_right real_unitsPerOne_pos, Int.cast_pos]

theorem toReal_neg_iff : x.toReal < 0 ↔ x.units < 0 := by
  rw [toReal_eq, div_lt_iff₀ real_unitsPerOne_pos, zero_mul, Int.cast_lt_zero]

theorem toReal_eq_add (hx : x.isFinite = true) : x.toReal = x.whole + x.fract.toReal := by
  have h := real_unitsPerOne_pos.ne'
  rw [toReal_eq, toReal_eq, (fract_exact hx).2, fractionUnits_eq]
  push_cast
  field_simp
  ring

theorem abs_toReal_fract_lt_one (hx : x.isFinite = true) : |x.fract.toReal| < 1 := by
  have h := real_unitsPerOne_pos
  have hlt := Int.tmod_lt_of_pos x.units natCast_unitsPerOne_pos
  have hgt := Int.lt_tmod_of_pos x.units natCast_unitsPerOne_pos
  rw [← fractionUnits_eq_tmod] at hlt hgt
  rw [toReal_eq, (fract_exact hx).2, abs_lt, lt_div_iff₀ h, div_lt_iff₀ h, neg_one_mul, one_mul]
  exact ⟨by exact_mod_cast hgt, by exact_mod_cast hlt⟩

theorem fractionUnits_nonneg (h : 0 ≤ x.units) : 0 ≤ x.fractionUnits := by
  rw [fractionUnits_eq_tmod]
  exact Int.tmod_nonneg _ h

theorem fractionUnits_nonpos (h : x.units ≤ 0) : x.fractionUnits ≤ 0 := by
  have hneg := Int.tmod_nonneg unitsPerOne (Int.neg_nonneg_of_nonpos h)
  rw [Int.neg_tmod, ← fractionUnits_eq_tmod] at hneg
  omega

/-- A fraction other than zero has the sign of the number. -/
theorem sign_toReal_fract (hx : x.isFinite = true) :
    x.fract.toReal = 0 ∨ SignType.sign x.fract.toReal = SignType.sign x.toReal := by
  have hunits := (fract_exact hx).2
  rcases lt_trichotomy x.fract.toReal 0 with h | h | h
  · have hneg : x.toReal < 0 := by
      rw [toReal_neg_iff, hunits] at h
      exact toReal_neg_iff.2 (lt_of_not_ge fun hle => h.not_ge (fractionUnits_nonneg hle))
    exact .inr ((sign_neg h).trans (sign_neg hneg).symm)
  · exact .inl h
  · have hpos : 0 < x.toReal := by
      rw [toReal_pos_iff, hunits] at h
      exact toReal_pos_iff.2 (lt_of_not_ge fun hle => h.not_ge (fractionUnits_nonpos hle))
    exact .inr ((sign_pos h).trans (sign_pos hpos).symm)

theorem splitsInto_whole (hx : x.isFinite = true) : x.SplitsInto x.whole x.fract where
  isFinite := (fract_exact hx).1
  toReal_eq := toReal_eq_add hx
  abs_lt_one := abs_toReal_fract_lt_one hx
  sign_eq := sign_toReal_fract hx

theorem towardZero_toReal (hx : x.isFinite = true) : towardZero x.toReal = x.whole :=
  (splitsInto_whole hx).towardZero_eq

theorem toReal_trunc (x : Binary f) : x.trunc.toReal = x.whole := by
  rw [toReal_eq, units_trunc, ← whole, Int.cast_mul, Int.cast_natCast,
    mul_div_cancel_right₀ _ real_unitsPerOne_pos.ne']

/-- Beyond the range of signed words the integral part is all of the number. -/
theorem toReal_fract_of_le_whole (hx : x.isFinite = true) (hw : 2 ^ 127 ≤ x.whole.natAbs) :
    x.fract.toReal = 0 := by
  rw [toReal_eq, (fract_exact hx).2, fractionUnits_of_le_whole hw, Int.cast_zero, zero_div]

theorem toReal_of_le_whole (hx : x.isFinite = true) (hw : 2 ^ 127 ≤ x.whole.natAbs) :
    x.toReal = x.whole := by
  rw [toReal_eq_add hx, toReal_fract_of_le_whole hx hw, add_zero]

/-- The least signed word stands for one float only. -/
theorem whole_eq_i128_min_iff (hx : x.isFinite = true) :
    x.whole = IntType.i128.min ↔ x.toReal = -2 ^ 127 := by
  have hcast : ((-2 ^ 127 : ℤ) : ℝ) = -2 ^ 127 := by norm_num
  rw [IntType.i128_min, ← hcast]
  constructor
  · intro h
    rw [toReal_of_le_whole hx (by omega), h]
  · intro h
    rw [← towardZero_toReal hx, h, towardZero_intCast]

theorem toReal_lt_two_pow_iff (hx : x.isFinite = true) (hw : 2 ^ 127 ≤ x.whole) :
    x.toReal < 2 ^ 128 ↔ x.whole ≤ IntType.u128.max := by
  have hcast : ((2 ^ 128 : ℤ) : ℝ) = 2 ^ 128 := by norm_num
  rw [toReal_of_le_whole hx (by omega), IntType.u128_max, ← hcast, Int.cast_lt, Int.le_sub_one_iff]

/-- Unsigned words hold every float from `2 ^ 127` on that is below `2 ^ 128`. -/
theorem toInt?_trunc_u128_eq_some_iff (hx : x.isFinite = true) (hw : 2 ^ 127 ≤ x.whole) (n : Int) :
    x.trunc.toInt? .u128 = some n ↔ n = x.toReal ∧ x.toReal < 2 ^ 128 := by
  rw [toReal_lt_two_pow_iff hx hw, toReal_of_le_whole hx (by omega), Int.cast_inj,
    toInt?_trunc_u128 hx hw]
  split_ifs with hmax
  · rw [Option.some_inj, and_iff_left hmax, eq_comm]
  · exact ⟨nofun, fun h => absurd h.2 hmax⟩

theorem toInt?_trunc_u128_eq_none_iff (hx : x.isFinite = true) (hw : 2 ^ 127 ≤ x.whole) :
    x.trunc.toInt? .u128 = none ↔ 2 ^ 128 ≤ x.toReal := by
  rw [← not_lt, toReal_lt_two_pow_iff hx hw, toInt?_trunc_u128 hx hw]
  split_ifs with hmax
  · exact ⟨nofun, fun h => absurd hmax h⟩
  · exact ⟨fun _ => hmax, fun _ => rfl⟩

end Binary

variable {t : IntType} {f : FloatFormat} {x : Binary f}

/-- Below `2 ^ 127` integers are compared with the two parts of a float in turn. -/
theorem compareIntegerFloat_eq_parts (a : Word t) (hx : x.isFinite = true)
    (hw : -2 ^ 127 ≤ x.whole) (hw' : x.whole < 2 ^ 127) :
    compareIntegerFloat a x = (Outcome.ofOrdering (compare a.toInt x.wholePart)).andThen
      (.ofOrdering (compare 0 x.fract.toReal)) := by
  have hfract : compare 0 x.fract.toReal = compare 0 x.fractionUnits := by
    rw [← (Binary.fract_exact hx).2]
    exact Outcome.compare_eq_compare Binary.toReal_pos_iff Binary.toReal_neg_iff
  rw [compareIntegerFloat_of_mem a hx hw hw', Binary.wholePart_eq hx hw hw', hfract]
  cases compare a.toInt x.whole <;> rfl

/-- From `2 ^ 127` on they are compared with a word, or are less where there is none. -/
theorem compareIntegerFloat_eq_word (a : Word t) (hx : x.isFinite = true)
    (hw : 2 ^ 127 ≤ x.whole) :
    compareIntegerFloat a x = (x.trunc.toInt? .u128).elim .less fun n =>
      .ofOrdering (compare a.toInt n) := by
  rw [compareIntegerFloat_of_large a hx hw, Binary.toInt?_trunc_u128 hx hw]
  split_ifs with hmax
  · rfl
  · have ha := a.bounds.2
    have hlt : compare a.toInt x.whole = .lt := compare_lt_iff_lt.2 (by omega)
    rw [hlt]
    rfl

/-- To be compared with integers, a finite float is taken apart without loss. If its integral part is
in the range of signed words, it is the sum of that part, which always converts, and of a fraction
that is a float again; the least word comes from `-2 ^ 127` alone. From `2 ^ 127` on it has no
fraction, and it converts to the unsigned word of its value as long as it is below `2 ^ 128`. -/
theorem floats_split_exactly {f : FloatFormat} {x : Binary f} (hx : x.isFinite = true) :
    x.trunc.toReal = towardZero x.toReal ∧
      (-2 ^ 127 ≤ towardZero x.toReal → towardZero x.toReal < 2 ^ 127 →
        x.SplitsInto x.wholePart x.fract ∧
          x.trunc.toInt? .i128 = some x.wholePart ∧
          (x.wholePart = IntType.i128.min ↔ x.toReal = -2 ^ 127) ∧
          ∀ {t : IntType} (a : Word t), compareIntegerFloat a x =
            (Outcome.ofOrdering (compare a.toInt x.wholePart)).andThen
              (.ofOrdering (compare 0 x.fract.toReal))) ∧
      (2 ^ 127 ≤ towardZero x.toReal →
        x.fract.toReal = 0 ∧
          (∀ n, x.trunc.toInt? .u128 = some n ↔ n = x.toReal ∧ x.toReal < 2 ^ 128) ∧
          (x.trunc.toInt? .u128 = none ↔ 2 ^ 128 ≤ x.toReal) ∧
          ∀ {t : IntType} (a : Word t), compareIntegerFloat a x =
            (x.trunc.toInt? .u128).elim .less fun n => .ofOrdering (compare a.toInt n)) := by
  rw [Binary.towardZero_toReal hx]
  refine ⟨x.toReal_trunc, fun hw hw' => ?_, fun hw => ?_⟩
  · have hparts {t : IntType} (a : Word t) := compareIntegerFloat_eq_parts a hx hw hw'
    rw [Binary.wholePart_eq hx hw hw'] at hparts ⊢
    exact ⟨Binary.splitsInto_whole hx, Binary.toInt?_trunc_i128 hx hw hw',
      Binary.whole_eq_i128_min_iff hx, hparts⟩
  · exact ⟨Binary.toReal_fract_of_le_whole hx (by omega),
      Binary.toInt?_trunc_u128_eq_some_iff hx hw, Binary.toInt?_trunc_u128_eq_none_iff hx hw,
      fun a => compareIntegerFloat_eq_word a hx hw⟩

/-- Minus two and a half, the least signed word as a narrow float, the largest narrow float, and the
wide float one step beyond the unsigned words. -/
theorem floats_split_exactly_limits :
    let x : Binary .binary64 := ⟨0xC004000000000000⟩
    let least : Binary .binary32 := .twoPow true 127
    let largest : Binary .binary32 := ⟨0x7F7FFFFF⟩
    let beyond : Binary .binary64 := .twoPow false 128
    (x.isFinite = true ∧ (-2 ^ 127 ≤ towardZero x.toReal ∧ towardZero x.toReal < 2 ^ 127) ∧
        x.SplitsInto (-2) ⟨0xBFE0000000000000⟩) ∧
      (least.isFinite = true ∧
        (-2 ^ 127 ≤ towardZero least.toReal ∧ towardZero least.toReal < 2 ^ 127) ∧
        least.trunc.toInt? .i128 = some IntType.i128.min ∧ least.toReal = -2 ^ 127) ∧
      (largest.isFinite = true ∧ 2 ^ 127 ≤ towardZero largest.toReal ∧
        largest.fract.toReal = 0 ∧ largest.toReal = 2 ^ 128 - 2 ^ 104 ∧ largest.toReal < 2 ^ 128) ∧
      (beyond.isFinite = true ∧ 2 ^ 127 ≤ towardZero beyond.toReal ∧
        beyond.trunc.toInt? .u128 = none ∧ 2 ^ 128 ≤ beyond.toReal) := by
  intro x least largest beyond
  have hx : x.isFinite = true := by decide +kernel
  have hleast : least.isFinite = true := by decide +kernel
  have hlargest : largest.isFinite = true := by decide +kernel
  have hbeyond : beyond.isFinite = true := by decide +kernel
  have hxr : -2 ^ 127 ≤ towardZero x.toReal ∧ towardZero x.toReal < 2 ^ 127 := by
    rw [Binary.towardZero_toReal hx]
    decide +kernel
  have hleastr : -2 ^ 127 ≤ towardZero least.toReal ∧ towardZero least.toReal < 2 ^ 127 := by
    rw [Binary.towardZero_toReal hleast]
    decide +kernel
  have hlargestr : 2 ^ 127 ≤ towardZero largest.toReal := by
    rw [Binary.towardZero_toReal hlargest]
    decide +kernel
  have hbeyondr : 2 ^ 127 ≤ towardZero beyond.toReal := by
    rw [Binary.towardZero_toReal hbeyond]
    decide +kernel
  have hsplit := ((floats_split_exactly hx).2.1 hxr.1 hxr.2).1
  have hparts : x.wholePart = -2 ∧ x.fract = ⟨0xBFE0000000000000⟩ := by decide +kernel
  rw [hparts.1, hparts.2] at hsplit
  have hmin := (floats_split_exactly hleast).2.1 hleastr.1 hleastr.2
  have hword := (floats_split_exactly hlargest).2.2 hlargestr
  have hnone := (floats_split_exactly hbeyond).2.2 hbeyondr
  have hleastw : least.wholePart = IntType.i128.min := by decide +kernel
  have hlargestw : largest.trunc.toInt? .u128 = some (2 ^ 128 - 2 ^ 104) := by decide +kernel
  have hbeyondw : beyond.trunc.toInt? .u128 = none := by decide +kernel
  obtain ⟨hvalue, hlt⟩ := (hword.2.1 _).1 hlargestw
  refine ⟨⟨hx, hxr, hsplit⟩, ⟨hleast, hleastr, hleastw ▸ hmin.2.1, hmin.2.2.1.1 hleastw⟩,
    ⟨hlargest, hlargestr, hword.1, ?_, hlt⟩, ⟨hbeyond, hbeyondr, hbeyondw, hnone.2.2.1.1 hbeyondw⟩⟩
  rw [← hvalue]
  norm_num

end Collate
