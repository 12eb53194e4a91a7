import Collate.Proofs.Incomparable
import Collate.Proofs.Number.Units
import Collate.Proofs.Reversal

namespace Collate

namespace Binary

variable {f : FloatFormat} {x y : Binary f}

/-- A pattern is its sign and what is left of it. -/
theorem ofMagnitude_magnitude (x : Binary f) : ofMagnitude x.isNegative x.magnitude = x := by
  have hbits : (ofMagnitude x.isNegative x.magnitude).bits = x.bits := by
    apply BitVec.eq_of_toNat_eq
    rw [toNat_ofMagnitude x.magnitude_lt, isNegative, BitVec.msb_eq_decide, magnitude,
      Nat.one_shiftLeft]
    have hlt : x.bits.toNat < 2 ^ f.width := x.bits.isLt
    have hw : 2 ^ f.width = 2 ^ (f.width - 1) + 2 ^ (f.width - 1) := by cases f <;> rfl
    split_ifs with hsign
    · rw [decide_eq_true_eq] at hsign
      rw [Nat.mod_eq_sub_mod hsign, Nat.mod_eq_of_lt (by omega)]
      omega
    · rw [decide_eq_true_eq, not_le] at hsign
      exact Nat.mod_eq_of_lt hsign
  cases x
  exact congrArg Binary.mk hbits

theorem totalRank_injective : Function.Injective (totalRank : Binary f → Int) := by
  intro x y h
  have hparts : x.isNegative = y.isNegative ∧ x.magnitude = y.magnitude := by
    unfold totalRank at h
    split_ifs at h with hx hy hy
    · exact ⟨hx.trans hy.symm, by omega⟩
    · omega
    · omega
    · rw [Bool.not_eq_true] at hx hy
      exact ⟨hx.trans hy.symm, by omega⟩
  rw [← ofMagnitude_magnitude x, ← ofMagnitude_magnitude y, hparts.1, hparts.2]

theorem totalRank_lt_of_rank_lt (h : x.rank < y.rank) : x.totalRank < y.totalRank := by
  unfold rank at h
  unfold totalRank
  split_ifs at h ⊢ <;> omega

theorem totalOrder_eq_eq_iff : x.totalOrder y = .eq ↔ x = y := by
  rw [totalOrder, compare_eq_iff_eq, totalRank_injective.eq_iff]

/-- Numbers that differ stand in the total order as they do among the numbers. -/
theorem totalOrder_of_order? {o : Ordering} (ho : o ≠ .eq) (h : x.order? y = some o) :
    x.totalOrder y = o := by
  rw [order?] at h
  split at h
  · cases h
  · rw [Option.some_inj] at h
    cases o with
    | lt => exact compare_lt_iff_lt.2 (totalRank_lt_of_rank_lt (compare_lt_iff_lt.1 h))
    | eq => exact absurd rfl ho
    | gt => exact compare_gt_iff_gt.2 (totalRank_lt_of_rank_lt (compare_gt_iff_gt.1 h))

end Binary

namespace Leaf

theorem house_compare?_trans {a b c : Leaf} (ha : a = f64) (hb : b = f64) (hc : c = f64)
    {f : a.Val → b.Val → Outcome} {g : b.Val → c.Val → Outcome} {k : a.Val → c.Val → Outcome}
    (hf : house.compare? a b = some f) (hg : house.compare? b c = some g)
    (hk : house.compare? a c = some k) (x : a.Val) (y : b.Val) (z : c.Val)
    (h : Outcome.Concordant (f x y) (g y z)) : k x z = (f x y).andThen (g y z) := by
  subst ha hb hc
  cases hf
  cases hg
  cases hk
  exact Outcome.between_trans (p := some x.totalRank) (q := some y.totalRank)
    (r := some z.totalRank) h

end Leaf

theorem Atom.house_compare? {u v : Atom} (hu : u.leaf = .f64) (hv : v.leaf = .f64) :
    ∃ o, u.compare? Leaf.house v = some (.ofOrdering o) ∧ (o = .eq ↔ u = v) := by
  obtain ⟨a, x⟩ := u
  obtain ⟨b, y⟩ := v
  subst hu hv
  refine ⟨x.totalOrder y, rfl, Binary.totalOrder_eq_eq_iff.trans ?_⟩
  rw [Atom.mk.injEq, heq_eq_eq, eq_self, true_and]

namespace Meeting

theorem verdict_eq_equivalent_iff {cx : Context Leaf.Val} {ms : List Meeting} :
    verdict cx ms = .equivalent ↔ ∀ m ∈ ms, m.outcome cx = .equivalent := by
  rw [verdict, Outcome.chain_eq_equivalent_iff, List.forall_mem_map]

/-- Floats that meet are told apart, unless they are one and the same. -/
theorem house_outcome {m : Meeting}
    (h : ∀ u v, m = both u v → u.leaf = .f64 ∧ v.leaf = .f64) :
    m.outcome Leaf.house ≠ .incomparable ∧
      (m.outcome Leaf.house = .equivalent ↔ ∃ u, m = both u u) := by
  cases m with
  | both u v =>
    obtain ⟨hu, hv⟩ := h u v rfl
    obtain ⟨o, ho, hiff⟩ := Atom.house_compare? hu hv
    rw [outcome, ho, Option.getD_some]
    refine ⟨Outcome.ofOrdering_ne_incomparable o, ?_⟩
    rw [Outcome.ofOrdering_eq_equivalent_iff, hiff]
    simp [eq_comm]
  | leftOnly | rightOnly => simp [outcome]

end Meeting

namespace Ty

variable {s t u : Ty}

theorem alike_trans (hst : s.alike t = true) (htu : t.alike u = true) : s.alike u = true := by
  induction s generalizing t u with
  | leaf a =>
    cases t <;> try cases hst
    cases u <;> first | rfl | cases htu
  | list s ih | view s ih | option s ih | array _ s ih | ref s ih =>
    cases t <;> try cases hst
    cases u <;> try cases htu
    exact ih hst htu

/-- If a leaf's comparison with itself tells all its values apart, so does that of a type over it. -/
theorem compare?_eq_equivalent_iff {cx : Context Leaf.Val}
    (h : ∃ g, cx.compare? t.base t.base = some g ∧ ∀ x y, g x y = .equivalent ↔ x = y)
    {f : t.Val → t.Val → Outcome} (hf : t.compare? cx t = some f) (x y : t.Val) :
    f x y = .equivalent ↔ x = y := by
  obtain ⟨g, hg, heq⟩ := h
  have hleaf : ∃ e, ((cx.compare? t.base t.base).map fun g x y => (g x y).isEq) = some e ∧
      ∀ x y, e x y = true ↔ x = y := by
    refine ⟨fun x y => (g x y).isEq, by rw [hg, Option.map_some], fun x y => ?_⟩
    rw [Outcome.isEq_iff, heq]
  obtain ⟨e, he, hiff⟩ :=
    relate?_self (e := fun a b => (cx.compare? a b).map fun g x y => (g x y).isEq) t hleaf
  rw [relate?_map Lifting.comparison_maps_isEq t t rfl, ← compare?_eq_relate?, hf] at he
  cases he
  rw [← hiff, Outcome.isEq_iff]

theorem house_compare?_eq_equivalent_iff (ht : t.base = .f64) {f : t.Val → t.Val → Outcome}
    (hf : t.compare? Leaf.house t = some f) (x y : t.Val) : f x y = .equivalent ↔ x = y := by
  refine compare?_eq_equivalent_iff ?_ hf x y
  rw [ht]
  refine ⟨_, rfl, fun x y => ?_⟩
  show Outcome.ofOrdering (x.totalOrder y) = .equivalent ↔ x = y
  rw [Outcome.ofOrdering_eq_equivalent_iff, Binary.totalOrder_eq_eq_iff]

end Ty

namespace Datum

variable {x y z : Datum} {o p : Outcome} {ms : List Meeting}

theorem house_outcome_of_mem_meetings? (hx : x.type.base = .f64) (hy : y.type.base = .f64)
    (hms : x.meetings? y = some ms) {m : Meeting} (hm : m ∈ ms) :
    m.outcome Leaf.house ≠ .incomparable ∧
      (m.outcome Leaf.house = .equivalent ↔ ∃ u, m = .both u u) := by
  refine Meeting.house_outcome fun u v he => ?_
  subst he
  obtain ⟨hu, hv⟩ := mem_atoms_of_meetings? hms hm
  exact ⟨(Ty.leaf_of_mem_atoms hu).trans hx, (Ty.leaf_of_mem_atoms hv).trans hy⟩

theorem exists_house_compare? (hx : x.type.base = .f64) (hy : y.type.base = .f64)
    (h : x.type.alike y.type = true) : ∃ o, x.compare? Leaf.house y = some o := by
  rw [← Option.isSome_iff_exists, isSome_compare?_iff, hx, hy]
  exact ⟨h, rfl⟩

theorem house_compare?_ne_incomparable (hx : x.type.base = .f64) (hy : y.type.base = .f64)
    (h : x.compare? Leaf.house y = some o) : o ≠ .incomparable := by
  obtain ⟨ms, hms, rfl⟩ := exists_meetings_of_compare? h
  intro hinc
  obtain ⟨before, m, after, rfl, hm, -⟩ := (Meeting.verdict_eq_iff _ (by decide)).1 hinc
  exact (house_outcome_of_mem_meetings? hx hy hms (by simp)).1 hm

theorem house_compare?_eq_equivalent_iff (hx : x.type.base = .f64) (hy : y.type.base = .f64)
    (h : x.compare? Leaf.house y = some o) (hms : x.meetings? y = some ms) :
    o = .equivalent ↔ ∀ m ∈ ms, ∃ u, m = .both u u := by
  obtain ⟨ns, hns, rfl⟩ := exists_meetings_of_compare? h
  obtain rfl : ns = ms := Option.some.inj (hns.symm.trans hms)
  rw [Meeting.verdict_eq_equivalent_iff]
  exact forall₂_congr fun m hm => (house_outcome_of_mem_meetings? hx hy hms hm).2

theorem house_compare?_trans (hx : x.type.base = .f64) (hy : y.type.base = .f64)
    (hz : z.type.base = .f64) (hxy : x.compare? Leaf.house y = some o)
    (hyz : y.compare? Leaf.house z = some p) (h : o.isLE ∧ p.isLE ∨ o.isGE ∧ p.isGE) :
    x.compare? Leaf.house z = some (o.andThen p) := by
  obtain ⟨hfirst, -⟩ := isSome_compare?_iff.1 (Option.isSome_of_eq_some hxy)
  obtain ⟨hsecond, -⟩ := isSome_compare?_iff.1 (Option.isSome_of_eq_some hyz)
  obtain ⟨q, hxz⟩ := exists_house_compare? hx hz (Ty.alike_trans hfirst hsecond)
  obtain ⟨f, hf, rfl⟩ := Option.map_eq_some_iff.1 hxy
  obtain ⟨g, hg, rfl⟩ := Option.map_eq_some_iff.1 hyz
  obtain ⟨k, hk, rfl⟩ := Option.map_eq_some_iff.1 hxz
  rw [hxz, Option.some_inj]
  rw [Ty.compare?_eq_relate?] at hf hg hk
  exact Ty.relate?_chain Lifting.comparison_chains
    (fun _ _ _ => Leaf.house_compare?_trans hx hy hz) hf hg hk x.value y.value z.value h

/-- Floats that are less or greater by their values are so by their patterns. -/
theorem house_compare?_of_intrinsic {a b : Binary .binary64} (ho : o ∈ [Outcome.less, .greater])
    (h : compare? Leaf.intrinsic ⟨.leaf .f64, a⟩ ⟨.leaf .f64, b⟩ = some o) :
    compare? Leaf.house ⟨.leaf .f64, a⟩ ⟨.leaf .f64, b⟩ = some o := by
  have hpartial : Outcome.ofPartial (a.order? b) = o := Option.some.inj h
  have horder : a.order? b = o.toPartial := by
    rw [← hpartial, Outcome.toPartial_ofPartial]
  show some (Outcome.ofOrdering (a.totalOrder b)) = some o
  rcases List.mem_pair.1 ho with rfl | rfl
  · rw [Binary.totalOrder_of_order? (by decide) horder]
    rfl
  · rw [Binary.totalOrder_of_order? (by decide) horder]
    rfl

end Datum

/-- By a context's order of all patterns the floats and whatever is built over them are totally
ordered, NaNs and all: any two values compare, as `equivalent` exactly if wherever they meet there
is one and the same pattern on both sides, and comparisons that lean the same way chain. Floats that
are less or greater by their values are so by their patterns. -/
theorem floats_totally_ordered :
    (∀ {x y : Datum}, x.type.base = .f64 → y.type.base = .f64 → x.type.alike y.type = true →
      ∃ o ms, x.compare? Leaf.house y = some o ∧ y.compare? Leaf.house x = some o.flip ∧
        o ≠ .incomparable ∧ x.meetings? y = some ms ∧
        (o = .equivalent ↔ ∀ m ∈ ms, ∃ u, m = .both u u) ∧
        (x.type = y.type → (o = .equivalent ↔ x = y))) ∧
      (∀ {x y z : Datum} {o p : Outcome},
        x.type.base = .f64 → y.type.base = .f64 → z.type.base = .f64 →
          x.compare? Leaf.house y = some o → y.compare? Leaf.house z = some p →
          (o.isLE ∧ p.isLE ∨ o.isGE ∧ p.isGE) → x.compare? Leaf.house z = some (o.andThen p)) ∧
      ∀ (a b : Binary .binary64), ∀ o ∈ [Outcome.less, .greater],
        Datum.compare? Leaf.intrinsic ⟨.leaf .f64, a⟩ ⟨.leaf .f64, b⟩ = some o →
          Datum.compare? Leaf.house ⟨.leaf .f64, a⟩ ⟨.leaf .f64, b⟩ = some o := by
  refine ⟨fun {x y} hx hy h => ?_, fun hx hy hz => ?_, fun a b o ho => ?_⟩
  · obtain ⟨o, ho⟩ := Datum.exists_house_compare? hx hy h
    obtain ⟨p, hp⟩ := Datum.exists_house_compare? hy hx (Ty.alike_comm _ _ ▸ h)
    obtain ⟨ms, hms, -⟩ := Datum.exists_meetings_of_compare? ho
    obtain rfl : p = o.flip := Datum.compare?_flip Leaf.house_reversible hp ho
    refine ⟨o, ms, ho, hp, Datum.house_compare?_ne_incomparable hx hy ho, hms,
      Datum.house_compare?_eq_equivalent_iff hx hy ho hms, fun htype => ?_⟩
    obtain ⟨f, hf, rfl⟩ := Option.map_eq_some_iff.1 ho
    obtain ⟨t, a⟩ := x
    obtain ⟨_, b⟩ := y
    subst htype
    rw [Ty.house_compare?_eq_equivalent_iff hx hf, Datum.mk.injEq, heq_eq_eq, eq_self, true_and]
  · exact Datum.house_compare?_trans hx hy hz
  · exact Datum.house_compare?_of_intrinsic ho

/-- Arrays of optional floats in a list: a NaN with its sign set, the lesser infinity before nothing
and before a zero with its sign set, and two finite floats. -/
theorem floats_totally_ordered_lists :
    let nan : Binary .binary64 := ⟨0xfff8000000000001#64⟩
    let bottom : Binary .binary64 := ⟨0xfff0000000000000#64⟩
    let zero : Binary .binary64 := ⟨0x8000000000000000#64⟩
    let x : Datum := ⟨.list (.array 2 (.option (.leaf .f64))), [⟨[some nan, none], rfl⟩]⟩
    let y : Datum := ⟨.list (.array 3 (.option (.leaf .f64))),
      [⟨[some bottom, none, some nan], rfl⟩]⟩
    let z : Datum := ⟨.list (.array 2 (.option (.leaf .f64))), [⟨[some bottom, some zero], rfl⟩]⟩
    let a : Binary .binary64 := ⟨0xbff0000000000000#64⟩
    let b : Binary .binary64 := ⟨0x0000000000000001#64⟩
    (x.compare? Leaf.house y = some .less ∧ y.compare? Leaf.house x = some .greater) ∧
      x.compare? Leaf.house x = some .equivalent ∧
      (y.compare? Leaf.house z = some .less ∧ x.compare? Leaf.house z = some .less) ∧
      Datum.compare? Leaf.house ⟨.leaf .f64, a⟩ ⟨.leaf .f64, b⟩ = some .less := by
  intro nan bottom zero x y z a b
  have hxy : x.compare? Leaf.house y = some .less := by decide
  have hyz : y.compare? Leaf.house z = some .less := by decide
  have hab : Datum.compare? Leaf.intrinsic ⟨.leaf .f64, a⟩ ⟨.leaf .f64, b⟩ = some .less := by
    decide
  obtain ⟨htotal, htrans, hrefines⟩ := floats_totally_ordered
  obtain ⟨o, -, ho, hflip, -⟩ := htotal (x := x) (y := y) rfl rfl rfl
  obtain rfl : o = .less := Option.some.inj (ho.symm.trans hxy)
  obtain ⟨p, -, hp, -, -, -, -, hself⟩ := htotal (x := x) (y := x) rfl rfl rfl
  obtain rfl : p = .equivalent := (hself rfl).2 rfl
  have hxz : x.compare? Leaf.house z = some .less :=
    htrans (x := x) (y := y) (z := z) rfl rfl rfl hxy hyz (.inl ⟨rfl, rfl⟩)
  exact ⟨⟨hxy, hflip⟩, hp, ⟨hyz, hxz⟩, hrefines a b .less List.mem_cons_self hab⟩

end Collate
