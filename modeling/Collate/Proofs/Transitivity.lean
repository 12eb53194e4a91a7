import Collate.Datum
import Collate.Proofs.Leaf.Key
import Collate.Proofs.Ty.Lifting

namespace Collate

theorem Leaf.intrinsic_compare?_trans {a b c : Leaf} {f : a.Val → b.Val → Outcome}
    {g : b.Val → c.Val → Outcome} {k : a.Val → c.Val → Outcome}
    (hf : intrinsic.compare? a b = some f) (hg : intrinsic.compare? b c = some g)
    (hk : intrinsic.compare? a c = some k) (x : a.Val) (y : b.Val) (z : c.Val)
    (h : Outcome.Concordant (f x y) (g y z)) : k x z = (f x y).andThen (g y z) := by
  rw [intrinsic_compare?_eq hf, intrinsic_compare?_eq hg] at h ⊢
  rw [intrinsic_compare?_eq hk]
  exact Outcome.between_trans h

namespace Datum

/-- Comparisons that lean the same way chain across types and at any depth: the outer one is
`equivalent` if both links are, and otherwise leans as they do. -/
theorem compare?_trans {x y z : Datum} {o p q : Outcome}
    (hxy : x.compare? Leaf.intrinsic y = some o) (hyz : y.compare? Leaf.intrinsic z = some p)
    (hxz : x.compare? Leaf.intrinsic z = some q)
    (h : o.isLE ∧ p.isLE ∨ o.isGE ∧ p.isGE) : q = o.andThen p := by
  obtain ⟨f, hf, rfl⟩ := Option.map_eq_some_iff.1 hxy
  obtain ⟨g, hg, rfl⟩ := Option.map_eq_some_iff.1 hyz
  obtain ⟨k, hk, rfl⟩ := Option.map_eq_some_iff.1 hxz
  rw [Ty.compare?_eq_relate?] at hf hg hk
  exact Ty.relate?_chain Lifting.comparison_chains
    (fun _ _ _ => Leaf.intrinsic_compare?_trans) hf hg hk x.value y.value z.value h

/-- Lists of optional numbers whose last entries are `2 ^ 127` as an integer that no signed type
holds, the same as a narrow float, and the next larger wide float. -/
theorem compare?_trans_lists :
    let x : Datum := ⟨.list (.option (.leaf (.num (.int .u128)))),
      [some ⟨3, by decide, by decide⟩, none,
        some ⟨170141183460469231731687303715884105728, by decide, by decide⟩]⟩
    let y : Datum := ⟨.list (.option (.leaf (.num (.float .binary32)))),
      [some ⟨0x40400000#32⟩, none, some ⟨0x7f000000#32⟩]⟩
    let z : Datum := ⟨.list (.option (.leaf (.num (.float .binary64)))),
      [some ⟨0x4008000000000000#64⟩, none, some ⟨0x47e0000000000001#64⟩]⟩
    x.compare? Leaf.intrinsic y = some .equivalent ∧ y.compare? Leaf.intrinsic z = some .less ∧
      x.compare? Leaf.intrinsic z = some .less := by
  intro x y z
  have hxy : x.compare? Leaf.intrinsic y = some .equivalent := by decide
  have hyz : y.compare? Leaf.intrinsic z = some .less := by decide
  obtain ⟨q, hxz⟩ : ∃ q, x.compare? Leaf.intrinsic z = some q := ⟨_, rfl⟩
  have hq : q = .less := compare?_trans hxy hyz hxz (by decide)
  exact ⟨hxy, hyz, hq ▸ hxz⟩

end Datum
end Collate
