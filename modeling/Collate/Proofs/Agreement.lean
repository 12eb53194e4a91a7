import Collate.Datum
import Collate.Proofs.Leaf.Number
import Collate.Proofs.Text.Order
import Collate.Proofs.Ty.Lifting

namespace Collate

namespace Leaf

/-- The leaves whose relations are all the language's own. -/
def isBuiltin : Leaf → Bool
  | num _ | bool | char | unit | textView | text => true
  | _ => false

/-- Two built-in values are equal exactly if their comparison says so. -/
theorem intrinsic_equal?_eq {a : Leaf} (ha : a.isBuiltin = true) (b : Leaf) :
    intrinsic.equal? a b = (intrinsic.compare? a b).map fun f x y => (f x y).isEq := by
  cases a with
  | num s =>
    cases b <;> try rfl
    rw [intrinsic_equal?_num, intrinsic_compare?_num, Option.map_some]
  | bool =>
    cases b <;> try rfl
    refine congrArg some (funext₂ fun p q => ?_)
    cases p <;> cases q <;> rfl
  | char =>
    cases b <;> try rfl
    refine congrArg some (funext₂ fun c d => ?_)
    have hinj : Function.Injective Char.toNat := fun _ _ => Char.toNat_inj.1
    exact (hinj.beq_eq.symm.trans (Outcome.isEq_ofOrdering_compare c.toNat d.toNat).symm)
  | unit => cases b <;> rfl
  | textView | text =>
    cases b <;> try rfl
    all_goals exact congrArg some (funext₂ fun s t => (Text.isEq_compare s t).symm)
  | _ => cases ha

theorem intrinsic_equal?_eq_equivalent? {a : Leaf} (ha : a.isBuiltin = true) (b : Leaf) :
    intrinsic.equal? a b = intrinsic.equivalent? a b := by
  have hown : a.hasEquivalence = false := by cases a <;> first | rfl | cases ha
  exact (intrinsic_equivalent?_eq_equal? hown b).symm

end Leaf

namespace Ty

theorem intrinsic_equivalent?_eq {s : Ty} (hs : s.base.isBuiltin = true) (t : Ty) :
    s.equivalent? Leaf.intrinsic t =
      (s.compare? Leaf.intrinsic t).map fun f x y => (f x y).isEq := by
  rw [equivalent?_eq_relate?, compare?_eq_relate?]
  apply relate?_map Lifting.comparison_maps_isEq
  rw [← Leaf.intrinsic_equal?_eq_equivalent? hs, Leaf.intrinsic_equal?_eq hs]

theorem intrinsic_equal?_eq {s : Ty} (hs : s.base.isBuiltin = true) (t : Ty) :
    s.equal? Leaf.intrinsic t = (s.compare? Leaf.intrinsic t).map fun f x y => (f x y).isEq := by
  rw [equal?_eq_equivalent? _ _ _ (Leaf.intrinsic_equal?_eq_equivalent? hs _),
    intrinsic_equivalent?_eq hs]

end Ty

/-- Over built-in leaves all three relations are in use for the same pairs of types, at any depth,
and the values they find equal, equivalent and not to differ in a comparison are the same. -/
theorem relations_agree {x : Datum} (hx : x.type.base.isBuiltin = true) (y : Datum) :
    x.equal? Leaf.intrinsic y = (x.compare? Leaf.intrinsic y).map (· == .equivalent) ∧
      x.equivalent? Leaf.intrinsic y = (x.compare? Leaf.intrinsic y).map (· == .equivalent) := by
  have h (o : Option Outcome) : o.map (· == .equivalent) = o.map Outcome.isEq := by
    cases o <;> simp [Outcome.isEq_eq_beq]
  rw [h]
  constructor
  · rw [Datum.equal?, Ty.intrinsic_equal?_eq hx, Datum.compare?, Option.map_map, Option.map_map]
    rfl
  · rw [Datum.equivalent?, Ty.intrinsic_equivalent?_eq hx, Datum.compare?, Option.map_map,
      Option.map_map]
    rfl

/-- A negative zero and a two as wide floats, and the same numbers as short integers. -/
theorem relations_agree_lists :
    let x : Datum := ⟨.list (.option (.leaf .f64)),
      [some ⟨0x8000000000000000#64⟩, none, some ⟨0x4000000000000000#64⟩]⟩
    let y : Datum := ⟨.list (.option (.leaf (.num (.int .u8)))),
      [some ⟨0, by decide, by decide⟩, none, some ⟨2, by decide, by decide⟩]⟩
    x.compare? Leaf.intrinsic y = some .equivalent ∧ x.equal? Leaf.intrinsic y = some true ∧
      x.equivalent? Leaf.intrinsic y = some true := by
  intro x y
  have hcompare : x.compare? Leaf.intrinsic y = some .equivalent := by decide
  have hx : x.type.base.isBuiltin = true := by decide
  obtain ⟨hequal, hequivalent⟩ := relations_agree hx y
  rw [hcompare] at hequal hequivalent
  exact ⟨hcompare, hequal, hequivalent⟩

end Collate
