import Mathlib.Data.List.Basic
import Mathlib.Logic.Function.Iterate
import Collate.Proofs.Resolution
import Collate.Proofs.Reversal

namespace Collate

namespace Context

variable {τ : Type} {V : τ → Type} {cx : Context V} {a b : τ}

/-- Whether values that a context finds equal are equivalent to it, wherever it has both relations. -/
def Refined (cx : Context V) : Prop :=
  ∀ ⦃a b f e⦄, cx.equal? a b = some f → cx.equivalent? a b = some e →
    ∀ x y, f x y = true → e x y = true

/-- Equivalence is equality unless something better than the fallback carries it out. -/
theorem equivalent?_eq_equal?_or {e : V a → V b → Bool} (h : cx.equivalent? a b = some e) :
    cx.equal? a b = some e ∨
      cx.strategy .equivalent a b ∈
        [Strategy.extension, Strategy.memberFunction, Strategy.nonMemberFunction] := by
  have hs : cx.Supplies .equivalent a b (cx.strategy .equivalent a b) e := supplies_of_operation? h
  generalize cx.strategy .equivalent a b = s at hs ⊢
  cases hs with
  | equivalentExtension | equivalentMember | equivalentReflected => exact .inr (by simp)
  | equivalentAsEqual he => exact .inl he

end Context

namespace Leaf

/-- Labels and slots alone have an equivalence of their own, which goes by letters and by value. -/
theorem intrinsic_refined : intrinsic.Refined := by
  intro a b f e hf he x y hxy
  have hb : related a b = true := Context.binds_of_equal? hf
  revert hb
  fun_cases related a b <;> intro hb
  case case11 | case12 =>
    cases hf
    cases he
    rw [eq_of_beq hxy]
    exact beq_self_eq_true _
  case case15 => cases hb
  all_goals
    rw [← Option.some.inj (hf.symm.trans he)]
    exact hxy

/-- Here integers are equivalent if they have one magnitude. -/
theorem house_refined : house.Refined := by
  intro a b f e hf he x y hxy
  have hb : houseRelated a b = true := Context.binds_of_equal? hf
  revert hb
  fun_cases houseRelated a b <;> intro hb
  case case1 =>
    cases hf
    cases he
    have hint : x.toInt = y.toInt := eq_of_beq hxy
    change (x.toInt.natAbs == y.toInt.natAbs) = true
    rw [hint, beq_self_eq_true]
  case case10 => cases hb
  all_goals
    rw [← Option.some.inj (hf.symm.trans he)]
    exact hxy

end Leaf

namespace Ty

variable {cx : Context Leaf.Val} {s t : Ty} {f e : s.Val → t.Val → Bool}

/-- Equality and equivalence of two types are one, but for leaves, under however many references. -/
theorem equal?_eq_or_leaf (hf : s.equal? cx t = some f) (he : s.equivalent? cx t = some e) :
    f = e ∨ ∃ n a b, s = Ty.ref^[n] (.leaf a) ∧ t = Ty.ref^[n] (.leaf b) ∧
      cx.strategy .equivalent a b ∈
        [Strategy.extension, Strategy.memberFunction, Strategy.nonMemberFunction] := by
  fun_induction equal? cx s t with
  | case1 a b =>
    rcases Context.equivalent?_eq_equal?_or he with h | h
    · exact .inl (Option.some.inj (hf.symm.trans h))
    · exact .inr ⟨0, a, b, rfl, rfl, h⟩
  -- containers are equal as soon as they are equivalent
  | case2 | case3 | case4 | case5 => exact .inl (Option.some.inj (hf.symm.trans he))
  | case6 s t ih =>
    rcases ih hf he with h | ⟨n, a, b, rfl, rfl, h⟩
    · exact .inl h
    · refine .inr ⟨n + 1, a, b, ?_, ?_, h⟩ <;> rw [Function.iterate_succ_apply']
  | case7 => cases hf

theorem equivalent_of_equal (h : cx.Refined) (hf : s.equal? cx t = some f)
    (he : s.equivalent? cx t = some e) (x : s.Val) (y : t.Val) (hxy : f x y = true) :
    e x y = true := by
  fun_induction equal? cx s t with
  | case1 a b => exact h hf he x y hxy
  | case2 | case3 | case4 | case5 =>
    rw [← Option.some.inj (hf.symm.trans he)]
    exact hxy
  | case6 s t ih => exact ih hf he x y hxy
  | case7 => cases hf

end Ty

/-- In either context values that are equal are equivalent, at any depth. The two relations are the
same but for pairs of leaves, under however many references, whose equivalence is supplied by the
context or by one of the two types. -/
theorem equality_refines_equivalence {cx : Context Leaf.Val} (hcx : cx ∈ [Leaf.intrinsic, Leaf.house])
    {s t : Ty} {f e : s.Val → t.Val → Bool} (hf : s.equal? cx t = some f)
    (he : s.equivalent? cx t = some e) :
    (∀ x y, f x y = true → e x y = true) ∧
      (f = e ∨ ∃ n a b, s = Ty.ref^[n] (.leaf a) ∧ t = Ty.ref^[n] (.leaf b) ∧
        cx.strategy .equivalent a b ∈
          [Strategy.extension, Strategy.memberFunction, Strategy.nonMemberFunction]) := by
  refine ⟨fun x y => ?_, Ty.equal?_eq_or_leaf hf he⟩
  have h : cx.Refined := by
    rcases List.mem_pair.1 hcx with rfl | rfl
    · exact Leaf.intrinsic_refined
    · exact Leaf.house_refined
  exact Ty.equivalent_of_equal h hf he x y

/-- Labels that differ in case alone are equivalent and not equal, also behind references, but lists
of them are both. -/
theorem equality_refines_equivalence_labels :
    let label : Ty := .ref (.leaf .label)
    let x : label.Val := "Quay"
    let y : label.Val := "QUAY"
    (∃ f e, label.equal? Leaf.intrinsic label = some f ∧
        label.equivalent? Leaf.intrinsic label = some e ∧ f x y = false ∧ e x y = true ∧
        (f x x = true → e x x = true)) ∧
      ∃ f, (Ty.list label).equal? Leaf.intrinsic (.list label) = some f ∧
        (Ty.list label).equivalent? Leaf.intrinsic (.list label) = some f ∧ f [x, y] [y, x] = true := by
  intro label x y
  have hcx : Leaf.intrinsic ∈ [Leaf.intrinsic, Leaf.house] := List.mem_cons_self
  constructor
  · obtain ⟨f, hf⟩ : ∃ f, label.equal? Leaf.intrinsic label = some f := ⟨_, rfl⟩
    obtain ⟨e, he⟩ : ∃ e, label.equivalent? Leaf.intrinsic label = some e := ⟨_, rfl⟩
    obtain ⟨himp, -⟩ := equality_refines_equivalence hcx hf he
    refine ⟨f, e, hf, he, ?_, ?_, himp x x⟩
    · cases hf
      decide
    · cases he
      decide
  · obtain ⟨f, hf⟩ : ∃ f, (Ty.list label).equal? Leaf.intrinsic (.list label) = some f := ⟨_, rfl⟩
    obtain ⟨e, he⟩ : ∃ e, (Ty.list label).equivalent? Leaf.intrinsic (.list label) = some e :=
      ⟨_, rfl⟩
    obtain ⟨-, hsame | ⟨n, a, b, hlist, -⟩⟩ := equality_refines_equivalence hcx hf he
    · refine ⟨f, hf, hsame ▸ he, ?_⟩
      cases hf
      decide
    · cases n with
      | zero => cases hlist
      | succ n =>
        rw [Function.iterate_succ_apply'] at hlist
        cases hlist

end Collate
