import Mathlib.Data.List.Forall2
import Collate.Leaf.Contexts
import Collate.Ty.Relate

namespace Collate

namespace Sequence

variable {α β : Type}

/-- Whether two sequences are equally long and their entries related at every place. -/
def Pointwise (e : α → β → Bool) (xs : List α) (ys : List β) : Prop :=
  xs.length = ys.length ∧ ∀ i (hx : i < xs.length) (hy : i < ys.length), e xs[i] ys[i] = true

theorem equivalent_iff_forall₂ (e : α → β → Bool) (xs : List α) (ys : List β) :
    equivalent e xs ys = true ↔ List.Forall₂ (fun x y => e x y = true) xs ys := by
  induction xs generalizing ys with
  | nil => cases ys <;> simp [equivalent]
  | cons x xs ih =>
    cases ys with
    | nil => simp [equivalent]
    | cons y ys => rw [equivalent, Bool.and_eq_true, ih, List.forall₂_cons]

theorem equivalent_iff_pointwise (e : α → β → Bool) (xs : List α) (ys : List β) :
    equivalent e xs ys = true ↔ Pointwise e xs ys := by
  rw [equivalent_iff_forall₂, List.forall₂_iff_get]
  rfl

end Sequence

/-- Whatever relation counts as the equivalence of entries, two sequences are equal, and equivalent,
exactly if they are equally long and their entries equivalent at every place. So it is in every
context and for all kinds of sequences, whatever the context takes for the equality of entries. -/
theorem sequences_equal_pointwise :
    (∀ {α β : Type} (e : α → β → Bool) (xs : List α) (ys : List β),
        (Sequence.equal e xs ys = true ↔ Sequence.Pointwise e xs ys) ∧
          (Sequence.equivalent e xs ys = true ↔ Sequence.Pointwise e xs ys)) ∧
      ∀ (cx : Context Leaf.Val) {s t : Ty} {e : s.Val → t.Val → Bool},
        s.equivalent? cx t = some e →
          ∃ p : List s.Val → List t.Val → Bool,
            (∀ xs ys, p xs ys = true ↔ Sequence.Pointwise e xs ys) ∧
              ((Ty.list s).equal? cx (.list t) = some p ∧
                (Ty.list s).equivalent? cx (.list t) = some p) ∧
              ((Ty.view s).equal? cx (.view t) = some p ∧
                (Ty.view s).equivalent? cx (.view t) = some p) ∧
              ∀ m n, (Ty.array m s).equal? cx (.array n t) = some (fun xs ys => p xs.1 ys.1) ∧
                (Ty.array m s).equivalent? cx (.array n t) = some fun xs ys => p xs.1 ys.1 := by
  constructor
  · intro α β e xs ys
    exact ⟨Sequence.equivalent_iff_pointwise e xs ys, Sequence.equivalent_iff_pointwise e xs ys⟩
  · intro cx s t e he
    refine ⟨Sequence.equivalent e, Sequence.equivalent_iff_pointwise e, ?_, ?_, fun m n => ?_⟩
    all_goals
      rw [Ty.equal?, Ty.equivalent?, he]
      exact ⟨rfl, rfl⟩

/-- Labels that differ in case alone are not equal, but lists of them are, if they are equally
long. -/
theorem sequences_equal_pointwise_labels :
    let label : Ty := .leaf .label
    ∃ f p, label.equal? Leaf.intrinsic label = some f ∧ f "Quay" "QUAY" = false ∧
      (Ty.list label).equal? Leaf.intrinsic (.list label) = some p ∧
      p ["Quay", "pier"] ["QUAY", "Pier"] = true ∧ p ["Quay"] ["QUAY", "Pier"] = false := by
  intro label
  obtain ⟨f, hf⟩ : ∃ f, label.equal? Leaf.intrinsic label = some f := ⟨_, rfl⟩
  obtain ⟨e, he⟩ : ∃ e, label.equivalent? Leaf.intrinsic label = some e := ⟨_, rfl⟩
  obtain ⟨p, hp, ⟨hlist, -⟩, -⟩ := sequences_equal_pointwise.2 Leaf.intrinsic he
  have hne : f "Quay" "QUAY" = false := by
    cases hf
    decide
  have hquay : e "Quay" "QUAY" = true := by
    cases he
    decide
  have hpier : e "pier" "Pier" = true := by
    cases he
    decide
  refine ⟨f, p, hf, hne, hlist, (hp _ _).2 ⟨rfl, fun i hx _ => ?_⟩, ?_⟩
  · match i, hx with
    | 0, _ => exact hquay
    | 1, _ => exact hpier
  · rw [← Bool.not_eq_true, hp]
    rintro ⟨hlength, -⟩
    cases hlength

end Collate
