import Collate.Optional
import Collate.Proofs.Outcome
import Collate.Sequence

namespace Collate

variable {α β γ : Type}

namespace Sequence

theorem compare_cons_cons (f : α → β → Outcome) (x : α) (xs : List α) (y : β) (ys : List β) :
    compare f (x :: xs) (y :: ys) = (f x y).andThen (compare f xs ys) := rfl

theorem compare_ofOrdering (cmp : α → α → Ordering) (xs ys : List α) :
    compare (fun x y => .ofOrdering (cmp x y)) xs ys = .ofOrdering (List.compareLex cmp xs ys) := by
  induction xs generalizing ys with
  | nil => cases ys <;> rfl
  | cons x xs ih =>
    cases ys with
    | nil => rfl
    | cons y ys =>
      rw [compare_cons_cons, ih, List.compareLex_cons_cons, Outcome.ofOrdering_then]
      rfl

theorem compare_map {α' β' : Type} (f : α' → β' → Outcome) (u : α → α') (v : β → β') (xs : List α)
    (ys : List β) : compare f (xs.map u) (ys.map v) = compare (fun x y => f (u x) (v y)) xs ys := by
  induction xs generalizing ys with
  | nil => cases ys <;> rfl
  | cons x xs ih =>
    cases ys with
    | nil => rfl
    | cons y ys => rw [List.map_cons, List.map_cons, compare_cons_cons, compare_cons_cons, ih]

/-- Words of which none is empty may stand for entries as long as every word decides as its entry
does, whatever follows it. -/
theorem compare_flatMap {α' β' : Type} {f : α' → β' → Outcome} {g : α → β → Outcome}
    {u : α → List α'} {v : β → List β'} (hu : ∀ x, u x ≠ []) (hv : ∀ y, v y ≠ [])
    (h : ∀ x y r s, compare f (u x ++ r) (v y ++ s) = (g x y).andThen (compare f r s))
    (xs : List α) (ys : List β) : compare f (xs.flatMap u) (ys.flatMap v) = compare g xs ys := by
  induction xs generalizing ys with
  | nil =>
    cases ys with
    | nil => rfl
    | cons y ys =>
      obtain ⟨b, bs, hb⟩ := List.exists_cons_of_ne_nil (hv y)
      rw [List.flatMap_cons, hb]
      rfl
  | cons x xs ih =>
    cases ys with
    | nil =>
      obtain ⟨a, as, ha⟩ := List.exists_cons_of_ne_nil (hu x)
      rw [List.flatMap_cons, ha]
      rfl
    | cons y ys => rw [List.flatMap_cons, List.flatMap_cons, h, ih, compare_cons_cons]

theorem compare_flip {f : α → β → Outcome} {g : β → α → Outcome}
    (h : ∀ x y, f x y = (g y x).flip) (xs : List α) (ys : List β) :
    compare f xs ys = (compare g ys xs).flip := by
  induction xs generalizing ys with
  | nil => cases ys <;> rfl
  | cons x xs ih =>
    cases ys with
    | nil => rfl
    | cons y ys =>
      rw [compare_cons_cons, compare_cons_cons, Outcome.flip_andThen, h, ih]

theorem equivalent_comm {f : α → β → Bool} {g : β → α → Bool} (h : ∀ x y, f x y = g y x)
    (xs : List α) (ys : List β) : equivalent f xs ys = equivalent g ys xs := by
  induction xs generalizing ys with
  | nil => cases ys <;> rfl
  | cons x xs ih =>
    cases ys with
    | nil => rfl
    | cons y ys => rw [equivalent, equivalent, h, ih]

theorem equivalent_eq_true_iff {e : α → α → Bool} (he : ∀ x y, e x y = true ↔ x = y)
    (xs ys : List α) : equivalent e xs ys = true ↔ xs = ys := by
  induction xs generalizing ys with
  | nil => cases ys <;> simp [equivalent]
  | cons x xs ih =>
    cases ys with
    | nil => simp [equivalent]
    | cons y ys => rw [equivalent, Bool.and_eq_true, he, ih, List.cons.injEq]

/-- If the relations of entries chain, so do those of sequences. -/
theorem equivalent_trans {f : α → β → Bool} {g : β → γ → Bool} {k : α → γ → Bool}
    (h : ∀ x y z, f x y = true → g y z = true → k x z = true) {xs : List α} {ys : List β}
    {zs : List γ} (hxy : equivalent f xs ys = true) (hyz : equivalent g ys zs = true) :
    equivalent k xs zs = true := by
  induction xs generalizing ys zs with
  | nil =>
    cases ys with
    | nil =>
      cases zs with
      | nil => rfl
      | cons z zs => cases hyz
    | cons y ys => cases hxy
  | cons x xs ih =>
    cases ys with
    | nil => cases hxy
    | cons y ys =>
      cases zs with
      | nil => cases hyz
      | cons z zs =>
        rw [equivalent, Bool.and_eq_true] at hxy hyz ⊢
        exact ⟨h x y z hxy.1 hyz.1, ih hxy.2 hyz.2⟩

theorem equivalent_self_iff (e : α → α → Bool) (xs : List α) :
    equivalent e xs xs = true ↔ ∀ x ∈ xs, e x x = true := by
  induction xs with
  | nil => simp [equivalent]
  | cons x xs ih => rw [equivalent, Bool.and_eq_true, ih, List.forall_mem_cons]

theorem isEq_compare (f : α → β → Outcome) (xs : List α) (ys : List β) :
    (compare f xs ys).isEq = equivalent (fun x y => (f x y).isEq) xs ys := by
  induction xs generalizing ys with
  | nil => cases ys <;> rfl
  | cons x xs ih =>
    cases ys with
    | nil => rfl
    | cons y ys =>
      rw [compare_cons_cons, equivalent, ← ih]
      cases f x y <;> rfl

/-- If the comparisons of entries chain, so do those of sequences. -/
theorem compare_trans {f : α → β → Outcome} {g : β → γ → Outcome} {k : α → γ → Outcome}
    (h : ∀ x y z, Outcome.Concordant (f x y) (g y z) → k x z = (f x y).andThen (g y z))
    {xs : List α} {ys : List β} {zs : List γ}
    (hc : Outcome.Concordant (compare f xs ys) (compare g ys zs)) :
    compare k xs zs = (compare f xs ys).andThen (compare g ys zs) := by
  induction xs generalizing ys zs with
  | nil =>
    cases ys with
    | nil => cases zs <;> rfl
    | cons y ys =>
      cases zs with
      | nil => exact absurd hc (by decide : ¬Outcome.Concordant .less .greater)
      | cons z zs => rfl
  | cons x xs ih =>
    cases ys with
    | nil =>
      cases zs with
      | nil => rfl
      | cons z zs => exact absurd hc (by decide : ¬Outcome.Concordant .greater .less)
    | cons y ys =>
      cases zs with
      | nil => exact hc.andThen_greater.symm
      | cons z zs =>
        -- the outer two are first decided where either is first decided against the middle one
        rw [compare_cons_cons, compare_cons_cons] at hc ⊢
        rw [compare_cons_cons, hc.andThen_comm, h x y z hc.of_andThen]
        apply Outcome.andThen_congr
        intro he
        obtain ⟨hf, hg⟩ := Outcome.andThen_eq_equivalent_iff.1 he
        rw [hf, hg] at hc
        exact ih hc

end Sequence

namespace Optional

theorem compare_flip {f : α → β → Outcome} {g : β → α → Outcome}
    (h : ∀ x y, f x y = (g y x).flip) (x : Option α) (y : Option β) :
    compare f x y = (compare g y x).flip := by
  cases x <;> cases y <;> try rfl
  exact h ..

theorem equivalent_comm {f : α → β → Bool} {g : β → α → Bool} (h : ∀ x y, f x y = g y x)
    (x : Option α) (y : Option β) : equivalent f x y = equivalent g y x := by
  cases x <;> cases y <;> try rfl
  exact h ..

theorem equivalent_eq_true_iff {e : α → α → Bool} (he : ∀ x y, e x y = true ↔ x = y)
    (x y : Option α) : equivalent e x y = true ↔ x = y := by
  cases x <;> cases y <;> simp [equivalent, he]

theorem equivalent_trans {f : α → β → Bool} {g : β → γ → Bool} {k : α → γ → Bool}
    (h : ∀ x y z, f x y = true → g y z = true → k x z = true) {x : Option α} {y : Option β}
    {z : Option γ} (hxy : equivalent f x y = true) (hyz : equivalent g y z = true) :
    equivalent k x z = true := by
  cases x with
  | none =>
    cases y with
    | none =>
      cases z with
      | none => rfl
      | some z => cases hyz
    | some y => cases hxy
  | some x =>
    cases y with
    | none => cases hxy
    | some y =>
      cases z with
      | none => cases hyz
      | some z => exact h x y z hxy hyz

theorem equivalent_self_iff (e : α → α → Bool) (x : Option α) :
    equivalent e x x = true ↔ ∀ y ∈ x, e y y = true := by
  cases x <;> simp [equivalent]

theorem isEq_compare (f : α → β → Outcome) (x : Option α) (y : Option β) :
    (compare f x y).isEq = equivalent (fun x y => (f x y).isEq) x y := by
  cases x <;> cases y <;> rfl

theorem compare_trans {f : α → β → Outcome} {g : β → γ → Outcome} {k : α → γ → Outcome}
    (h : ∀ x y z, Outcome.Concordant (f x y) (g y z) → k x z = (f x y).andThen (g y z))
    {x : Option α} {y : Option β} {z : Option γ}
    (hc : Outcome.Concordant (compare f x y) (compare g y z)) :
    compare k x z = (compare f x y).andThen (compare g y z) := by
  rcases x with _ | x <;> rcases y with _ | y <;> rcases z with _ | z
  · rfl
  · rfl
  · exact absurd hc (by decide : ¬Outcome.Concordant .less .greater)
  · rfl
  · rfl
  · exact absurd hc (by decide : ¬Outcome.Concordant .greater .less)
  · exact hc.andThen_greater.symm
  · exact h x y z hc

end Optional
end Collate
