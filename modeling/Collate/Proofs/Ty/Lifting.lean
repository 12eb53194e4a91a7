import Collate.Proofs.Context
import Collate.Proofs.Sequence
import Collate.Ty.Relate

namespace Collate

/-- How relations of values, which answer in `R`, are carried over to sequences and to optional
values. -/
structure Lifting (R : Type) where
  sequence {α β : Type} : (α → β → R) → List α → List β → R
  optional {α β : Type} : (α → β → R) → Option α → Option β → R

namespace Lifting

variable {R S : Type}

def comparison : Lifting Outcome := ⟨Sequence.compare, Optional.compare⟩

def equivalence : Lifting Bool := ⟨Sequence.equivalent, Optional.equivalent⟩

/-- If exchanging entries turns an answer by `ρ`, so does exchanging what they are entries of. -/
structure Flips (l : Lifting R) (ρ : R → R) : Prop where
  sequence {α β : Type} {f : α → β → R} {g : β → α → R} :
    (∀ x y, f x y = ρ (g y x)) → ∀ xs ys, l.sequence f xs ys = ρ (l.sequence g ys xs)
  optional {α β : Type} {f : α → β → R} {g : β → α → R} :
    (∀ x y, f x y = ρ (g y x)) → ∀ x y, l.optional f x y = ρ (l.optional g y x)

/-- Whatever holds between the three answers on any three entries also holds between those on what
they are entries of. -/
structure Chains (l : Lifting R) (C : R → R → R → Prop) : Prop where
  sequence {α β γ : Type} {f : α → β → R} {g : β → γ → R} {k : α → γ → R} :
    (∀ x y z, C (f x y) (g y z) (k x z)) →
      ∀ xs ys zs, C (l.sequence f xs ys) (l.sequence g ys zs) (l.sequence k xs zs)
  optional {α β γ : Type} {f : α → β → R} {g : β → γ → R} {k : α → γ → R} :
    (∀ x y z, C (f x y) (g y z) (k x z)) →
      ∀ x y z, C (l.optional f x y) (l.optional g y z) (l.optional k x z)

/-- Reading the answers on entries by `h` is as good as reading the answer on the whole by it. -/
structure Maps (l : Lifting R) (l' : Lifting S) (h : R → S) : Prop where
  sequence {α β : Type} (f : α → β → R) (xs : List α) (ys : List β) :
    h (l.sequence f xs ys) = l'.sequence (fun x y => h (f x y)) xs ys
  optional {α β : Type} (f : α → β → R) (x : Option α) (y : Option β) :
    h (l.optional f x y) = l'.optional (fun x y => h (f x y)) x y

theorem comparison_flips : comparison.Flips Outcome.flip :=
  ⟨Sequence.compare_flip, Optional.compare_flip⟩

theorem equivalence_flips : equivalence.Flips id :=
  ⟨Sequence.equivalent_comm, Optional.equivalent_comm⟩

theorem comparison_chains :
    comparison.Chains fun o p q => Outcome.Concordant o p → q = o.andThen p :=
  ⟨fun h _ _ _ => Sequence.compare_trans h, fun h _ _ _ => Optional.compare_trans h⟩

theorem equivalence_chains :
    equivalence.Chains fun p q r => p = true → q = true → r = true :=
  ⟨fun h _ _ _ => Sequence.equivalent_trans h, fun h _ _ _ => Optional.equivalent_trans h⟩

theorem comparison_maps_isEq : comparison.Maps equivalence Outcome.isEq :=
  ⟨Sequence.isEq_compare, Optional.isEq_compare⟩

end Lifting

namespace Ty

/-- The leaf that a type is built over. -/
def base : Ty → Leaf
  | leaf a => a
  | list t => t.base
  | view t => t.base
  | array _ t => t.base
  | option t => t.base
  | ref t => t.base

/-- Whether two types are built alike, be their leaves and the lengths of their arrays what they
may. -/
def alike : Ty → Ty → Bool
  | leaf _, leaf _ => true
  | list s, list t => alike s t
  | view s, view t => alike s t
  | array _ s, array _ t => alike s t
  | option s, option t => alike s t
  | ref s, ref t => alike s t
  | _, _ => false

theorem alike_comm (s t : Ty) : s.alike t = t.alike s := by
  induction s generalizing t with
  | leaf a => cases t <;> rfl
  | list s ih | view s ih | option s ih | array _ s ih | ref s ih =>
    cases t <;> try rfl
    exact ih _

section Relate

variable {R S : Type} (l : Lifting R) (rel : (a b : Leaf) → Option (a.Val → b.Val → R))

/-- A relation of leaves carried over to all types that are built alike. -/
def relate? : (s t : Ty) → Option (s.Val → t.Val → R)
  | leaf a, leaf b => rel a b
  | list s, list t => (relate? s t).map fun f => l.sequence f
  | view s, view t => (relate? s t).map fun f => l.sequence f
  | array _ s, array _ t => (relate? s t).map fun f xs ys => l.sequence f xs.1 ys.1
  | option s, option t => (relate? s t).map fun f => l.optional f
  | ref s, ref t => relate? s t
  | _, _ => none

theorem isSome_relate? (s t : Ty) :
    (relate? l rel s t).isSome = (s.alike t && (rel s.base t.base).isSome) := by
  induction s generalizing t with
  | leaf a => cases t <;> rfl
  | list s ih | view s ih | option s ih | array _ s ih =>
    cases t <;> try rfl
    rw [relate?, Option.isSome_map, ih]
    rfl
  | ref s ih =>
    cases t <;> try rfl
    exact ih _

theorem isSome_relate?_comm (h : ∀ a b, (rel a b).isSome = (rel b a).isSome) (s t : Ty) :
    (relate? l rel s t).isSome = (relate? l rel t s).isSome := by
  rw [isSome_relate?, isSome_relate?, alike_comm, h]

variable {l rel}

/-- On two types a relation depends on what it is on their leaves, and on no other pair. -/
theorem relate?_congr {rel' : (a b : Leaf) → Option (a.Val → b.Val → R)} (s t : Ty)
    (h : rel' s.base t.base = rel s.base t.base) : relate? l rel' s t = relate? l rel s t := by
  induction s generalizing t with
  | leaf a =>
    cases t <;> try rfl
    exact h
  | list s ih | view s ih | option s ih | array _ s ih =>
    cases t <;> try rfl
    exact congrArg (Option.map _) (ih _ h)
  | ref s ih =>
    cases t <;> try rfl
    exact ih _ h

theorem relate?_reverses {ρ : R → R} (hl : l.Flips ρ) (hrel : Reverses ρ rel) :
    Reverses ρ (relate? l rel) := by
  intro s t f g hf hg x y
  fun_induction relate? l rel s t with
  | case1 a b => exact hrel hf hg x y
  | case2 s t ih | case3 s t ih =>
    obtain ⟨f₀, hf₀, rfl⟩ := Option.map_eq_some_iff.1 hf
    obtain ⟨g₀, hg₀, rfl⟩ := Option.map_eq_some_iff.1 hg
    exact hl.sequence (ih hf₀ hg₀) x y
  | case4 m s n t ih =>
    obtain ⟨f₀, hf₀, rfl⟩ := Option.map_eq_some_iff.1 hf
    obtain ⟨g₀, hg₀, rfl⟩ := Option.map_eq_some_iff.1 hg
    exact hl.sequence (ih hf₀ hg₀) x.1 y.1
  | case5 s t ih =>
    obtain ⟨f₀, hf₀, rfl⟩ := Option.map_eq_some_iff.1 hf
    obtain ⟨g₀, hg₀, rfl⟩ := Option.map_eq_some_iff.1 hg
    exact hl.optional (ih hf₀ hg₀) x y
  | case6 s t ih => exact ih hf hg x y
  | case7 => cases hf

/-- What holds between the answers on any three values of leaves holds between those on values of
any three types. -/
theorem relate?_chain {C : R → R → R → Prop} (hl : l.Chains C) {s t u : Ty}
    (hbase : ∀ f g k, rel s.base t.base = some f → rel t.base u.base = some g →
      rel s.base u.base = some k → ∀ x y z, C (f x y) (g y z) (k x z))
    {f : s.Val → t.Val → R} {g : t.Val → u.Val → R} {k : s.Val → u.Val → R}
    (hf : relate? l rel s t = some f) (hg : relate? l rel t u = some g)
    (hk : relate? l rel s u = some k) (x : s.Val) (y : t.Val) (z : u.Val) :
    C (f x y) (g y z) (k x z) := by
  fun_induction relate? l rel s t generalizing u with
  | case1 a b =>
    cases u <;> try cases hg
    exact hbase f g k hf hg hk x y z
  | case2 s t ih | case3 s t ih =>
    cases u <;> try cases hg
    obtain ⟨f₀, hf₀, rfl⟩ := Option.map_eq_some_iff.1 hf
    obtain ⟨g₀, hg₀, rfl⟩ := Option.map_eq_some_iff.1 hg
    obtain ⟨k₀, hk₀, rfl⟩ := Option.map_eq_some_iff.1 hk
    refine hl.sequence (ih ?_ hf₀ hg₀ hk₀) x y z
    exact hbase
  | case4 m s n t ih =>
    cases u <;> try cases hg
    obtain ⟨f₀, hf₀, rfl⟩ := Option.map_eq_some_iff.1 hf
    obtain ⟨g₀, hg₀, rfl⟩ := Option.map_eq_some_iff.1 hg
    obtain ⟨k₀, hk₀, rfl⟩ := Option.map_eq_some_iff.1 hk
    refine hl.sequence (ih ?_ hf₀ hg₀ hk₀) x.1 y.1 z.1
    exact hbase
  | case5 s t ih =>
    cases u <;> try cases hg
    obtain ⟨f₀, hf₀, rfl⟩ := Option.map_eq_some_iff.1 hf
    obtain ⟨g₀, hg₀, rfl⟩ := Option.map_eq_some_iff.1 hg
    obtain ⟨k₀, hk₀, rfl⟩ := Option.map_eq_some_iff.1 hk
    refine hl.optional (ih ?_ hf₀ hg₀ hk₀) x y z
    exact hbase
  | case6 s t ih =>
    cases u <;> try cases hg
    refine ih ?_ hf hg hk x y z
    exact hbase
  | case7 => cases hf

/-- If one relation of leaves is another one read by `h`, then so it is on every type. -/
theorem relate?_map {l' : Lifting S} {rel' : (a b : Leaf) → Option (a.Val → b.Val → S)}
    {h : R → S} (hl : l.Maps l' h) (s t : Ty)
    (hbase : rel' s.base t.base = (rel s.base t.base).map fun f x y => h (f x y)) :
    relate? l' rel' s t = (relate? l rel s t).map fun f x y => h (f x y) := by
  induction s generalizing t with
  | leaf a =>
    cases t <;> try rfl
    exact hbase
  | list s ih | view s ih | array _ s ih =>
    cases t <;> try rfl
    rename_i t
    rw [relate?, relate?, ih t hbase, Option.map_map, Option.map_map]
    exact congrArg (Option.map · _) (funext fun f => funext₂ fun xs ys => (hl.sequence ..).symm)
  | option s ih =>
    cases t <;> try rfl
    rename_i t
    rw [relate?, relate?, ih t hbase, Option.map_map, Option.map_map]
    exact congrArg (Option.map · _) (funext fun f => funext₂ fun x y => (hl.optional ..).symm)
  | ref s ih =>
    cases t <;> try rfl
    exact ih _ hbase

/-- Equality of leaves carried over to a type is equality of its values. -/
theorem relate?_self {e : (a b : Leaf) → Option (a.Val → b.Val → Bool)} (t : Ty)
    (h : ∃ f, e t.base t.base = some f ∧ ∀ x y, f x y = true ↔ x = y) :
    ∃ f, relate? .equivalence e t t = some f ∧ ∀ x y, f x y = true ↔ x = y := by
  induction t with
  | leaf a => exact h
  | list t ih | view t ih =>
    obtain ⟨f, hf, heq⟩ := ih h
    refine ⟨Lifting.equivalence.sequence f, by rw [relate?, hf, Option.map_some], ?_⟩
    exact Sequence.equivalent_eq_true_iff heq
  | array n t ih =>
    obtain ⟨f, hf, heq⟩ := ih h
    refine ⟨fun xs ys => Lifting.equivalence.sequence f xs.1 ys.1,
      by rw [relate?, hf, Option.map_some], fun xs ys => ?_⟩
    rw [Subtype.ext_iff]
    exact Sequence.equivalent_eq_true_iff heq xs.1 ys.1
  | option t ih =>
    obtain ⟨f, hf, heq⟩ := ih h
    refine ⟨Lifting.equivalence.optional f, by rw [relate?, hf, Option.map_some], ?_⟩
    exact Optional.equivalent_eq_true_iff heq
  | ref t ih => exact ih h

end Relate

section Context

variable (cx : Context Leaf.Val) (s t : Ty)

theorem compare?_eq_relate? : s.compare? cx t = relate? .comparison cx.compare? s t := by
  induction s generalizing t with
  | leaf a => cases t <;> rfl
  | list s ih | view s ih | option s ih | array _ s ih =>
    cases t <;> try rfl
    rw [compare?, ih]
    rfl
  | ref s ih =>
    cases t <;> try rfl
    exact ih _

theorem equivalent?_eq_relate? :
    s.equivalent? cx t = relate? .equivalence cx.equivalent? s t := by
  induction s generalizing t with
  | leaf a => cases t <;> rfl
  | list s ih | view s ih | option s ih | array _ s ih =>
    cases t <;> try rfl
    rw [equivalent?, ih]
    rfl
  | ref s ih =>
    cases t <;> try rfl
    exact ih _

/-- Equality asks containers for equivalence already, so the two are one where leaves make no
difference between them. -/
theorem equal?_eq_equivalent? (h : cx.equal? s.base t.base = cx.equivalent? s.base t.base) :
    s.equal? cx t = s.equivalent? cx t := by
  induction s generalizing t with
  | leaf a =>
    cases t <;> try rfl
    exact h
  | list s | view s | option s | array _ s => cases t <;> rfl
  | ref s ih =>
    cases t <;> try rfl
    exact ih _ h

end Context

end Ty
end Collate
