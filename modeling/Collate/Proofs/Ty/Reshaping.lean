import Mathlib.Data.List.Forall2
import Collate.Proofs.Ty.Lifting
import Collate.Ty.Render

namespace Collate

open Relator

variable {α α' β β' R : Type} {r : α → α' → Prop} {q : β → β' → Prop}

theorem rel_self (f : α → R) : ((fun x y => x = y) ⇒ Eq) f f := by
  rintro x _ rfl
  rfl

theorem rel_self₂ (f : α → β → R) :
    ((fun x y => x = y) ⇒ (fun x y => x = y) ⇒ Eq) f f := by
  rintro x _ rfl y _ rfl
  rfl

namespace Sequence

theorem rel_compare :
    ((r ⇒ q ⇒ Eq) ⇒ List.Forall₂ r ⇒ List.Forall₂ q ⇒ Eq) compare compare := by
  intro f f' h xs xs' hx ys ys' hy
  induction hx generalizing ys ys' with
  | nil => cases hy <;> rfl
  | cons hx hxs ih =>
    cases hy with
    | nil => rfl
    | cons hy hys => rw [compare_cons_cons, compare_cons_cons, h hx hy, ih hys]

theorem rel_equivalent :
    ((r ⇒ q ⇒ Eq) ⇒ List.Forall₂ r ⇒ List.Forall₂ q ⇒ Eq) equivalent equivalent := by
  intro f f' h xs xs' hx ys ys' hy
  induction hx generalizing ys ys' with
  | nil => cases hy <;> rfl
  | cons hx hxs ih =>
    cases hy with
    | nil => rfl
    | cons hy hys => rw [equivalent, equivalent, h hx hy, ih hys]

theorem rel_render : ((r ⇒ Eq) ⇒ List.Forall₂ r ⇒ Eq) render render := by
  intro f f' h xs xs' hx
  have hmap : List.Forall₂ Eq (xs.map f) (xs'.map f') := List.rel_map h hx
  rw [List.forall₂_eq_eq_eq] at hmap
  rw [render, render, hmap]

end Sequence

namespace Optional

theorem rel_compare :
    ((r ⇒ q ⇒ Eq) ⇒ Option.Rel r ⇒ Option.Rel q ⇒ Eq) compare compare := by
  intro f f' h x x' hx y y' hy
  cases hx <;> cases hy <;> try rfl
  exact h ‹_› ‹_›

theorem rel_equivalent :
    ((r ⇒ q ⇒ Eq) ⇒ Option.Rel r ⇒ Option.Rel q ⇒ Eq) equivalent equivalent := by
  intro f f' h x x' hx y y' hy
  cases hx <;> cases hy <;> try rfl
  exact h ‹_› ‹_›

theorem rel_render : ((r ⇒ Eq) ⇒ Option.Rel r ⇒ Eq) render render := by
  intro f f' h x x' hx
  cases hx with
  | none => rfl
  | some hx => rw [render, render, h hx]

theorem compare_toList (f : α → β → Outcome) (x : Option α) (y : Option β) :
    Sequence.compare f x.toList y.toList = compare f x y := by
  cases x <;> cases y <;> try rfl
  exact Outcome.andThen_equivalent _

theorem equivalent_toList (f : α → β → Bool) (x : Option α) (y : Option β) :
    Sequence.equivalent f x.toList y.toList = equivalent f x y := by
  cases x <;> cases y <;> try rfl
  exact Bool.and_true _

end Optional

namespace Lifting

/-- Whether answers depend on nothing but the answers on entries, and an optional value is as good as
the sequence of what there is of it. -/
structure Parametric (l : Lifting R) : Prop where
  sequence {α α' β β' : Type} {r : α → α' → Prop} {q : β → β' → Prop} :
    ((r ⇒ q ⇒ Eq) ⇒ List.Forall₂ r ⇒ List.Forall₂ q ⇒ Eq) l.sequence l.sequence
  optional {α α' β β' : Type} {r : α → α' → Prop} {q : β → β' → Prop} :
    ((r ⇒ q ⇒ Eq) ⇒ Option.Rel r ⇒ Option.Rel q ⇒ Eq) l.optional l.optional
  toList {α β : Type} (f : α → β → R) (x : Option α) (y : Option β) :
    l.sequence f x.toList y.toList = l.optional f x y

theorem comparison_parametric : comparison.Parametric :=
  ⟨@Sequence.rel_compare, @Optional.rel_compare, Optional.compare_toList⟩

theorem equivalence_parametric : equivalence.Parametric :=
  ⟨@Sequence.rel_equivalent, @Optional.rel_equivalent, Optional.equivalent_toList⟩

end Lifting

/-- A change of representation: of a list into a view or an array of its entries, by a reference put
on or taken off, of an optional value into the list of what there is of it, or of any of these one
constructor further down. -/
inductive Reshaping where
  | view
  | array
  | ref
  | deref
  | list
  | inside (c : Reshaping)

namespace Reshaping

/-- Whether a change leaves optional values as they are. -/
def keepsOptions : Reshaping → Bool
  | list => false
  | inside c => c.keepsOptions
  | _ => true

/-- What a change makes of a type, and which values it takes to which. All values at the place of an
array have one length. -/
inductive Takes : Reshaping → (s t : Ty) → (s.Val → t.Val → Prop) → Prop where
  | view {t} : Takes .view (.list t) (.view t) fun xs ys => xs = ys
  | array {t} (n) : Takes .array (.list t) (.array n t) fun xs ys => xs = ys.1
  | ref {t} : Takes .ref t (.ref t) fun x y => x = y
  | deref {t} : Takes .deref (.ref t) t fun x y => x = y
  | list {t} : Takes .list (.option t) (.list t) fun x ys => x.toList = ys
  | insideList {c s t r} (h : Takes c s t r) :
      Takes (.inside c) (.list s) (.list t) (List.Forall₂ r)
  | insideView {c s t r} (h : Takes c s t r) :
      Takes (.inside c) (.view s) (.view t) (List.Forall₂ r)
  | insideArray {c s t r} (n) (h : Takes c s t r) :
      Takes (.inside c) (.array n s) (.array n t) fun xs ys => List.Forall₂ r xs.1 ys.1
  | insideOption {c s t r} (h : Takes c s t r) :
      Takes (.inside c) (.option s) (.option t) (Option.Rel r)
  | insideRef {c s t r} (h : Takes c s t r) : Takes (.inside c) (.ref s) (.ref t) r

namespace Takes

variable {c : Reshaping} {s s' t t' : Ty} {r : s.Val → s'.Val → Prop} {q : t.Val → t'.Val → Prop}

/-- One change made to both types leaves a relation in use, with the same answers as before. -/
theorem relate? {l : Lifting R} (hl : l.Parametric)
    {rel : (a b : Leaf) → Option (a.Val → b.Val → R)} (hs : c.Takes s s' r) (ht : c.Takes t t' q)
    {f : s.Val → t.Val → R} (hf : Ty.relate? l rel s t = some f) :
    ∃ f', Ty.relate? l rel s' t' = some f' ∧ (r ⇒ q ⇒ Eq) f f' := by
  induction hs generalizing t t' with
  | view | ref | deref =>
    cases ht
    exact ⟨f, hf, rel_self₂ f⟩
  | array m =>
    cases ht
    obtain ⟨g, hg, rfl⟩ := Option.map_eq_some_iff.1 hf
    refine ⟨_, by rw [Ty.relate?, hg, Option.map_some], ?_⟩
    rintro _ xs rfl _ ys rfl
    rfl
  | list =>
    cases ht
    obtain ⟨g, hg, rfl⟩ := Option.map_eq_some_iff.1 hf
    refine ⟨_, by rw [Ty.relate?, hg, Option.map_some], ?_⟩
    rintro x _ rfl y _ rfl
    exact (hl.toList g x y).symm
  | insideList hs ih | insideView hs ih =>
    cases ht <;> try cases hf
    rename_i ht
    obtain ⟨g, hg, rfl⟩ := Option.map_eq_some_iff.1 hf
    obtain ⟨g', hg', h⟩ := ih ht hg
    exact ⟨_, by rw [Ty.relate?, hg', Option.map_some], hl.sequence h⟩
  | insideArray m hs ih =>
    cases ht <;> try cases hf
    rename_i ht
    obtain ⟨g, hg, rfl⟩ := Option.map_eq_some_iff.1 hf
    obtain ⟨g', hg', h⟩ := ih ht hg
    refine ⟨_, by rw [Ty.relate?, hg', Option.map_some], ?_⟩
    intro xs xs' hx ys ys' hy
    exact hl.sequence h hx hy
  | insideOption hs ih =>
    cases ht <;> try cases hf
    rename_i ht
    obtain ⟨g, hg, rfl⟩ := Option.map_eq_some_iff.1 hf
    obtain ⟨g', hg', h⟩ := ih ht hg
    exact ⟨_, by rw [Ty.relate?, hg', Option.map_some], hl.optional h⟩
  | insideRef hs ih =>
    cases ht <;> try cases hf
    rename_i ht
    exact ih ht hf

variable {cx : Context Leaf.Val}

theorem compare? (hs : c.Takes s s' r) (ht : c.Takes t t' q) {f : s.Val → t.Val → Outcome}
    (hf : s.compare? cx t = some f) : ∃ f', s'.compare? cx t' = some f' ∧ (r ⇒ q ⇒ Eq) f f' := by
  rw [Ty.compare?_eq_relate?] at hf ⊢
  exact hs.relate? Lifting.comparison_parametric ht hf

theorem equivalent? (hs : c.Takes s s' r) (ht : c.Takes t t' q) {f : s.Val → t.Val → Bool}
    (hf : s.equivalent? cx t = some f) :
    ∃ f', s'.equivalent? cx t' = some f' ∧ (r ⇒ q ⇒ Eq) f f' := by
  rw [Ty.equivalent?_eq_relate?] at hf ⊢
  exact hs.relate? Lifting.equivalence_parametric ht hf

/-- A change at the top of a container or inside of it leaves a container, and equality of containers
is equivalence. References are followed down to the first container. -/
theorem equal? (hs : c.Takes s s' r) (ht : c.Takes t t' q) {f : s.Val → t.Val → Bool}
    (hf : s.equal? cx t = some f) : ∃ f', s'.equal? cx t' = some f' ∧ (r ⇒ q ⇒ Eq) f f' := by
  induction hs generalizing t t' with
  | view =>
    cases ht
    exact equivalent? .view .view hf
  | array m =>
    cases ht with
    | array n => exact equivalent? (.array m) (.array n) hf
  | ref | deref =>
    cases ht
    exact ⟨f, hf, rel_self₂ f⟩
  | list =>
    cases ht
    exact equivalent? .list .list hf
  | insideList hs =>
    cases ht <;> try cases hf
    rename_i ht
    exact equivalent? (.insideList hs) (.insideList ht) hf
  | insideView hs =>
    cases ht <;> try cases hf
    rename_i ht
    exact equivalent? (.insideView hs) (.insideView ht) hf
  | insideArray m hs =>
    cases ht <;> try cases hf
    rename_i n ht
    exact equivalent? (.insideArray m hs) (.insideArray n ht) hf
  | insideOption hs =>
    cases ht <;> try cases hf
    rename_i ht
    exact equivalent? (.insideOption hs) (.insideOption ht) hf
  | insideRef hs ih =>
    cases ht <;> try cases hf
    rename_i ht
    exact ih ht hf

/-- What is written does not tell lists, views and arrays from each other, nor shows references. -/
theorem render? (hs : c.Takes s s' r) (hc : c.keepsOptions = true) {f : s.Val → String}
    (hf : s.render? cx = some f) : ∃ f', s'.render? cx = some f' ∧ (r ⇒ Eq) f f' := by
  induction hs with
  | view | ref | deref => exact ⟨f, hf, rel_self f⟩
  | array n =>
    obtain ⟨g, hg, rfl⟩ := Option.map_eq_some_iff.1 hf
    refine ⟨_, by rw [Ty.render?, hg, Option.map_some], ?_⟩
    rintro _ xs rfl
    rfl
  | list => cases hc
  | insideList hs ih | insideView hs ih =>
    obtain ⟨g, hg, rfl⟩ := Option.map_eq_some_iff.1 hf
    obtain ⟨g', hg', h⟩ := ih hc hg
    exact ⟨_, by rw [Ty.render?, hg', Option.map_some], Sequence.rel_render h⟩
  | insideArray n hs ih =>
    obtain ⟨g, hg, rfl⟩ := Option.map_eq_some_iff.1 hf
    obtain ⟨g', hg', h⟩ := ih hc hg
    refine ⟨_, by rw [Ty.render?, hg', Option.map_some], ?_⟩
    intro xs xs' hx
    exact Sequence.rel_render h hx
  | insideOption hs ih =>
    obtain ⟨g, hg, rfl⟩ := Option.map_eq_some_iff.1 hf
    obtain ⟨g', hg', h⟩ := ih hc hg
    exact ⟨_, by rw [Ty.render?, hg', Option.map_some], Optional.rel_render h⟩
  | insideRef hs ih => exact ih hc hf

end Takes
end Reshaping
end Collate
