import Collate.Datum
import Collate.Leaf.Contexts
import Collate.Proofs.Resolution
import Collate.Proofs.Ty.Rendering

namespace Collate

/-- Whether two partial answers do not contradict each other. -/
def Consistent {α : Type} (p q : Option α) : Prop := p.isSome = true → q.isSome = true → q = p

namespace Consistent

variable {α β : Type} {p q : Option α}

theorem of_eq (h : q = p) : Consistent p q := fun _ _ => h

theorem map (h : Consistent p q) (f : α → β) : Consistent (p.map f) (q.map f) := by
  intro hp hq
  rw [Option.isSome_map] at hp hq
  rw [h hp hq]

end Consistent

namespace Context

variable {τ : Type} {V : τ → Type} {cx cx' : Context V} {op : Operation} {a b : τ}

theorem operation?_eq_resolve (op : Operation) (h : (cx.operation? op a b).isSome = true) :
    cx.operation? op a b = (cx.ladder op a b).resolve := operation?_eq (uses_of_isSome h)

/-- Where two contexts both use an operation, it depends on what there is to carry it out by. -/
theorem operation?_consistent (op : Operation) (hl : cx'.ladder op a b = cx.ladder op a b) :
    Consistent (cx.operation? op a b) (cx'.operation? op a b) := by
  intro h h'
  rw [operation?_eq_resolve op h, operation?_eq_resolve op h', hl]

/-- Whether two contexts, whatever they add for other types, add the same for `a` and `b` to the
same offers. For equivalence that includes equality, on which it falls back. -/
def AddsAlike (cx cx' : Context V) (a b : τ) : Operation → Prop
  | .equal => cx'.extensions.equal a b = cx.extensions.equal a b
  | .equivalent =>
    cx'.extensions.equal a b = cx.extensions.equal a b ∧
      cx'.extensions.equivalent a b = cx.extensions.equivalent a b
  | .compare => cx'.extensions.compare a b = cx.extensions.compare a b
  | .render => cx'.extensions.render a = cx.extensions.render a
  | .swap => cx'.extensions.swap a = cx.extensions.swap a

theorem equal?_consistent (ho : cx'.offers = cx.offers) (he : AddsAlike cx cx' a b .equal) :
    Consistent (cx.equal? a b) (cx'.equal? a b) := by
  have hl : cx'.equalLadder a b = cx.equalLadder a b := by rw [equalLadder, equalLadder, ho, he]
  exact operation?_consistent .equal hl

/-- Equality has a say in equivalence only where nothing better is there, and then it is in use in
both contexts. -/
theorem equivalent?_consistent (ho : cx'.offers = cx.offers)
    (he : AddsAlike cx cx' a b .equivalent) :
    Consistent (cx.equivalent? a b) (cx'.equivalent? a b) := by
  intro h h'
  have hr : cx.equivalent? a b = (cx.equivalentLadder a b).resolve :=
    operation?_eq_resolve .equivalent h
  have hr' : cx'.equivalent? a b = (cx'.equivalentLadder a b).resolve :=
    operation?_eq_resolve .equivalent h'
  rw [hr] at h ⊢
  rw [hr'] at h' ⊢
  simp only [Ladder.resolve, equivalentLadder, ho, he.2] at h h' ⊢
  revert h h'
  cases cx.extensions.equivalent a b with
  | some e => exact Consistent.of_eq rfl
  | none =>
    cases cx.offers.equivalent a b with
    | some m => exact Consistent.of_eq rfl
    | none =>
      cases cx.offers.equivalent b a with
      | some m => exact Consistent.of_eq rfl
      | none => exact equal?_consistent ho he.1

/-- Contexts that add the same for `a` and `b` use an operation on them alike, where both use it. -/
theorem AddsAlike.consistent (he : AddsAlike cx cx' a b op) (ho : cx'.offers = cx.offers) :
    Consistent (cx.operation? op a b) (cx'.operation? op a b) := by
  cases op with
  | equal => exact equal?_consistent ho he
  | equivalent => exact equivalent?_consistent ho he
  | compare =>
    have hl : cx'.compareLadder a b = cx.compareLadder a b := by
      rw [compareLadder, compareLadder, ho, he]
    exact operation?_consistent .compare hl
  | render =>
    have hl : cx'.renderLadder a = cx.renderLadder a := by
      rw [renderLadder, renderLadder, ho, he]
    exact operation?_consistent .render (b := b) hl
  | swap =>
    have hl : cx'.swapLadder a = cx.swapLadder a := by
      rw [swapLadder, swapLadder, ho, he]
    exact operation?_consistent .swap (b := b) hl

end Context

namespace Ty

variable {cx cx' : Context Leaf.Val} {s t : Ty}

theorem relate?_consistent {R : Type} {l : Lifting R}
    {rel rel' : (a b : Leaf) → Option (a.Val → b.Val → R)}
    (hbase : Consistent (rel s.base t.base) (rel' s.base t.base)) :
    Consistent (relate? l rel s t) (relate? l rel' s t) := by
  intro h h'
  rw [isSome_relate?, Bool.and_eq_true] at h h'
  exact relate?_congr s t (hbase h.2 h'.2)

theorem compare?_consistent (ho : cx'.offers = cx.offers)
    (he : cx.AddsAlike cx' s.base t.base .compare) :
    Consistent (s.compare? cx t) (s.compare? cx' t) := by
  rw [compare?_eq_relate?, compare?_eq_relate?]
  exact relate?_consistent (he.consistent ho)

theorem equivalent?_consistent (ho : cx'.offers = cx.offers)
    (he : cx.AddsAlike cx' s.base t.base .equivalent) :
    Consistent (s.equivalent? cx t) (s.equivalent? cx' t) := by
  rw [equivalent?_eq_relate?, equivalent?_eq_relate?]
  exact relate?_consistent (he.consistent ho)

theorem equal?_consistent (ho : cx'.offers = cx.offers)
    (he : cx.AddsAlike cx' s.base t.base .equivalent) :
    Consistent (s.equal? cx t) (s.equal? cx' t) := by
  induction s generalizing t with
  | leaf a =>
    cases t <;> try exact .of_eq rfl
    exact Context.equal?_consistent ho he.1
  | list s | view s | option s | array _ s =>
    -- containers ask what is inside for equivalence
    cases t <;> try exact .of_eq rfl
    rename_i t
    have hst : Consistent (s.equivalent? cx t) (s.equivalent? cx' t) :=
      equivalent?_consistent ho he
    exact hst.map _
  | ref s ih =>
    cases t <;> try exact .of_eq rfl
    exact ih he

theorem render?_consistent (ho : cx'.offers = cx.offers)
    (he : cx.AddsAlike cx' t.base t.base .render) :
    Consistent (t.render? cx) (t.render? cx') := by
  intro h h'
  rw [isSome_render?] at h h'
  exact render?_congr t (he.consistent ho h h')

/-- The leaf that an exchange gets to the bottom of, which takes arrays all the way down. -/
def exchanged? : Ty → Option Leaf
  | leaf a => some a
  | array _ t => t.exchanged?
  | _ => none

theorem swap?_consistent (ho : cx'.offers = cx.offers)
    (he : ∀ a, t.exchanged? = some a → cx.AddsAlike cx' a a .swap) :
    Consistent (t.swap? cx) (t.swap? cx') := by
  induction t with
  | leaf a => exact (he a rfl).consistent ho
  | array n t ih => exact (ih he).map _
  | list t | view t | option t | ref t => exact .of_eq rfl

end Ty

theorem Datum.swap?_consistent {cx cx' : Context Leaf.Val} {x y : Datum}
    (ho : cx'.offers = cx.offers)
    (he : ∀ a, x.type.exchanged? = some a → cx.AddsAlike cx' a a .swap) :
    Consistent (x.swap? cx y) (x.swap? cx' y) := by
  by_cases hy : y.type = x.type
  · rw [swap?, swap?, dif_pos hy, dif_pos hy]
    exact (Ty.swap?_consistent ho he).map _
  · rw [swap?, swap?, dif_neg hy, dif_neg hy]
    exact .of_eq rfl

/-- In a context that adds nothing of its own for the two leaf types that meet, every operation
gives what it gives where no context changes anything, at any depth and whatever the context adds for
other pairs, be it for each of the two leaf types and itself. -/
theorem results_isolated {cx : Context Leaf.Val} (ho : cx.offers = Leaf.intrinsic.offers)
    (x y : Datum) :
    (cx.extensions.compare x.type.base y.type.base = none →
        Consistent (x.compare? Leaf.intrinsic y) (x.compare? cx y)) ∧
      (cx.extensions.equal x.type.base y.type.base = none →
        cx.extensions.equivalent x.type.base y.type.base = none →
        Consistent (x.equal? Leaf.intrinsic y) (x.equal? cx y) ∧
          Consistent (x.equivalent? Leaf.intrinsic y) (x.equivalent? cx y)) ∧
      (cx.extensions.render x.type.base = none →
        Consistent (x.render? Leaf.intrinsic) (x.render? cx)) ∧
      ((∀ a, x.type.exchanged? = some a → cx.extensions.swap a = none) →
        Consistent (x.swap? Leaf.intrinsic y) (x.swap? cx y)) := by
  refine ⟨fun he => ?_, fun he he' => ⟨?_, ?_⟩, fun he => ?_, fun he => ?_⟩
  · exact (Ty.compare?_consistent ho he).map _
  · exact (Ty.equal?_consistent ho ⟨he, he'⟩).map _
  · exact (Ty.equivalent?_consistent ho ⟨he, he'⟩).map _
  · exact (Ty.render?_consistent ho he).map _
  · exact Datum.swap?_consistent ho he

/-- A context that compares integers by magnitude, puts negative zeros below positive ones and
exchanges low bytes only, but does none of it across these two types or inside of lists. -/
theorem results_isolated_house :
    let x : Datum := ⟨.list (.option (.leaf .i32)),
      [some ⟨0, by decide, by decide⟩, none, some ⟨-3, by decide, by decide⟩]⟩
    let y : Datum := ⟨.list (.option (.leaf .f64)),
      [some ⟨0x8000000000000000#64⟩, none, some ⟨0x4000000000000000#64⟩]⟩
    let u : Datum := ⟨.array 1 (.list (.leaf .u32)), ⟨[[⟨258, by decide, by decide⟩]], rfl⟩⟩
    let v : Datum := ⟨.array 1 (.list (.leaf .u32)), ⟨[[]], rfl⟩⟩
    x.compare? Leaf.house y = some .less ∧ x.equal? Leaf.house y = some false ∧
      x.equivalent? Leaf.house y = some false ∧ u.render? Leaf.house = some "[[258]]" ∧
      u.swap? Leaf.house v = some (v, u) := by
  intro x y u v
  have ho : Leaf.house.offers = Leaf.intrinsic.offers := rfl
  obtain ⟨hcompare, hequal, _, _⟩ := results_isolated ho x y
  obtain ⟨_, _, hrender, hswap⟩ := results_isolated ho u v
  have hx : x.compare? Leaf.intrinsic y = some .less := by decide
  have hx' : x.equal? Leaf.intrinsic y = some false := by decide
  have hx'' : x.equivalent? Leaf.intrinsic y = some false := by decide
  have hu : u.render? Leaf.intrinsic = some "[[258]]" := by decide
  have hu' : u.swap? Leaf.intrinsic v = some (v, u) := rfl
  refine ⟨?_, ?_, ?_, ?_, ?_⟩
  · rw [hcompare rfl (by rw [hx]; rfl) rfl, hx]
  · rw [(hequal rfl rfl).1 (by rw [hx']; rfl) rfl, hx']
  · rw [(hequal rfl rfl).2 (by rw [hx'']; rfl) rfl, hx'']
  · rw [hrender rfl (by rw [hu]; rfl) rfl, hu]
  · rw [hswap (fun _ ha => nomatch ha) (by rw [hu']; rfl) rfl, hu']

end Collate
