import Collate.Datum
import Collate.Proofs.Leaf.Reversal
import Collate.Proofs.Ty.Lifting

namespace Collate

namespace Ty

variable {cx : Context Leaf.Val}

theorem compare?_reverses (h : cx.Reversible) : Reverses Outcome.flip (compare? cx) := by
  intro s t f g hf hg
  rw [compare?_eq_relate?] at hf hg
  exact relate?_reverses Lifting.comparison_flips h.compare hf hg

theorem equivalent?_reverses (h : cx.Reversible) : Reverses id (equivalent? cx) := by
  intro s t f g hf hg
  rw [equivalent?_eq_relate?] at hf hg
  exact relate?_reverses Lifting.equivalence_flips h.equivalent hf hg

/-- Equal containers are equivalent ones, so only leaves and references to them are left. -/
theorem equal?_reverses (h : cx.Reversible) : Reverses id (equal? cx) := by
  intro s t f g hf hg x y
  fun_induction equal? cx s t with
  | case1 a b => exact h.equal hf hg x y
  | case2 s t => exact equivalent?_reverses h (a := list s) (b := list t) hf hg x y
  | case3 s t => exact equivalent?_reverses h (a := view s) (b := view t) hf hg x y
  | case4 m s n t => exact equivalent?_reverses h (a := array m s) (b := array n t) hf hg x y
  | case5 s t => exact equivalent?_reverses h (a := option s) (b := option t) hf hg x y
  | case6 s t ih => exact ih hf hg x y
  | case7 => cases hf

theorem isSome_intrinsic_compare?_comm (s t : Ty) :
    (s.compare? Leaf.intrinsic t).isSome = (t.compare? Leaf.intrinsic s).isSome := by
  rw [compare?_eq_relate?, compare?_eq_relate?]
  apply isSome_relate?_comm
  intro a b
  rw [Leaf.isSome_intrinsic_compare?, Leaf.isSome_intrinsic_compare?, Leaf.ordered_comm]

theorem isSome_intrinsic_equivalent?_comm (s t : Ty) :
    (s.equivalent? Leaf.intrinsic t).isSome = (t.equivalent? Leaf.intrinsic s).isSome := by
  rw [equivalent?_eq_relate?, equivalent?_eq_relate?]
  apply isSome_relate?_comm
  intro a b
  rw [Leaf.isSome_intrinsic_equivalent?, Leaf.isSome_intrinsic_equivalent?, Leaf.related_comm]

theorem isSome_intrinsic_equal?_comm (s t : Ty) :
    (s.equal? Leaf.intrinsic t).isSome = (t.equal? Leaf.intrinsic s).isSome := by
  induction s generalizing t with
  | leaf a =>
    cases t <;> try rfl
    rw [equal?, equal?, Leaf.isSome_intrinsic_equal?, Leaf.isSome_intrinsic_equal?,
      Leaf.related_comm]
  | list s | view s | option s | array _ s =>
    cases t <;> try rfl
    rw [equal?, equal?, Option.isSome_map, Option.isSome_map, isSome_intrinsic_equivalent?_comm]
  | ref s ih =>
    cases t <;> try rfl
    exact ih _

end Ty

namespace Datum

variable {cx : Context Leaf.Val} {x y : Datum}

theorem compare?_flip (h : cx.Reversible) {o p : Outcome} (ho : x.compare? cx y = some o)
    (hp : y.compare? cx x = some p) : o = p.flip := by
  obtain ⟨f, hf, rfl⟩ := Option.map_eq_some_iff.1 ho
  obtain ⟨g, hg, rfl⟩ := Option.map_eq_some_iff.1 hp
  exact Ty.compare?_reverses h hf hg x.value y.value

theorem equal?_comm (h : cx.Reversible) {p q : Bool} (hp : x.equal? cx y = some p)
    (hq : y.equal? cx x = some q) : p = q := by
  obtain ⟨f, hf, rfl⟩ := Option.map_eq_some_iff.1 hp
  obtain ⟨g, hg, rfl⟩ := Option.map_eq_some_iff.1 hq
  exact Ty.equal?_reverses h hf hg x.value y.value

theorem equivalent?_comm (h : cx.Reversible) {p q : Bool} (hp : x.equivalent? cx y = some p)
    (hq : y.equivalent? cx x = some q) : p = q := by
  obtain ⟨f, hf, rfl⟩ := Option.map_eq_some_iff.1 hp
  obtain ⟨g, hg, rfl⟩ := Option.map_eq_some_iff.1 hq
  exact Ty.equivalent?_reverses h hf hg x.value y.value

end Datum

/-- Wherever a relation is in use both ways round, exchanging the operands flips a comparison and
leaves equality and equivalence as they are, in either context and at any depth. Without a context's
own rules a relation is in use one way round exactly if it is the other way round. -/
theorem relations_reverse :
    (∀ cx ∈ [Leaf.intrinsic, Leaf.house], ∀ x y : Datum,
      (∀ o p, x.compare? cx y = some o → y.compare? cx x = some p → o = p.flip) ∧
      (∀ p q, x.equal? cx y = some p → y.equal? cx x = some q → p = q) ∧
      ∀ p q, x.equivalent? cx y = some p → y.equivalent? cx x = some q → p = q) ∧
    ∀ s t : Ty,
      (s.compare? Leaf.intrinsic t).isSome = (t.compare? Leaf.intrinsic s).isSome ∧
      (s.equal? Leaf.intrinsic t).isSome = (t.equal? Leaf.intrinsic s).isSome ∧
      (s.equivalent? Leaf.intrinsic t).isSome = (t.equivalent? Leaf.intrinsic s).isSome := by
  refine ⟨?_, fun s t => ⟨?_, ?_, ?_⟩⟩
  · intro cx hcx x y
    have h : cx.Reversible := by
      rcases List.mem_pair.1 hcx with rfl | rfl
      · exact Leaf.intrinsic_reversible
      · exact Leaf.house_reversible
    exact ⟨fun _ _ => Datum.compare?_flip h, fun _ _ => Datum.equal?_comm h,
      fun _ _ => Datum.equivalent?_comm h⟩
  · exact Ty.isSome_intrinsic_compare?_comm s t
  · exact Ty.isSome_intrinsic_equal?_comm s t
  · exact Ty.isSome_intrinsic_equivalent?_comm s t

/-- Outcomes against zero sentinels, which stand on the left in one direction and on the right in
the other. -/
theorem relations_reverse_sentinels :
    let x : Datum := ⟨.list (.option (.leaf .outcome)), [some .equivalent, none, some .less]⟩
    let y : Datum := ⟨.list (.option (.leaf .null)), [some (), none, some ()]⟩
    x.compare? Leaf.house y = some .less ∧ y.compare? Leaf.house x = some .greater ∧
      x.equal? Leaf.house y = some false ∧ y.equal? Leaf.house x = some false ∧
      x.equivalent? Leaf.house y = some false ∧ y.equivalent? Leaf.house x = some false := by
  intro x y
  have hcompare : x.compare? Leaf.house y = some .less := by decide
  have hequal : x.equal? Leaf.house y = some false := by decide
  have hequivalent : x.equivalent? Leaf.house y = some false := by decide
  obtain ⟨o, ho⟩ : ∃ o, y.compare? Leaf.house x = some o := ⟨_, rfl⟩
  obtain ⟨p, hp⟩ : ∃ p, y.equal? Leaf.house x = some p := ⟨_, rfl⟩
  obtain ⟨q, hq⟩ : ∃ q, y.equivalent? Leaf.house x = some q := ⟨_, rfl⟩
  have hmem : Leaf.house ∈ [Leaf.intrinsic, Leaf.house] := List.mem_pair.2 (.inr rfl)
  obtain ⟨hflip, hcomm, hcomm'⟩ := relations_reverse.1 Leaf.house hmem x y
  have hless : o.flip = .less := (hflip _ _ hcompare ho).symm
  have hgreater : o = .greater := by rw [← o.flip_flip, hless, Outcome.flip]
  rw [← hcomm _ _ hequal hp] at hp
  rw [← hcomm' _ _ hequivalent hq] at hq
  rw [hgreater] at ho
  exact ⟨hcompare, ho, hequal, hp, hequivalent, hq⟩

end Collate
