import Collate.Proofs.Agreement
import Collate.Proofs.Incomparable
import Collate.Proofs.Reversal
import Collate.Proofs.Transitivity

namespace Collate

namespace Leaf

theorem isBuiltin_of_related {a b : Leaf} (ha : a.isBuiltin = true) (h : related a b = true) :
    b.isBuiltin = true := by
  revert h
  fun_cases related a b <;> intro h <;> first | rfl | cases ha | cases h

section Trans

variable {a b c : Leaf} {f : a.Val → b.Val → Bool} {g : b.Val → c.Val → Bool}
  {k : a.Val → c.Val → Bool}

/-- Equality of built-in values is what their comparisons say, and these chain. -/
theorem intrinsic_equal?_trans_of_isBuiltin (ha : a.isBuiltin = true)
    (hf : intrinsic.equal? a b = some f) (hg : intrinsic.equal? b c = some g)
    (hk : intrinsic.equal? a c = some k) (x : a.Val) (y : b.Val) (z : c.Val) (hxy : f x y = true)
    (hyz : g y z = true) : k x z = true := by
  have hb : b.isBuiltin = true := isBuiltin_of_related ha (Context.binds_of_equal? hf)
  rw [intrinsic_equal?_eq ha] at hf hk
  rw [intrinsic_equal?_eq hb] at hg
  obtain ⟨o, ho, rfl⟩ := Option.map_eq_some_iff.1 hf
  obtain ⟨p, hp, rfl⟩ := Option.map_eq_some_iff.1 hg
  obtain ⟨q, hq, rfl⟩ := Option.map_eq_some_iff.1 hk
  have hfirst : o x y = .equivalent := Outcome.isEq_iff.1 hxy
  have hsecond : p y z = .equivalent := Outcome.isEq_iff.1 hyz
  have hlean : Outcome.Concordant (o x y) (p y z) := by
    rw [hfirst, hsecond]
    decide
  have houter : q x z = (o x y).andThen (p y z) := intrinsic_compare?_trans ho hp hq x y z hlean
  show (q x z).isEq = true
  rw [houter, hfirst, hsecond]
  rfl

/-- Of the other values only temperatures are equal across types, and no scale of them has an
equality of its own. -/
theorem intrinsic_equal?_trans (hf : intrinsic.equal? a b = some f)
    (hg : intrinsic.equal? b c = some g) (hk : intrinsic.equal? a c = some k) (x : a.Val)
    (y : b.Val) (z : c.Val) (hxy : f x y = true) (hyz : g y z = true) : k x z = true := by
  by_cases ha : a.isBuiltin = true
  · exact intrinsic_equal?_trans_of_isBuiltin ha hf hg hk x y z hxy hyz
  · cases a with
    | outcome | label | slot =>
      cases b <;> cases hf
      cases c <;> cases hg
      cases hk
      exact beq_of_eq ((eq_of_beq hxy).trans (eq_of_beq hyz))
    | layered =>
      cases b <;> cases hf
      cases c <;> cases hg
      cases hk
      rfl
    | celsius | kelvin =>
      cases b <;> cases hf
      cases c <;> cases hg
      cases hk
    | null => cases b <;> cases hf
    | _ => exact absurd rfl ha

theorem intrinsic_equivalent?_trans (hf : intrinsic.equivalent? a b = some f)
    (hg : intrinsic.equivalent? b c = some g) (hk : intrinsic.equivalent? a c = some k) (x : a.Val)
    (y : b.Val) (z : c.Val) (hxy : f x y = true) (hyz : g y z = true) : k x z = true := by
  cases ha : a.hasEquivalence with
  | true =>
    cases a <;> try cases ha
    -- labels by their letters, slots by their values
    all_goals
      cases b <;> cases hf
      cases c <;> cases hg
      cases hk
      exact beq_of_eq ((eq_of_beq hxy).trans (eq_of_beq hyz))
  | false =>
    have hb : b.hasEquivalence = false := by
      have hab : related a b = true := Context.binds_of_equivalent? hf
      revert hab
      fun_cases related a b <;> intro hab <;> first | rfl | cases ha | cases hab
    rw [intrinsic_equivalent?_eq_equal? ha] at hf hk
    rw [intrinsic_equivalent?_eq_equal? hb] at hg
    exact intrinsic_equal?_trans hf hg hk x y z hxy hyz

end Trans

section Self

variable {a : Leaf} {e : a.Val → a.Val → Bool}

/-- Nothing but a NaN differs from itself. -/
theorem intrinsic_equal?_self_iff (he : intrinsic.equal? a a = some e) (x : a.Val) :
    e x x = true ↔ a.isNaN x = false := by
  cases a with
  | num t =>
    rw [intrinsic_equal?_num] at he
    cases he
    have hvalue : (NumType.compare t t x x).isEq = (t.value? x).isSome := by
      rw [NumType.compare_eq, Outcome.isEq_between_self]
    show (NumType.compare t t x x).isEq = true ↔ t.isNaN x = false
    rw [hvalue, Option.isSome_iff_ne_none, ne_eq, NumType.value?_eq_none_iff, Bool.not_eq_true]
  | celsius | kelvin | null => cases he
  | unit | layered =>
    cases he
    exact iff_of_true rfl rfl
  | _ =>
    cases he
    exact iff_of_true (beq_self_eq_true _) rfl

theorem intrinsic_equivalent?_self_iff (he : intrinsic.equivalent? a a = some e) (x : a.Val) :
    e x x = true ↔ a.isNaN x = false := by
  cases ha : a.hasEquivalence with
  | true =>
    cases a <;> try cases ha
    all_goals
      cases he
      exact iff_of_true (beq_self_eq_true _) rfl
  | false =>
    rw [intrinsic_equivalent?_eq_equal? ha] at he
    exact intrinsic_equal?_self_iff he x

end Self
end Leaf

namespace Ty

/-- A relation holds between a value and itself if it does so between each leaf and itself. -/
theorem relate?_self_iff {rel : (a b : Leaf) → Option (a.Val → b.Val → Bool)} {P : Atom → Prop}
    {t : Ty} (hbase : ∀ e, rel t.base t.base = some e → ∀ x, e x x = true ↔ P ⟨t.base, x⟩)
    {e : t.Val → t.Val → Bool} (he : relate? .equivalence rel t t = some e) (x : t.Val) :
    e x x = true ↔ ∀ u ∈ t.atoms x, P u := by
  induction t with
  | leaf a =>
    rw [atoms, List.forall_mem_singleton]
    exact hbase e he x
  | list t ih | view t ih =>
    obtain ⟨e₀, he₀, rfl⟩ := Option.map_eq_some_iff.1 he
    rw [atoms, List.forall_mem_flatMap]
    refine (Sequence.equivalent_self_iff e₀ x).trans ?_
    exact forall₂_congr fun y _ => ih hbase he₀ y
  | array n t ih =>
    obtain ⟨e₀, he₀, rfl⟩ := Option.map_eq_some_iff.1 he
    rw [atoms, List.forall_mem_flatMap]
    refine (Sequence.equivalent_self_iff e₀ x.1).trans ?_
    exact forall₂_congr fun y _ => ih hbase he₀ y
  | option t ih =>
    obtain ⟨e₀, he₀, rfl⟩ := Option.map_eq_some_iff.1 he
    rw [atoms, List.forall_mem_flatMap]
    refine (Optional.equivalent_self_iff e₀ x).trans ?_
    simp only [Option.mem_toList]
    exact forall₂_congr fun y _ => ih hbase he₀ y
  | ref t ih => exact ih hbase he x

section Trans

variable {s t u : Ty} {f : s.Val → t.Val → Bool} {g : t.Val → u.Val → Bool}
  {k : s.Val → u.Val → Bool}

theorem intrinsic_equivalent?_trans (hf : s.equivalent? Leaf.intrinsic t = some f)
    (hg : t.equivalent? Leaf.intrinsic u = some g) (hk : s.equivalent? Leaf.intrinsic u = some k)
    (x : s.Val) (y : t.Val) (z : u.Val) : f x y = true → g y z = true → k x z = true := by
  rw [equivalent?_eq_relate?] at hf hg hk
  exact relate?_chain Lifting.equivalence_chains (fun _ _ _ => Leaf.intrinsic_equivalent?_trans) hf
    hg hk x y z

/-- Containers hand the question over to equivalence, references to equality. -/
theorem intrinsic_equal?_trans (hf : s.equal? Leaf.intrinsic t = some f)
    (hg : t.equal? Leaf.intrinsic u = some g) (hk : s.equal? Leaf.intrinsic u = some k) (x : s.Val)
    (y : t.Val) (z : u.Val) : f x y = true → g y z = true → k x z = true := by
  fun_induction equal? Leaf.intrinsic s t generalizing u with
  | case1 a b =>
    cases u <;> try cases hg
    exact Leaf.intrinsic_equal?_trans hf hg hk x y z
  | case2 s t =>
    cases u <;> try cases hg
    exact intrinsic_equivalent?_trans (s := list s) (t := list t) (u := list _) hf hg hk x y z
  | case3 s t =>
    cases u <;> try cases hg
    exact intrinsic_equivalent?_trans (s := view s) (t := view t) (u := view _) hf hg hk x y z
  | case4 l s m t =>
    cases u <;> try cases hg
    exact intrinsic_equivalent?_trans (s := array l s) (t := array m t) (u := array _ _) hf hg hk
      x y z
  | case5 s t =>
    cases u <;> try cases hg
    exact intrinsic_equivalent?_trans (s := option s) (t := option t) (u := option _) hf hg hk
      x y z
  | case6 s t ih =>
    cases u <;> try cases hg
    exact ih hf hg hk x y z
  | case7 => cases hf

end Trans

section Self

variable {t : Ty} {e : t.Val → t.Val → Bool}

theorem intrinsic_equivalent?_self_iff (he : t.equivalent? Leaf.intrinsic t = some e) (x : t.Val) :
    e x x = true ↔ ∀ u ∈ t.atoms x, u.isNaN = false := by
  rw [equivalent?_eq_relate?] at he
  exact relate?_self_iff (P := fun u => u.isNaN = false)
    (fun _ => Leaf.intrinsic_equivalent?_self_iff) he x

theorem intrinsic_equal?_self_iff (he : t.equal? Leaf.intrinsic t = some e) (x : t.Val) :
    e x x = true ↔ ∀ u ∈ t.atoms x, u.isNaN = false := by
  induction t with
  | leaf a =>
    rw [atoms, List.forall_mem_singleton]
    exact Leaf.intrinsic_equal?_self_iff he x
  | list t => exact intrinsic_equivalent?_self_iff (t := list t) he x
  | view t => exact intrinsic_equivalent?_self_iff (t := view t) he x
  | array n t => exact intrinsic_equivalent?_self_iff (t := array n t) he x
  | option t => exact intrinsic_equivalent?_self_iff (t := option t) he x
  | ref t ih => exact ih he x

end Self
end Ty

namespace Datum

variable {x y z : Datum} {p : Bool}

theorem intrinsic_equivalent?_trans (hxy : x.equivalent? Leaf.intrinsic y = some true)
    (hyz : y.equivalent? Leaf.intrinsic z = some true)
    (hxz : x.equivalent? Leaf.intrinsic z = some p) : p = true := by
  obtain ⟨f, hf, hfxy⟩ := Option.map_eq_some_iff.1 hxy
  obtain ⟨g, hg, hgyz⟩ := Option.map_eq_some_iff.1 hyz
  obtain ⟨k, hk, rfl⟩ := Option.map_eq_some_iff.1 hxz
  exact Ty.intrinsic_equivalent?_trans hf hg hk x.value y.value z.value hfxy hgyz

theorem intrinsic_equal?_trans (hxy : x.equal? Leaf.intrinsic y = some true)
    (hyz : y.equal? Leaf.intrinsic z = some true) (hxz : x.equal? Leaf.intrinsic z = some p) :
    p = true := by
  obtain ⟨f, hf, hfxy⟩ := Option.map_eq_some_iff.1 hxy
  obtain ⟨g, hg, hgyz⟩ := Option.map_eq_some_iff.1 hyz
  obtain ⟨k, hk, rfl⟩ := Option.map_eq_some_iff.1 hxz
  exact Ty.intrinsic_equal?_trans hf hg hk x.value y.value z.value hfxy hgyz

theorem intrinsic_equivalent?_self_iff (h : x.equivalent? Leaf.intrinsic x = some p) :
    p = true ↔ ∀ u ∈ x.atoms, u.isNaN = false := by
  obtain ⟨e, he, rfl⟩ := Option.map_eq_some_iff.1 h
  exact Ty.intrinsic_equivalent?_self_iff he x.value

theorem intrinsic_equal?_self_iff (h : x.equal? Leaf.intrinsic x = some p) :
    p = true ↔ ∀ u ∈ x.atoms, u.isNaN = false := by
  obtain ⟨e, he, rfl⟩ := Option.map_eq_some_iff.1 h
  exact Ty.intrinsic_equal?_self_iff he x.value

end Datum

/-- Without a context's own rules what is equal to one value is equal, and what is equivalent to one
value is equivalent, across types and at any depth. Both relations hold between a value and itself
exactly if there is no NaN in it. -/
theorem relations_chain {x y z : Datum} :
    (∀ p, x.equal? Leaf.intrinsic y = some true → y.equal? Leaf.intrinsic z = some true →
        x.equal? Leaf.intrinsic z = some p → p = true) ∧
      (∀ p, x.equivalent? Leaf.intrinsic y = some true →
        y.equivalent? Leaf.intrinsic z = some true →
        x.equivalent? Leaf.intrinsic z = some p → p = true) ∧
      (∀ p, x.equal? Leaf.intrinsic x = some p → (p = true ↔ ∀ u ∈ x.atoms, u.isNaN = false)) ∧
      ∀ p, x.equivalent? Leaf.intrinsic x = some p →
        (p = true ↔ ∀ u ∈ x.atoms, u.isNaN = false) := by
  refine ⟨fun p => ?_, fun p => ?_, fun p => ?_, fun p => ?_⟩
  · exact Datum.intrinsic_equal?_trans
  · exact Datum.intrinsic_equivalent?_trans
  · exact Datum.intrinsic_equal?_self_iff
  · exact Datum.intrinsic_equivalent?_self_iff

/-- `2 ^ 53` as an unsigned integer, a wide float and a long signed integer, labels in three
spellings, and a list with a NaN in it. -/
theorem relations_chain_lists :
    let x : Datum := ⟨.list (.option (.leaf (.num (.int .u64)))),
      [some ⟨9007199254740992, by decide, by decide⟩, none]⟩
    let y : Datum := ⟨.list (.option (.leaf .f64)), [some ⟨0x4340000000000000#64⟩, none]⟩
    let z : Datum := ⟨.list (.option (.leaf (.num (.int .i128)))),
      [some ⟨9007199254740992, by decide, by decide⟩, none]⟩
    let label (s : String) : Datum := ⟨.ref (.leaf .label), s⟩
    let nan : Datum := ⟨.list (.option (.leaf .f64)), [none, some ⟨0xfff8000000000001#64⟩]⟩
    (x.equal? Leaf.intrinsic y = some true ∧ y.equal? Leaf.intrinsic z = some true ∧
        x.equal? Leaf.intrinsic z = some true) ∧
      ((label "QUAY").equivalent? Leaf.intrinsic (label "Quay") = some true ∧
        (label "Quay").equivalent? Leaf.intrinsic (label "quay") = some true ∧
        (label "QUAY").equivalent? Leaf.intrinsic (label "quay") = some true) ∧
      nan.equal? Leaf.intrinsic nan = some false ∧
      nan.equivalent? Leaf.intrinsic nan = some false := by
  intro x y z label nan
  have hxy : x.equal? Leaf.intrinsic y = some true := by decide
  have hyz : y.equal? Leaf.intrinsic z = some true := by decide
  have hupper : (label "QUAY").equivalent? Leaf.intrinsic (label "Quay") = some true := by decide
  have hlower : (label "Quay").equivalent? Leaf.intrinsic (label "quay") = some true := by decide
  obtain ⟨p, hp⟩ : ∃ p, x.equal? Leaf.intrinsic z = some p := ⟨_, rfl⟩
  obtain ⟨q, hq⟩ : ∃ q, (label "QUAY").equivalent? Leaf.intrinsic (label "quay") = some q :=
    ⟨_, rfl⟩
  obtain ⟨r, hr⟩ : ∃ r, nan.equal? Leaf.intrinsic nan = some r := ⟨_, rfl⟩
  obtain ⟨r', hr'⟩ : ∃ r, nan.equivalent? Leaf.intrinsic nan = some r := ⟨_, rfl⟩
  obtain ⟨hequal, -⟩ := relations_chain (x := x) (y := y) (z := z)
  obtain ⟨-, hequivalent, -⟩ :=
    relations_chain (x := label "QUAY") (y := label "Quay") (z := label "quay")
  obtain ⟨-, -, hself, hself'⟩ := relations_chain (x := nan) (y := nan) (z := nan)
  have hmem : ⟨.f64, ⟨0xfff8000000000001#64⟩⟩ ∈ nan.atoms := List.mem_singleton_self _
  have hnan : ¬∀ u ∈ nan.atoms, u.isNaN = false := fun h => absurd (h _ hmem) (by decide)
  rw [hequal p hxy hyz hp] at hp
  rw [hequivalent q hupper hlower hq] at hq
  rw [Bool.eq_false_of_not_eq_true (mt (hself r hr).1 hnan)] at hr
  rw [Bool.eq_false_of_not_eq_true (mt (hself' r' hr').1 hnan)] at hr'
  exact ⟨⟨hxy, hyz, hp⟩, ⟨hupper, hlower, hq⟩, hr, hr'⟩

end Collate
