import Collate.Datum
import Collate.Leaf.Contexts
import Collate.Proofs.Ty.Reshaping

namespace Collate

namespace Ty

/-- The entries of a sequence, with their type. -/
def entries? : (t : Ty) → t.Val → Option ((s : Ty) × List s.Val)
  | list t, xs => some ⟨t, xs⟩
  | view t, xs => some ⟨t, xs⟩
  | array _ t, xs => some ⟨t, xs.1⟩
  | _, _ => none

/-- A relation of sequences is that of their entries, carried over to what lists they make up. -/
theorem relate?_entries {R : Type} {l : Lifting R}
    {rel : (a b : Leaf) → Option (a.Val → b.Val → R)} {s t u v : Ty} {x : s.Val} {y : t.Val}
    {xs : List u.Val} {ys : List v.Val} (hx : s.entries? x = some ⟨u, xs⟩)
    (hy : t.entries? y = some ⟨v, ys⟩) {f : s.Val → t.Val → R} (hf : relate? l rel s t = some f) :
    ∃ g, relate? l rel u v = some g ∧ l.sequence g xs ys = f x y := by
  cases s <;> cases hx
  all_goals
    cases t <;> cases hy <;> try cases hf
    obtain ⟨g, hg, rfl⟩ := Option.map_eq_some_iff.1 hf
    exact ⟨g, hg, rfl⟩

end Ty

namespace Datum

/-- A value after a series of changes of its representation. -/
inductive Reshapes : List Reshaping → Datum → Datum → Prop where
  | refl (x) : Reshapes [] x x
  | step {c cs x z} (y : Datum) {r} (h : c.Takes x.type y.type r) (hxy : r x.value y.value)
      (hyz : Reshapes cs y z) : Reshapes (c :: cs) x z

namespace Reshapes

open Relator

variable {cx : Context Leaf.Val} {cs : List Reshaping} {x x' y y' : Datum}

/-- A relation whose answers one change made to both types leaves alone gives the same answer after any
series of changes made to both values. -/
theorem relate? {R : Type} {rel : (s t : Ty) → Option (s.Val → t.Val → R)}
    (hrel : ∀ {c : Reshaping} {s s' t t' r q} {f : s.Val → t.Val → R}, c.Takes s s' r →
      c.Takes t t' q → rel s t = some f → ∃ f', rel s' t' = some f' ∧ (r ⇒ q ⇒ Eq) f f')
    (hx : x.Reshapes cs x') (hy : y.Reshapes cs y') {o : R}
    (h : (rel x.type y.type).map (fun f => f x.value y.value) = some o) :
    (rel x'.type y'.type).map (fun f => f x'.value y'.value) = some o := by
  induction hx generalizing y with
  | refl x =>
    cases hy
    exact h
  | step _ hs hr hx ih =>
    cases hy with
    | step _ ht hq hy =>
      apply ih hy
      obtain ⟨f, hf, rfl⟩ := Option.map_eq_some_iff.1 h
      obtain ⟨f', hf', hff'⟩ := hrel hs ht hf
      rw [hf', Option.map_some, hff' hr hq]

theorem compare? (hx : x.Reshapes cs x') (hy : y.Reshapes cs y') {o : Outcome}
    (h : x.compare? cx y = some o) : x'.compare? cx y' = some o :=
  relate? (fun hs ht => hs.compare? ht) hx hy h

theorem equivalent? (hx : x.Reshapes cs x') (hy : y.Reshapes cs y') {p : Bool}
    (h : x.equivalent? cx y = some p) : x'.equivalent? cx y' = some p :=
  relate? (fun hs ht => hs.equivalent? ht) hx hy h

theorem equal? (hx : x.Reshapes cs x') (hy : y.Reshapes cs y') {p : Bool}
    (h : x.equal? cx y = some p) : x'.equal? cx y' = some p :=
  relate? (fun hs ht => hs.equal? ht) hx hy h

theorem render? (hx : x.Reshapes cs x') (hcs : ∀ c ∈ cs, c.keepsOptions = true) {w : String}
    (h : x.render? cx = some w) : x'.render? cx = some w := by
  induction hx with
  | refl x => exact h
  | step _ hs hr hx ih =>
    obtain ⟨hc, hcs⟩ := List.forall_mem_cons.1 hcs
    apply ih hcs
    obtain ⟨f, hf, rfl⟩ := Option.map_eq_some_iff.1 h
    obtain ⟨f', hf', hff'⟩ := hs.render? hc hf
    rw [Datum.render?, hf', Option.map_some, hff' hr]

end Reshapes

/-- The entries of a sequence, with their type. -/
def entries? (x : Datum) : Option ((t : Ty) × List t.Val) := x.type.entries? x.value

variable {cx : Context Leaf.Val} {x y : Datum} {s t : Ty} {xs : List s.Val} {ys : List t.Val}

theorem compare?_entries (hx : x.entries? = some ⟨s, xs⟩) (hy : y.entries? = some ⟨t, ys⟩)
    {o : Outcome} (h : x.compare? cx y = some o) :
    ((Ty.ref s).compare? cx (.ref t)).map (fun f => Sequence.compare f xs ys) = some o := by
  obtain ⟨f, hf, rfl⟩ := Option.map_eq_some_iff.1 h
  rw [Ty.compare?_eq_relate?] at hf
  obtain ⟨g, hg, hfg⟩ := Ty.relate?_entries hx hy hf
  rw [← Ty.compare?_eq_relate?] at hg
  rw [Ty.compare?, hg, Option.map_some, ← hfg]
  rfl

theorem equivalent?_entries (hx : x.entries? = some ⟨s, xs⟩) (hy : y.entries? = some ⟨t, ys⟩)
    {p : Bool} (h : x.equivalent? cx y = some p) :
    ((Ty.ref s).equivalent? cx (.ref t)).map (fun f => Sequence.equivalent f xs ys) = some p := by
  obtain ⟨f, hf, rfl⟩ := Option.map_eq_some_iff.1 h
  rw [Ty.equivalent?_eq_relate?] at hf
  obtain ⟨g, hg, hfg⟩ := Ty.relate?_entries hx hy hf
  rw [← Ty.equivalent?_eq_relate?] at hg
  rw [Ty.equivalent?, hg, Option.map_some, ← hfg]
  rfl

theorem equal?_entries (hx : x.entries? = some ⟨s, xs⟩) (hy : y.entries? = some ⟨t, ys⟩)
    {p : Bool} (h : x.equal? cx y = some p) :
    ((Ty.ref s).equivalent? cx (.ref t)).map (fun f => Sequence.equal f xs ys) = some p := by
  apply equivalent?_entries hx hy
  obtain ⟨u, x⟩ := x
  obtain ⟨v, y⟩ := y
  cases u <;> cases hx
  all_goals cases v <;> cases hy <;> exact h

theorem render?_entries (hx : x.entries? = some ⟨s, xs⟩) {w : String} (h : x.render? cx = some w) :
    ((Ty.ref s).render? cx).map (fun f => Sequence.render f xs) = some w := by
  obtain ⟨u, x⟩ := x
  cases u <;> cases hx
  all_goals
    obtain ⟨f, hf, rfl⟩ := Option.map_eq_some_iff.1 h
    obtain ⟨g, hg, rfl⟩ := Option.map_eq_some_iff.1 hf
    rw [Ty.render?, hg, Option.map_some]

end Datum

/-- The results of a context do not depend on the representation of the values. Any series of changes
made to both operands, at any depth, leaves a comparison, an equality and an equivalence as they
were, and what is written too as long as optional values stay what they are. On sequences the results
are those of the sequence functions on references to the entries. -/
theorem representation_independent (cx : Context Leaf.Val) :
    (∀ {cs : List Reshaping} {x x' y y' : Datum}, x.Reshapes cs x' → y.Reshapes cs y' →
        (∀ o, x.compare? cx y = some o → x'.compare? cx y' = some o) ∧
        (∀ p, x.equal? cx y = some p → x'.equal? cx y' = some p) ∧
        ∀ p, x.equivalent? cx y = some p → x'.equivalent? cx y' = some p) ∧
      (∀ {cs : List Reshaping} {x x' : Datum}, x.Reshapes cs x' →
        (∀ c ∈ cs, c.keepsOptions = true) → ∀ w, x.render? cx = some w → x'.render? cx = some w) ∧
      ∀ {x y : Datum} {s t : Ty} {xs : List s.Val} {ys : List t.Val},
        x.entries? = some ⟨s, xs⟩ → y.entries? = some ⟨t, ys⟩ →
          (∀ o, x.compare? cx y = some o →
            ((Ty.ref s).compare? cx (.ref t)).map (fun f => Sequence.compare f xs ys) = some o) ∧
          (∀ p, x.equal? cx y = some p →
            ((Ty.ref s).equivalent? cx (.ref t)).map (fun f => Sequence.equal f xs ys) = some p) ∧
          (∀ p, x.equivalent? cx y = some p →
            ((Ty.ref s).equivalent? cx (.ref t)).map (fun f => Sequence.equivalent f xs ys) =
              some p) ∧
          ∀ w, x.render? cx = some w →
            ((Ty.ref s).render? cx).map (fun f => Sequence.render f xs) = some w := by
  refine ⟨fun hx hy => ⟨?_, ?_, ?_⟩, fun hx hcs w => hx.render? hcs, fun hx hy => ⟨?_, ?_, ?_, ?_⟩⟩
  · exact fun o => hx.compare? hy
  · exact fun p => hx.equal? hy
  · exact fun p => hx.equivalent? hy
  · exact fun o => Datum.compare?_entries hx hy
  · exact fun p => Datum.equal?_entries hx hy
  · exact fun p => Datum.equivalent?_entries hx hy
  · exact fun w => Datum.render?_entries hx

/-- Lists of optional numbers put into arrays, of two entries on one side and of one on the other, then
turned into lists of no or one number, and all of it looked at through a reference. -/
theorem representation_independent_lists :
    let x : Datum := ⟨.list (.list (.option (.leaf .i32))),
      [[some ⟨3, by decide, by decide⟩, none]]⟩
    let y : Datum := ⟨.list (.list (.option (.leaf .f64))),
      [[some ⟨0x4008000000000000#64⟩], [none]]⟩
    let x' : Datum := ⟨.ref (.list (.array 2 (.list (.leaf .i32)))),
      [⟨[[⟨3, by decide, by decide⟩], []], rfl⟩]⟩
    let y' : Datum := ⟨.ref (.list (.array 1 (.list (.leaf .f64)))),
      [⟨[[⟨0x4008000000000000#64⟩]], rfl⟩, ⟨[[]], rfl⟩]⟩
    let x'' : Datum := ⟨.list (.array 2 (.option (.leaf .i32))),
      [⟨[some ⟨3, by decide, by decide⟩, none], rfl⟩]⟩
    x'.compare? Leaf.house y' = some .greater ∧ x'.equal? Leaf.house y' = some false ∧
      x'.equivalent? Leaf.house y' = some false ∧ x''.render? Leaf.house = some "[[Some(<3>), None]]" ∧
      ∃ f, (Ty.ref (.list (.option (.leaf .i32)))).compare? Leaf.house
          (.ref (.list (.option (.leaf .f64)))) = some f ∧
        Sequence.compare f x.value y.value = .greater := by
  intro x y x' y' x''
  let y'' : Datum := ⟨.list (.array 1 (.option (.leaf .f64))),
    [⟨[some ⟨0x4008000000000000#64⟩], rfl⟩, ⟨[none], rfl⟩]⟩
  have hx : x.Reshapes [.inside .array] x'' :=
    .step x'' (.insideList (.array 2)) (.cons rfl .nil) (.refl x'')
  have hx' : x.Reshapes [.inside .array, .inside (.inside .list), .ref] x' :=
    .step x'' (.insideList (.array 2)) (.cons rfl .nil) <|
      .step ⟨.list (.array 2 (.list (.leaf .i32))), x'.value⟩ (.insideList (.insideArray 2 .list))
        (.cons (.cons rfl (.cons rfl .nil)) .nil) <| .step x' .ref rfl (.refl x')
  have hy' : y.Reshapes [.inside .array, .inside (.inside .list), .ref] y' :=
    .step y'' (.insideList (.array 1)) (.cons rfl (.cons rfl .nil)) <|
      .step ⟨.list (.array 1 (.list (.leaf .f64))), y'.value⟩ (.insideList (.insideArray 1 .list))
        (.cons (.cons rfl .nil) (.cons (.cons rfl .nil) .nil)) <| .step y' .ref rfl (.refl y')
  have hcompare : x.compare? Leaf.house y = some .greater := by decide
  have hequal : x.equal? Leaf.house y = some false := by decide
  have hequivalent : x.equivalent? Leaf.house y = some false := by decide
  have hrender : x.render? Leaf.house = some "[[Some(<3>), None]]" := by decide
  obtain ⟨hrelations, htext, hentries⟩ := representation_independent Leaf.house
  obtain ⟨hc, he, he'⟩ := hrelations hx' hy'
  obtain ⟨hseq, -⟩ := hentries (x := x) (y := y) rfl rfl
  refine ⟨hc _ hcompare, he _ hequal, he' _ hequivalent, htext hx (by decide) _ hrender, ?_⟩
  exact Option.map_eq_some_iff.1 (hseq _ hcompare)

end Collate
