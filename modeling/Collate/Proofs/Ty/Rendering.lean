import Collate.Proofs.Text.Reading
import Collate.Proofs.Ty.Lifting
import Collate.Ty.Render

namespace Collate

open Text

/-- Whether two ways of rendering write the same for values that `e` relates, and what can be told
apart, whatever it is followed by, for others. -/
structure Legible {α β : Type} (f : α → String) (g : β → String) (e : α → β → Bool) : Prop where
  same : ∀ x y, e x y = true → f x = g y
  apart : ∀ x y r s, Ends r → Ends s → (f x).toList ++ r = (g y).toList ++ s →
    e x y = true ∧ r = s
  opensLeft : Opens f
  opensRight : Opens g

namespace Legible

variable {α β γ δ K : Type} {f : α → String} {g : β → String} {e : α → β → Bool}

theorem comap (h : Legible f g e) (p : γ → α) (q : δ → β) :
    Legible (fun x => f (p x)) (fun y => g (q y)) fun x y => e (p x) (q y) where
  same x y := h.same (p x) (q y)
  apart x y := h.apart (p x) (q y)
  opensLeft x := h.opensLeft (p x)
  opensRight y := h.opensRight (q y)

theorem of_readable {w : K → String} (hw : Readable w) (ho : Opens w) {p : α → K} {q : β → K}
    (he : ∀ x y, e x y = true ↔ p x = q y) : Legible (fun x => w (p x)) (fun y => w (q y)) e where
  same x y h := congrArg w ((he x y).1 h)
  apart x y r s hr hs h := by
    obtain ⟨hpq, hrs⟩ := hw hr hs h
    exact ⟨(he x y).2 hpq, hrs⟩
  opensLeft x := ho (p x)
  opensRight y := ho (q y)

theorem eq_iff (h : Legible f g e) (x : α) (y : β) : f x = g y ↔ e x y = true := by
  refine ⟨fun hxy => ?_, h.same x y⟩
  exact (h.apart x y [] [] ends_nil ends_nil (by rw [hxy])).1

end Legible

namespace Sequence

variable {α β : Type} {f : α → String} {g : β → String} {e : α → β → Bool}

/-- What is written of a sequence after its first entry. -/
def renderRest (f : α → String) : List α → List Char
  | [] => [']']
  | x :: xs => ',' :: ' ' :: ((f x).toList ++ renderRest f xs)

theorem toList_render_nil (f : α → String) : (render f []).toList = ['[', ']'] := by
  simp [render]

theorem toList_render_cons (f : α → String) (x : α) (xs : List α) :
    (render f (x :: xs)).toList = '[' :: ((f x).toList ++ renderRest f xs) := by
  have hentries : (", ".intercalate ((x :: xs).map f)).toList ++ [']'] =
      (f x).toList ++ renderRest f xs := by
    induction xs generalizing x with
    | nil => simp [renderRest]
    | cons y ys ih =>
      rw [renderRest, ← ih y]
      simp [String.intercalate_cons_cons]
  rw [← hentries]
  simp [render]

theorem ends_renderRest_append (f : α → String) (xs : List α) (r : List Char) :
    Ends (renderRest f xs ++ r) := by
  cases xs with
  | nil => exact ends_cons (by decide) r
  | cons x xs => exact ends_cons (by decide) _

theorem renderRest_append_inj (h : Legible f g e) {xs : List α} {ys : List β} {r s : List Char}
    (hrest : renderRest f xs ++ r = renderRest g ys ++ s) :
    equivalent e xs ys = true ∧ r = s := by
  induction xs generalizing ys with
  | nil =>
    cases ys with
    | nil => exact ⟨rfl, (List.cons.inj hrest).2⟩
    | cons y ys => exact absurd (List.cons.inj hrest).1 (by decide)
  | cons x xs ih =>
    cases ys with
    | nil => exact absurd (List.cons.inj hrest).1 (by decide)
    | cons y ys =>
      simp only [renderRest, List.cons_append, List.append_assoc, List.cons.injEq,
        true_and] at hrest
      obtain ⟨hxy, htail⟩ := h.apart x y _ _ (ends_renderRest_append f xs r)
        (ends_renderRest_append g ys s) hrest
      obtain ⟨htails, hrs⟩ := ih htail
      exact ⟨by rw [equivalent, hxy, htails, Bool.and_self], hrs⟩

theorem render_eq_of_equivalent (h : Legible f g e) {xs : List α} {ys : List β}
    (hxy : equivalent e xs ys = true) : render f xs = render g ys := by
  have hmap : xs.map f = ys.map g := by
    induction xs generalizing ys with
    | nil =>
      cases ys with
      | nil => rfl
      | cons y ys => cases hxy
    | cons x xs ih =>
      cases ys with
      | nil => cases hxy
      | cons y ys =>
        rw [equivalent, Bool.and_eq_true] at hxy
        rw [List.map_cons, List.map_cons, h.same x y hxy.1, ih hxy.2]
  rw [render, render, hmap]

theorem opens_render (f : α → String) : Opens (render f) := by
  intro xs
  cases xs with
  | nil => exact ⟨'[', [']'], toList_render_nil f, by decide⟩
  | cons x xs => exact ⟨'[', _, toList_render_cons f x xs, by decide⟩

/-- Sequences are as legible as their entries: no entry begins with the bracket that ends them. -/
theorem legible_render (h : Legible f g e) : Legible (render f) (render g) (equivalent e) where
  same _ _ := render_eq_of_equivalent h
  apart xs ys r s hr hs hxy := by
    cases xs with
    | nil =>
      cases ys with
      | nil =>
        rw [toList_render_nil, toList_render_nil] at hxy
        exact ⟨rfl, List.append_cancel_left hxy⟩
      | cons y ys =>
        obtain ⟨c, cs, hc, hne⟩ := h.opensRight y
        rw [toList_render_nil, toList_render_cons, hc] at hxy
        exact absurd (List.cons.inj (List.cons.inj hxy).2).1.symm hne
    | cons x xs =>
      cases ys with
      | nil =>
        obtain ⟨c, cs, hc, hne⟩ := h.opensLeft x
        rw [toList_render_nil, toList_render_cons, hc] at hxy
        exact absurd (List.cons.inj (List.cons.inj hxy).2).1 hne
      | cons y ys =>
        rw [toList_render_cons, toList_render_cons, List.cons_append, List.cons_append,
          List.append_assoc, List.append_assoc] at hxy
        obtain ⟨hhead, htail⟩ := h.apart x y _ _ (ends_renderRest_append f xs r)
          (ends_renderRest_append g ys s) (List.cons.inj hxy).2
        obtain ⟨htails, hrs⟩ := renderRest_append_inj h htail
        exact ⟨by rw [equivalent, hhead, htails, Bool.and_self], hrs⟩
  opensLeft := opens_render f
  opensRight := opens_render g

end Sequence

namespace Optional

variable {α β : Type} {f : α → String} {g : β → String} {e : α → β → Bool}

theorem toList_render_none (f : α → String) :
    (render f none).toList = ['N', 'o', 'n', 'e'] := by
  simp [render]

theorem toList_render_some (f : α → String) (x : α) :
    (render f (some x)).toList = 'S' :: 'o' :: 'm' :: 'e' :: '(' :: ((f x).toList ++ [')']) := by
  simp [render]

theorem opens_render (f : α → String) : Opens (render f) := by
  intro x
  cases x with
  | none => exact ⟨'N', _, toList_render_none f, by decide⟩
  | some x => exact ⟨'S', _, toList_render_some f x, by decide⟩

theorem legible_render (h : Legible f g e) : Legible (render f) (render g) (equivalent e) where
  same x y hxy := by
    cases x with
    | none =>
      cases y with
      | none => rfl
      | some y => cases hxy
    | some x =>
      cases y with
      | none => cases hxy
      | some y => rw [render, render, h.same x y hxy]
  apart x y r s hr hs hxy := by
    cases x with
    | none =>
      cases y with
      | none =>
        rw [toList_render_none, toList_render_none] at hxy
        exact ⟨rfl, List.append_cancel_left hxy⟩
      | some y =>
        rw [toList_render_none, toList_render_some] at hxy
        exact absurd (List.cons.inj hxy).1 (by decide)
    | some x =>
      cases y with
      | none =>
        rw [toList_render_none, toList_render_some] at hxy
        exact absurd (List.cons.inj hxy).1 (by decide)
      | some y =>
        simp only [toList_render_some, List.cons_append, List.append_assoc, List.cons.injEq,
          true_and, List.nil_append] at hxy
        have hclose (t : List Char) : Ends (')' :: t) := ends_cons (by decide) t
        obtain ⟨hvalue, hrest⟩ := h.apart x y _ _ (hclose r) (hclose s) hxy
        exact ⟨hvalue, (List.cons.inj hrest).2⟩
  opensLeft := opens_render f
  opensRight := opens_render g

end Optional

namespace Ty

variable {cx cx' : Context Leaf.Val}

theorem isSome_render? (t : Ty) : (t.render? cx).isSome = (cx.render? t.base).isSome := by
  induction t with
  | leaf a => rfl
  | list t ih | view t ih | option t ih | array _ t ih => rw [render?, Option.isSome_map, ih, base]
  | ref t ih => exact ih

theorem render?_congr (t : Ty) (h : cx'.render? t.base = cx.render? t.base) :
    t.render? cx' = t.render? cx := by
  induction t with
  | leaf a => exact h
  | list t ih | view t ih | option t ih | array _ t ih => rw [render?, render?, ih h]
  | ref t ih => exact ih h

/-- Renderings of two types tell what their leaves tell. -/
theorem legible_render? {rel : (a b : Leaf) → Option (a.Val → b.Val → Bool)} {s t : Ty}
    {f : s.Val → String} {g : t.Val → String} {e : s.Val → t.Val → Bool}
    (hbase : ∀ f g e, cx.render? s.base = some f → cx.render? t.base = some g →
      rel s.base t.base = some e → Legible f g e)
    (hf : s.render? cx = some f) (hg : t.render? cx = some g)
    (he : relate? .equivalence rel s t = some e) : Legible f g e := by
  fun_induction relate? .equivalence rel s t with
  | case1 a b => exact hbase f g e hf hg he
  | case2 s t ih | case3 s t ih =>
    obtain ⟨f₀, hf₀, rfl⟩ := Option.map_eq_some_iff.1 hf
    obtain ⟨g₀, hg₀, rfl⟩ := Option.map_eq_some_iff.1 hg
    obtain ⟨e₀, he₀, rfl⟩ := Option.map_eq_some_iff.1 he
    exact Sequence.legible_render (ih hbase hf₀ hg₀ he₀)
  | case4 m s n t ih =>
    obtain ⟨f₀, hf₀, rfl⟩ := Option.map_eq_some_iff.1 hf
    obtain ⟨g₀, hg₀, rfl⟩ := Option.map_eq_some_iff.1 hg
    obtain ⟨e₀, he₀, rfl⟩ := Option.map_eq_some_iff.1 he
    exact (Sequence.legible_render (ih hbase hf₀ hg₀ he₀)).comap Subtype.val Subtype.val
  | case5 s t ih =>
    obtain ⟨f₀, hf₀, rfl⟩ := Option.map_eq_some_iff.1 hf
    obtain ⟨g₀, hg₀, rfl⟩ := Option.map_eq_some_iff.1 hg
    obtain ⟨e₀, he₀, rfl⟩ := Option.map_eq_some_iff.1 he
    exact Optional.legible_render (ih hbase hf₀ hg₀ he₀)
  | case6 s t ih => exact ih hbase hf hg he
  | case7 => cases he

end Ty
end Collate
