import Mathlib.Data.List.Basic
import Mathlib.Logic.Function.Defs

namespace Collate.Text

/-- Whether a text is at its end or goes on with what separates or closes renderings. -/
def Ends (r : List Char) : Prop := ∀ c ∈ r.head?, c = ',' ∨ c = ']' ∨ c = ')'

theorem ends_nil : Ends [] := by simp [Ends]

theorem ends_cons {c : Char} (h : c = ',' ∨ c = ']' ∨ c = ')') (r : List Char) :
    Ends (c :: r) := by
  simpa [Ends] using h

/-- Whether what is written tells what it was written for, wherever it ends. -/
def Readable {K : Type} (w : K → String) : Prop :=
  ∀ ⦃k l : K⦄ ⦃r s : List Char⦄, Ends r → Ends s → (w k).toList ++ r = (w l).toList ++ s →
    k = l ∧ r = s

/-- Whether something is written at all, and it is not taken for the end of a sequence. -/
def Opens {α : Type} (f : α → String) : Prop := ∀ x, ∃ c cs, (f x).toList = c :: cs ∧ c ≠ ']'

theorem append_inj_of_prefix {α K : Type} {w : K → List α}
    (hw : ∀ k l, w k <+: w l → k = l) {k l : K} {r s : List α} (h : w k ++ r = w l ++ s) :
    k = l ∧ r = s := by
  have hkl : k = l := by
    rcases List.append_eq_append_iff.1 h with ⟨t, ht, -⟩ | ⟨t, ht, -⟩
    · exact hw k l ⟨t, ht.symm⟩
    · exact (hw l k ⟨t, ht.symm⟩).symm
  subst hkl
  exact ⟨rfl, List.append_cancel_left h⟩

/-- Words of which none begins another one can be told apart whatever follows. -/
theorem readable_of_prefix {K : Type} {w : K → String}
    (hw : ∀ k l, (w k).toList <+: (w l).toList → k = l) : Readable w :=
  fun _ _ _ _ _ _ h => append_inj_of_prefix hw h

theorem takeWhile_append_of_stops {α : Type} {P : α → Bool} {p r : List α}
    (hp : ∀ c ∈ p, P c = true) (hr : ∀ c ∈ r.head?, P c = false) :
    (p ++ r).takeWhile P = p := by
  rw [List.takeWhile_append_of_pos hp]
  cases r with
  | nil => exact List.append_nil p
  | cons c r => simp [hr c rfl]

/-- Two texts that begin with characters of one kind and go on with another kind part at the same
place. -/
theorem append_inj_of_forall {α : Type} {P : α → Bool} {p q r s : List α}
    (hp : ∀ c ∈ p, P c = true) (hq : ∀ c ∈ q, P c = true) (hr : ∀ c ∈ r.head?, P c = false)
    (hs : ∀ c ∈ s.head?, P c = false) (h : p ++ r = q ++ s) : p = q ∧ r = s := by
  have hpq : p = q := by
    rw [← takeWhile_append_of_stops hp hr, h, takeWhile_append_of_stops hq hs]
  subst hpq
  exact ⟨rfl, List.append_cancel_left h⟩

end Collate.Text
