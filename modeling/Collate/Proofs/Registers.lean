import Mathlib.Algebra.BigOperators.Group.List.Basic
import Mathlib.Algebra.Group.End
import Mathlib.Logic.Equiv.Basic
import Collate.Registers

namespace Collate.Registers

variable {α β : Type} {n : ℕ} {f : α → α → α × α}

/-- A family of values after two of its members are exchanged by `f`, the first of them being the left
operand. -/
def exchange (f : α → α → α × α) (v : Fin n → α) (p : Fin n × Fin n) : Fin n → α :=
  Function.update (Function.update v p.1 (f (v p.1) (v p.2)).1) p.2 (f (v p.1) (v p.2)).2

theorem exchange_left {p : Fin n × Fin n} (hp : p.1 ≠ p.2) (f : α → α → α × α) (v : Fin n → α) :
    exchange f v p p.1 = (f (v p.1) (v p.2)).1 := by
  rw [exchange, Function.update_of_ne hp, Function.update_self]

theorem exchange_right (f : α → α → α × α) (v : Fin n → α) (p : Fin n × Fin n) :
    exchange f v p p.2 = (f (v p.1) (v p.2)).2 := Function.update_self ..

theorem exchange_of_ne {p : Fin n × Fin n} {i : Fin n} (h₁ : i ≠ p.1) (h₂ : i ≠ p.2)
    (f : α → α → α × α) (v : Fin n → α) : exchange f v p i = v i := by
  rw [exchange, Function.update_of_ne h₂, Function.update_of_ne h₁]

/-- The transpositions of a run, one after the other: where what is in the end in a place comes
from. -/
def transpositions (ps : List (Fin n × Fin n)) : Equiv.Perm (Fin n) :=
  (ps.map fun p => Equiv.swap p.1 p.2).prod

theorem transpositions_cons (p : Fin n × Fin n) (ps : List (Fin n × Fin n)) (i : Fin n) :
    transpositions (p :: ps) i = Equiv.swap p.1 p.2 (transpositions ps i) := by
  rw [transpositions, List.map_cons, List.prod_cons, Equiv.Perm.mul_apply, transpositions]

section Runs

variable {ps : List (Fin n × Fin n)}

/-- What an exchange passes from one operand to the other goes where the transposition takes it. -/
theorem reading_exchange_of_carries {g : α → β} (h : ∀ x y, g (f x y).1 = g y ∧ g (f x y).2 = g x)
    {p : Fin n × Fin n} (hp : p.1 ≠ p.2) (v : Fin n → α) (i : Fin n) :
    g (exchange f v p i) = g (v (Equiv.swap p.1 p.2 i)) := by
  by_cases h₁ : i = p.1
  · rw [h₁, exchange_left hp, Equiv.swap_apply_left, (h _ _).1]
  · by_cases h₂ : i = p.2
    · rw [h₂, exchange_right, Equiv.swap_apply_right, (h _ _).2]
    · rw [exchange_of_ne h₁ h₂, Equiv.swap_apply_of_ne_of_ne h₁ h₂]

theorem reading_run_of_carries {g : α → β} (h : ∀ x y, g (f x y).1 = g y ∧ g (f x y).2 = g x)
    (hps : ∀ p ∈ ps, p.1 ≠ p.2) (v : Fin n → α) (i : Fin n) :
    g (ps.foldl (exchange f) v i) = g (v (transpositions ps i)) := by
  induction ps generalizing v with
  | nil => rfl
  | cons p ps ih =>
    obtain ⟨hp, hps⟩ := List.forall_mem_cons.1 hps
    rw [List.foldl_cons, ih hps, reading_exchange_of_carries h hp, transpositions_cons]

/-- What an exchange leaves with each operand stays in its place for ever. -/
theorem reading_run_of_keeps {g : α → β} (h : ∀ x y, g (f x y).1 = g x ∧ g (f x y).2 = g y)
    (hps : ∀ p ∈ ps, p.1 ≠ p.2) (v : Fin n → α) (i : Fin n) :
    g (ps.foldl (exchange f) v i) = g (v i) := by
  induction ps generalizing v with
  | nil => rfl
  | cons p ps ih =>
    obtain ⟨hp, hps⟩ := List.forall_mem_cons.1 hps
    rw [List.foldl_cons, ih hps]
    by_cases h₁ : i = p.1
    · rw [h₁, exchange_left hp, (h _ _).1]
    · by_cases h₂ : i = p.2
      · rw [h₂, exchange_right, (h _ _).2]
      · rw [exchange_of_ne h₁ h₂]

/-- A number that goes up by one in both operands of an exchange counts the exchanges its place takes
part in. -/
theorem reading_run_of_counts {g : α → ℤ} {m : ℤ} (hg : ∀ x, g x % m = g x)
    (h : ∀ x y, g (f x y).1 = (g x + 1) % m ∧ g (f x y).2 = (g y + 1) % m)
    (hps : ∀ p ∈ ps, p.1 ≠ p.2) (v : Fin n → α) (i : Fin n) :
    g (ps.foldl (exchange f) v i) =
      (g (v i) + ps.countP fun p => p.1 = i ∨ p.2 = i) % m := by
  induction ps generalizing v with
  | nil => simp [hg]
  | cons p ps ih =>
    obtain ⟨hp, hps⟩ := List.forall_mem_cons.1 hps
    have hstep : g (exchange f v p i) = (g (v i) + if p.1 = i ∨ p.2 = i then 1 else 0) % m := by
      by_cases h₁ : i = p.1
      · rw [h₁, exchange_left hp, (h _ _).1, if_pos (.inl rfl)]
      · by_cases h₂ : i = p.2
        · rw [h₂, exchange_right, (h _ _).2, if_pos (.inr rfl)]
        · rw [exchange_of_ne h₁ h₂, if_neg (by simp [Ne.symm h₁, Ne.symm h₂]), add_zero, hg]
    rw [List.foldl_cons, ih hps, hstep, Int.emod_add_emod, List.countP_cons]
    split_ifs <;> simp_all [add_assoc, add_comm]

end Runs

variable {t : Ty}

/-- Registers of one type. -/
def ofFn (t : Ty) (v : Fin n → t.Val) : Registers := List.ofFn fun i => ⟨t, v i⟩

theorem fetch_ofFn (v : Fin n → t.Val) (i : Fin n) : (ofFn t v).fetch i = .ok ⟨t, v i⟩ := by
  simp [fetch, ofFn]

theorem set_ofFn (v : Fin n → t.Val) (i : Fin n) (x : t.Val) :
    (ofFn t v).set i ⟨t, x⟩ = ofFn t (Function.update v i x) := by
  apply List.ext_getElem
  · simp [ofFn]
  · intro j hj _
    simp only [ofFn, List.getElem_set, List.getElem_ofFn, Function.update_apply, Fin.ext_iff]
    split_ifs with h₁ h₂ h₂
    · rfl
    · exact absurd h₁.symm h₂
    · exact absurd h₂.symm h₁
    · rfl

variable {cx : Context Leaf.Val} {f : t.Val → t.Val → t.Val × t.Val}

theorem swap_ofFn (hf : t.swap? cx = some f) (v : Fin n → t.Val) {p : Fin n × Fin n}
    (hp : p.1 ≠ p.2) : (ofFn t v).swap cx p.1 p.2 = .ok (ofFn t (exchange f v p)) := by
  have hdata : (⟨t, v p.1⟩ : Datum).swap? cx ⟨t, v p.2⟩ =
      some (⟨t, (f (v p.1) (v p.2)).1⟩, ⟨t, (f (v p.1) (v p.2)).2⟩) := by
    rw [Datum.swap?, dif_pos rfl, hf, Option.map_some]
  rw [swap, fetch_ofFn, fetch_ofFn]
  simp only [bind, Except.bind, if_neg (Fin.val_ne_of_ne hp), hdata, answer, set_ofFn, exchange]

/-- A run of swaps of registers of one type never fails, and each swap exchanges two of the values. -/
theorem swaps_ofFn (hf : t.swap? cx = some f) (v : Fin n → t.Val) {ps : List (Fin n × Fin n)}
    (hps : ∀ p ∈ ps, p.1 ≠ p.2) :
    (ofFn t v).swaps cx (ps.map fun p => (p.1.val, p.2.val)) =
      .ok (ofFn t (ps.foldl (exchange f) v)) := by
  induction ps generalizing v with
  | nil => rfl
  | cons p ps ih =>
    obtain ⟨hp, hps⟩ := List.forall_mem_cons.1 hps
    rw [List.map_cons, swaps, swap_ofFn hf v hp]
    exact ih _ hps

end Collate.Registers
