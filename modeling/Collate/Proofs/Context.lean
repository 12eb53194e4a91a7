import Mathlib.Tactic.ByContra
import Collate.Context

namespace Collate

/-- Where a relation of values is there for two types in either order, exchanging the values turns
its answer by `ρ`. -/
def Reverses {τ R : Type} {V : τ → Type} (ρ : R → R) (rel : (a b : τ) → Option (V a → V b → R)) :
    Prop :=
  ∀ ⦃a b f g⦄, rel a b = some f → rel b a = some g → ∀ x y, f x y = ρ (g y x)

/-- Whether all three relations of a context are indifferent to which operand comes first, up to the
flip of a comparison. -/
structure Context.Reversible {τ : Type} {V : τ → Type} (cx : Context V) : Prop where
  compare : Reverses Outcome.flip cx.compare?
  equal : Reverses id cx.equal?
  equivalent : Reverses id cx.equivalent?

namespace Context

variable {τ : Type} {V : τ → Type} {cx : Context V} {a b : τ}

theorem binds_of_compare? {f : V a → V b → Outcome} (h : cx.compare? a b = some f) :
    cx.binds.compare a b = true := by
  by_contra hb
  rw [compare?, if_neg hb] at h
  cases h

theorem binds_of_equal? {f : V a → V b → Bool} (h : cx.equal? a b = some f) :
    cx.binds.equal a b = true := by
  by_contra hb
  rw [equal?, if_neg hb] at h
  cases h

theorem binds_of_equivalent? {f : V a → V b → Bool} (h : cx.equivalent? a b = some f) :
    cx.binds.equivalent a b = true := by
  by_contra hb
  rw [equivalent?, if_neg hb] at h
  cases h

end Context
end Collate
