import Mathlib.Logic.Function.Defs
import Collate.Proofs.Outcome
import Collate.Text.Order

namespace Collate.Text

/-- No two texts have the same bytes. -/
theorem bytes_injective : Function.Injective bytes := by
  intro s t h
  have hs : (bytes s).toByteArray = s.toByteArray := String.utf8Encode_toList
  have ht : (bytes t).toByteArray = t.toByteArray := String.utf8Encode_toList
  rw [h, ht] at hs
  exact (String.toByteArray_inj.1 hs).symm

theorem isEq_compare (s t : String) : (Outcome.ofOrdering (compare s t)).isEq = (s == t) := by
  have h : (Outcome.ofOrdering (Ord.compare (bytes s) (bytes t))).isEq = (bytes s == bytes t) :=
    Outcome.isEq_ofOrdering_compare ..
  rw [bytes_injective.beq_eq] at h
  exact h

end Collate.Text
