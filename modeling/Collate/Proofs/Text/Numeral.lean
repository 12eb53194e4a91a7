import Mathlib.Data.Nat.Digits.Defs
import Collate.Proofs.Text.Reading
import Collate.Text.Numeral

namespace Collate.Text

theorem toDigits_injective : Function.Injective (Nat.toDigits 10) := by
  have h : Function.LeftInverse (fun cs => Nat.ofDigitChars 10 cs 0) (Nat.toDigits 10) :=
    fun _ => Nat.ofDigitChars_ten_toDigits
  exact h.injective

/-- Whether a character can be part of a decimal. -/
def isDecimal (c : Char) : Bool := c == '-' || c.isDigit

theorem isDecimal_of_mem_decimal {n : Int} {c : Char} (h : c ∈ decimal n) : isDecimal c = true := by
  have hdigits {m : Nat} (hm : c ∈ Nat.toDigits 10 m) : isDecimal c = true := by
    simp [isDecimal, Nat.isDigit_of_mem_toDigits (by decide) (by decide) hm]
  rw [decimal] at h
  split_ifs at h
  · rcases List.mem_cons.1 h with rfl | h
    · rfl
    · exact hdigits h
  · exact hdigits h

theorem toDigits_ne_neg_cons (m : Nat) (cs : List Char) : Nat.toDigits 10 m ≠ '-' :: cs := by
  intro h
  have hmem : '-' ∈ Nat.toDigits 10 m := by simp [h]
  exact absurd (Nat.isDigit_of_mem_toDigits (by decide) (by decide) hmem) (by decide)

/-- No two integers have the same decimal: only negative ones have a sign. -/
theorem decimal_injective : Function.Injective decimal := by
  intro m n h
  rw [decimal, decimal] at h
  split_ifs at h with hm hn hn
  · have habs : m.natAbs = n.natAbs := toDigits_injective (List.cons.inj h).2
    omega
  · exact absurd h.symm (toDigits_ne_neg_cons _ _)
  · exact absurd h (toDigits_ne_neg_cons _ _)
  · have habs : m.natAbs = n.natAbs := toDigits_injective h
    omega

theorem decimal_ne_nil (n : Int) : decimal n ≠ [] := by
  rw [decimal]
  split_ifs
  · exact List.cons_ne_nil _ _
  · exact Nat.toDigits_ne_nil

theorem readable_decimal : Readable fun n => String.ofList (decimal n) := by
  intro m n r s hr hs h
  rw [String.toList_ofList, String.toList_ofList] at h
  have hends {t : List Char} (ht : Ends t) : ∀ c ∈ t.head?, isDecimal c = false := by
    intro c hc
    rcases ht c hc with rfl | rfl | rfl <;> rfl
  obtain ⟨hmn, hrs⟩ := append_inj_of_forall (fun _ => isDecimal_of_mem_decimal)
    (fun _ => isDecimal_of_mem_decimal) (hends hr) (hends hs) h
  exact ⟨decimal_injective hmn, hrs⟩

theorem opens_decimal : Opens fun n => String.ofList (decimal n) := by
  intro n
  obtain ⟨c, cs, hc⟩ := List.exists_cons_of_ne_nil (decimal_ne_nil n)
  have hmem : c ∈ decimal n := by simp [hc]
  refine ⟨c, cs, by rw [String.toList_ofList, hc], ?_⟩
  rintro rfl
  exact absurd (isDecimal_of_mem_decimal hmem) (by decide)

end Collate.Text
