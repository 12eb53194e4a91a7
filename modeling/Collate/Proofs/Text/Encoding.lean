import Mathlib.Algebra.Order.Group.Nat
import Mathlib.Order.Compare
import Collate.Proofs.Lexicographic
import Collate.Proofs.Text.Order

namespace Collate

namespace Text

open Outcome (ofNats)

/-- The last bytes of a code point's encoding, six bits in each. -/
def continuation (v : Nat) : Nat → List Nat
  | 0 => []
  | k + 1 => (v / 64 ^ k % 64 + 0x80) :: continuation v k

/-- How many bytes follow the first one. -/
def trailing (v : Nat) : Nat :=
  if v ≤ 0x7f then 0 else if v ≤ 0x7ff then 1 else if v ≤ 0xffff then 2 else 3

/-- The bits by which a first byte tells how many bytes follow it. -/
def mark : Nat → Nat
  | 0 => 0
  | 1 => 0xc0
  | 2 => 0xe0
  | _ => 0xf0

def lead (v : Nat) : Nat := v / 64 ^ trailing v + mark (trailing v)

/-- The encoding of a code point, byte by byte. -/
def code (v : Nat) : List Nat := lead v :: continuation v (trailing v)

theorem map_toNat_utf8EncodeChar (c : Char) :
    (String.utf8EncodeChar c).map UInt8.toNat = code c.toNat := by
  -- no code point is so large that its highest bits would be lost from the first byte
  have hv : c.val.toNat < 0x110000 := by
    have h := c.valid
    simp only [UInt32.isValidChar, Nat.isValidChar] at h
    omega
  change (String.utf8EncodeChar c).map UInt8.toNat = code c.val.toNat
  rw [String.utf8EncodeChar]
  generalize c.val.toNat = v at hv ⊢
  rw [code, lead, trailing]
  split_ifs <;>
    simp only [List.map_cons, List.map_nil, UInt8.toNat_ofNat', continuation, mark, List.cons.injEq,
      and_true, Nat.reducePow] <;>
    omega

theorem length_continuation (v k : Nat) : (continuation v k).length = k := by
  induction k with
  | zero => rfl
  | succ k ih => rw [continuation, List.length_cons, ih]

/-- Bytes that follow compare as the numbers that they spell out. -/
theorem compare_continuation (v w k : Nat) :
    Sequence.compare ofNats (continuation v k) (continuation w k) =
      ofNats (v % 64 ^ k) (w % 64 ^ k) := by
  induction k with
  | zero =>
    rw [pow_zero, Nat.mod_one, Nat.mod_one, Outcome.ofNats_self]
    rfl
  | succ k ih =>
    rw [continuation, continuation, Sequence.compare_cons_cons, ih, Outcome.ofNats_add_right,
      Outcome.ofNats_eq_div_mod (v % 64 ^ (k + 1)) _ (64 ^ k), pow_succ, Nat.mod_mul_right_div_self,
      Nat.mod_mul_right_div_self, Nat.mod_mul_right_mod, Nat.mod_mul_right_mod]

/-- The more bytes follow, the greater are the first byte and the code point. -/
theorem lt_of_trailing_lt {v w : Nat} (h : trailing v < trailing w) : lead v < lead w ∧ v < w := by
  rw [lead, lead]
  unfold trailing at h ⊢
  split_ifs at h ⊢ <;> simp only [mark, Nat.reducePow] <;> omega

theorem length_code (v : Nat) : (code v).length = trailing v + 1 := by
  rw [code, List.length_cons, length_continuation]

theorem compare_code {v w : Nat} (h : trailing v = trailing w) :
    Sequence.compare ofNats (code v) (code w) = ofNats v w := by
  rw [code, code, Sequence.compare_cons_cons, lead, lead, h, Outcome.ofNats_add_right,
    compare_continuation, ← Outcome.ofNats_eq_div_mod]

/-- An encoding decides a comparison as its code point does, whatever follows it. -/
theorem compare_code_append (v w : Nat) (r s : List Nat) :
    Sequence.compare ofNats (code v ++ r) (code w ++ s) =
      (ofNats v w).andThen (Sequence.compare ofNats r s) := by
  rcases lt_trichotomy (trailing v) (trailing w) with h | h | h
  · obtain ⟨hlead, hvw⟩ := lt_of_trailing_lt h
    rw [code, code, List.cons_append, List.cons_append, Sequence.compare_cons_cons,
      Outcome.ofNats_of_lt hlead, Outcome.ofNats_of_lt hvw]
    rfl
  -- encodings of one length decide together, as two sequences of that length
  · have hlength : (code v).length = (code w).length := by rw [length_code, length_code, h]
    rw [Sequence.compare_append ofNats hlength, compare_code h]
  · obtain ⟨hlead, hvw⟩ := lt_of_trailing_lt h
    rw [code, code, List.cons_append, List.cons_append, Sequence.compare_cons_cons,
      Outcome.ofNats_of_gt hlead, Outcome.ofNats_of_gt hvw]
    rfl

theorem map_toNat_bytes (s : String) :
    (bytes s).map UInt8.toNat = s.toList.flatMap fun c => code c.toNat := by
  rw [bytes, List.map_flatMap]
  exact congrArg (List.flatMap · s.toList) (funext map_toNat_utf8EncodeChar)

theorem compare_eq_bytes (s t : String) :
    Outcome.ofOrdering (compare s t) =
      Sequence.compare (fun a b => ofNats a.toNat b.toNat) (bytes s) (bytes t) := by
  rw [compare, ← Sequence.compare_ofOrdering]
  simp only [UInt8.compare_eq_toNat_compare_toNat]
  rfl

/-- The order of texts by their bytes is the one by their code points. -/
theorem compare_eq_chars (s t : String) :
    Outcome.ofOrdering (compare s t) =
      Sequence.compare (fun c d => ofNats c.toNat d.toNat) s.toList t.toList := by
  rw [compare_eq_bytes, ← Sequence.compare_map ofNats, map_toNat_bytes, map_toNat_bytes]
  apply Sequence.compare_flatMap
  · exact fun c => List.cons_ne_nil _ _
  · exact fun d => List.cons_ne_nil _ _
  · exact fun c d r s => compare_code_append c.toNat d.toNat r s

end Text
end Collate
