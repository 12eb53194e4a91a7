import Collate.Proofs.Agreement
import Collate.Proofs.Leaf.Key
import Collate.Proofs.Text.Encoding

namespace Collate

/-- A byte as one of the numbers. -/
def Word.ofByte (b : UInt8) : Word .u8 where
  toInt := b.toNat
  min_le := Int.natCast_nonneg _
  le_max := Int.le_of_lt_add_one (Int.ofNat_lt.2 b.toNat_lt)

/-- The bytes of a text as numbers. -/
def Text.octets (s : String) : List (Word .u8) := (bytes s).map Word.ofByte

namespace Leaf

theorem intrinsic_compare?_char :
    intrinsic.compare? .char .char = some fun c d => .ofNats c.toNat d.toNat := rfl

theorem compareIntegers_ofByte (a b : UInt8) :
    compareIntegers (.ofByte a) (.ofByte b) = .ofNats a.toNat b.toNat := by
  rw [compareIntegers_eq]
  exact congrArg Outcome.ofOrdering (compare_natCast a.toNat b.toNat).symm

theorem intrinsic_compare?_u8 :
    intrinsic.compare? (.num (.int .u8)) (.num (.int .u8)) = some compareIntegers :=
  intrinsic_compare?_num (.int .u8) (.int .u8)

/-- Sequences of built-in values are equal exactly if their comparison says so. -/
theorem sequence_equal_of_compare? {a : Leaf} (ha : a.isBuiltin = true)
    {f : a.Val → a.Val → Outcome} (hf : intrinsic.compare? a a = some f) (xs ys : List a.Val) :
    (intrinsic.equivalent? a a).map (fun e => Sequence.equal e xs ys) =
      some (Sequence.compare f xs ys).isEq := by
  have he : intrinsic.equivalent? a a = some fun x y => (f x y).isEq := by
    rw [← intrinsic_equal?_eq_equivalent? ha, intrinsic_equal?_eq ha, hf, Option.map_some]
  rw [he, Option.map_some, Sequence.equal, Sequence.isEq_compare]

end Leaf

theorem Text.compare_octets (s t : String) :
    Sequence.compare compareIntegers (octets s) (octets t) = .ofOrdering (compare s t) := by
  rw [octets, octets, Sequence.compare_map, compare_eq_bytes]
  exact congrArg (Sequence.compare · (bytes s) (bytes t)) (funext₂ Leaf.compareIntegers_ofByte)

namespace Datum

/-- A text that can be moved or one that can only be looked at. -/
def ofText (movable : Bool) (s : String) : Datum :=
  if movable then ⟨.leaf .text, s⟩ else ⟨.leaf .textView, s⟩

theorem compare?_ofText (m n : Bool) (s t : String) :
    (ofText m s).compare? Leaf.intrinsic (ofText n t) = some (.ofOrdering (Text.compare s t)) := by
  cases m <;> cases n <;> rfl

theorem equal?_ofText (m n : Bool) (s t : String) :
    (ofText m s).equal? Leaf.intrinsic (ofText n t) = some (s == t) := by
  cases m <;> cases n <;> rfl

end Datum

/-- Texts, movable or not, stand to each other as the sequences of their characters do, which go by
their code points, and as those of their bytes do, and are equal exactly if these are. -/
theorem texts_compare_as_spelled (m n : Bool) (s t : String) :
    ∃ o, o = Sequence.compare (fun c d => .ofNats c.toNat d.toNat) s.toList t.toList ∧
      ((Datum.ofText m s).compare? Leaf.intrinsic (.ofText n t) = some o ∧
        (Leaf.intrinsic.compare? .char .char).map (fun f => Sequence.compare f s.toList t.toList) =
          some o ∧
        (Leaf.intrinsic.compare? (.num (.int .u8)) (.num (.int .u8))).map
          (fun f => Sequence.compare f (Text.octets s) (Text.octets t)) = some o) ∧
      (Datum.ofText m s).equal? Leaf.intrinsic (.ofText n t) = some (s == t) ∧
      (Leaf.intrinsic.equivalent? .char .char).map (fun e => Sequence.equal e s.toList t.toList) =
        some (s == t) ∧
      (Leaf.intrinsic.equivalent? (.num (.int .u8)) (.num (.int .u8))).map
        (fun e => Sequence.equal e (Text.octets s) (Text.octets t)) = some (s == t) := by
  obtain ⟨o, ho⟩ : ∃ o, o = Outcome.ofOrdering (Text.compare s t) := ⟨_, rfl⟩
  have hchars : o = Sequence.compare (fun c d => .ofNats c.toNat d.toNat) s.toList t.toList := by
    rw [ho, Text.compare_eq_chars]
  have hoctets : Sequence.compare compareIntegers (Text.octets s) (Text.octets t) = o := by
    rw [Text.compare_octets, ho]
  have heq : o.isEq = (s == t) := by rw [ho, Text.isEq_compare]
  refine ⟨o, hchars, ⟨?_, ?_, ?_⟩, Datum.equal?_ofText m n s t, ?_, ?_⟩
  · rw [Datum.compare?_ofText, ho]
  · rw [Leaf.intrinsic_compare?_char, Option.map_some, hchars]
  · rw [Leaf.intrinsic_compare?_u8, Option.map_some, hoctets]
  · rw [Leaf.sequence_equal_of_compare? rfl Leaf.intrinsic_compare?_char, ← hchars, heq]
  · rw [Leaf.sequence_equal_of_compare? rfl Leaf.intrinsic_compare?_u8, hoctets, heq]

end Collate
