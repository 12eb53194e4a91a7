import Collate.Datum
import Collate.Leaf.Contexts
import Collate.Proofs.Number.Exact

namespace Collate

/-- Whether a number is a NaN, whatever its sign and payload. -/
def NumType.isNaN : (t : NumType) → t.Val → Bool
  | int _, _ => false
  | float _, x => x.isNaN

theorem NumType.value?_eq_none_iff (t : NumType) (a : t.Val) :
    t.value? a = none ↔ t.isNaN a = true := by
  cases t with
  | int t => simp [value?, isNaN]
  | float f =>
    rw [value?, isNaN, Binary.value?]
    split_ifs with hn <;> simp [hn]

theorem NumType.order_self (t : NumType) : (t.order t).isSome = true := by
  rcases t with t | f
  · simp [order]
  · cases f <;> rfl

theorem NumType.same_self (t : NumType) : (t.same t).isSome = true := by
  rcases t with t | f
  · simp [same]
  · cases f <;> rfl

theorem NumType.compare_flip (s t : NumType) (a : s.Val) (b : t.Val) :
    compare s t a b = (compare t s b a).flip := by
  rw [compare_eq, compare_eq, Outcome.flip_between]

theorem NumType.isEq_compare_comm (s t : NumType) (a : s.Val) (b : t.Val) :
    (compare s t a b).isEq = (compare t s b a).isEq := by
  rw [compare_flip, Outcome.isEq_flip]

namespace Leaf

/-- Whichever rung carries it out, numbers are compared exactly. -/
theorem intrinsic_compare?_num (s t : NumType) :
    intrinsic.compare? (num s) (num t) = some (NumType.compare s t) := by
  change (intrinsic.compareLadder (num s) (num t)).resolve = _
  by_cases h : s = t
  · subst h
    obtain ⟨o, ho⟩ := Option.isSome_iff_exists.1 s.order_self
    have hl : (intrinsic.compareLadder (num s) (num s)).resolve =
        some fun x y => .ofPartial (o x y) := by
      simp [Context.compareLadder, Ladder.resolve, intrinsic, offers, compare, order, ho]
    rw [hl]
    exact congrArg some (funext₂ (NumType.ofPartial_order ho))
  · simp [Context.compareLadder, Ladder.resolve, intrinsic, offers, compare, h]

theorem intrinsic_equal?_num (s t : NumType) :
    intrinsic.equal? (num s) (num t) = some fun x y => (NumType.compare s t x y).isEq := by
  change (intrinsic.equalLadder (num s) (num t)).resolve = _
  by_cases h : s = t
  · subst h
    obtain ⟨e, he⟩ := Option.isSome_iff_exists.1 s.same_self
    have hl : (intrinsic.equalLadder (num s) (num s)).resolve = some e := by
      simp [Context.equalLadder, Ladder.resolve, intrinsic, offers, equal, same, he]
    rw [hl]
    exact congrArg some (funext₂ (NumType.same_eq he))
  · simp [Context.equalLadder, Ladder.resolve, intrinsic, offers, equal, h]

theorem intrinsic_equivalent?_num (s t : NumType) :
    intrinsic.equivalent? (num s) (num t) = some fun x y => (NumType.compare s t x y).isEq :=
  intrinsic_equal?_num s t

/-- Whether the values of a leaf are told apart less finely by equivalence than by equality. -/
def hasEquivalence : Leaf → Bool
  | label | slot => true
  | _ => false

theorem intrinsic_equivalent?_eq_equal? {a : Leaf} (ha : a.hasEquivalence = false) (b : Leaf) :
    intrinsic.equivalent? a b = intrinsic.equal? a b := by
  cases a <;> try cases ha
  all_goals cases b <;> rfl

end Leaf

/-- Numbers of any two types stand to each other as their mathematical values do on the extended
real line, neither of them rounded, and a NaN stands to nothing. Equality, equivalence and the exact
comparison give the same answer, whether or not the types are the same. -/
theorem numbers_relate_by_value (s t : NumType) (a : s.Val) (b : t.Val) :
    let x : Datum := ⟨.leaf (.num s), a⟩
    let y : Datum := ⟨.leaf (.num t), b⟩
    let o : Outcome := .between (s.value? a) (t.value? b)
    x.compare? Leaf.intrinsic y = some o ∧
      x.equal? Leaf.intrinsic y = some (o == .equivalent) ∧
      x.equivalent? Leaf.intrinsic y = some (o == .equivalent) ∧
      NumType.compare s t a b = o ∧
      (o = .incomparable ↔ s.isNaN a = true ∨ t.isNaN b = true) := by
  intro x y o
  have hexact : NumType.compare s t a b = o := NumType.compare_eq s t a b
  have hcompare : x.compare? Leaf.intrinsic y = some (NumType.compare s t a b) := by
    simp only [x, y, Datum.compare?, Ty.compare?, Leaf.intrinsic_compare?_num, Option.map_some]
  have hequal : x.equal? Leaf.intrinsic y = some (NumType.compare s t a b).isEq := by
    simp only [x, y, Datum.equal?, Ty.equal?, Leaf.intrinsic_equal?_num, Option.map_some]
  have hequivalent : x.equivalent? Leaf.intrinsic y = some (NumType.compare s t a b).isEq := by
    simp only [x, y, Datum.equivalent?, Ty.equivalent?, Leaf.intrinsic_equivalent?_num,
      Option.map_some]
  rw [hexact] at hcompare hequal hequivalent
  rw [Outcome.isEq_eq_beq] at hequal hequivalent
  refine ⟨hcompare, hequal, hequivalent, hexact, ?_⟩
  rw [Outcome.between_eq_incomparable_iff, NumType.value?_eq_none_iff, NumType.value?_eq_none_iff]

end Collate
