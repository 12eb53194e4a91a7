import Collate.Proofs.Context
import Collate.Proofs.Leaf.Number

namespace Collate

/-- What the values of a leaf are compared by: a point of the extended real line or a text. -/
inductive Key where
  | number (v : EReal)
  | text (bytes : List UInt8)

namespace Key

/-- Numbers come before texts, though no comparison ever asks for it. -/
noncomputable instance : Ord Key where
  compare
    | number u, number v => compare u v
    | number _, text _ => .lt
    | text _, number _ => .gt
    | text s, text t => compare s t

@[simp] theorem compare_number (u v : EReal) : compare (number u) (number v) = compare u v := rfl

instance : Std.OrientedOrd Key where
  eq_swap {a b} := by
    rcases a with u | s <;> rcases b with v | t
    · exact (Std.OrientedOrd.eq_swap : compare u v = (compare v u).swap)
    · rfl
    · rfl
    · exact (Std.OrientedOrd.eq_swap : compare s t = (compare t s).swap)

instance : Std.TransOrd Key where
  isLE_trans {a b c} hab hbc := by
    rcases a with u | r <;> rcases b with v | s <;> rcases c with w | t
    · have huv : (compare u v).isLE := hab
      have hvw : (compare v w).isLE := hbc
      exact (Std.TransOrd.isLE_trans huv hvw : (compare u w).isLE)
    · rfl
    · cases hbc
    · rfl
    · cases hab
    · cases hab
    · cases hbc
    · have hrs : (compare r s).isLE := hab
      have hst : (compare s t).isLE := hbc
      exact (Std.TransOrd.isLE_trans hrs hst : (compare r t).isLE)

noncomputable def ofInt (n : Int) : Key := .number ((n : ℝ) : EReal)

theorem compare_ofInt (m n : Int) : compare (ofInt m) (ofInt n) = compare m n := by
  apply Outcome.compare_eq_compare (u := ((m : ℝ) : EReal)) (v := ((n : ℝ) : EReal)) <;>
    rw [EReal.coe_lt_coe_iff, Int.cast_lt]

end Key

namespace Leaf

/-- What a value is compared by where no context changes anything. NaNs have nothing of the kind,
and neither do the types without an order. -/
noncomputable def key : (a : Leaf) → a.Val → Option Key
  | num t, x => (t.value? x).map .number
  | bool, p => some (.ofInt p.toInt)
  | char, c => some (.ofInt c.toNat)
  | unit, _ => some (.ofInt 0)
  | textView, s => some (.text (Text.bytes s))
  | text, s => some (.text (Text.bytes s))
  | outcome, _ => none
  | null, _ => none
  | layered, a => some (.ofInt (-a.toInt))
  | celsius, c => some (.ofInt (inKelvin c))
  | kelvin, k => some (.ofInt k.toInt)
  | label, s => some (.ofInt (Text.bytes s).length)
  | slot, _ => none

theorem between_number (p q : Option EReal) :
    Outcome.between (p.map Key.number) (q.map Key.number) = .between p q :=
  Outcome.between_map Key.compare_number p q

theorem ofOrdering_eq_between {o : Ordering} {m n : Int} (h : o = Ord.compare m n) :
    Outcome.ofOrdering o = .between (some (Key.ofInt m)) (some (Key.ofInt n)) := by
  rw [Outcome.between_some, Key.compare_ofInt, h]

theorem compare_natCast (m n : Nat) : Ord.compare m n = Ord.compare (m : Int) (n : Int) :=
  Outcome.compare_eq_compare Int.ofNat_lt.symm Int.ofNat_lt.symm

theorem compare_neg (m n : Int) : Ord.compare n m = Ord.compare (-m) (-n) :=
  Outcome.compare_eq_compare neg_lt_neg_iff.symm neg_lt_neg_iff.symm

theorem related_of_ordered {a b : Leaf} (h : ordered a b = true) : related a b = true := by
  revert h
  fun_cases ordered a b <;> intro h
  · cases h
  · cases h
  · exact h

/-- Without a context's own rules every comparison is one of keys. -/
theorem intrinsic_compare?_eq {a b : Leaf} {f : a.Val → b.Val → Outcome}
    (h : intrinsic.compare? a b = some f) (x : a.Val) (y : b.Val) :
    f x y = .between (a.key x) (b.key y) := by
  have hb : related a b = true := related_of_ordered (Context.binds_of_compare? h)
  revert hb
  fun_cases related a b <;> intro hb
  case case1 s t =>
    rw [intrinsic_compare?_num] at h
    cases h
    rw [key, key, between_number, NumType.compare_eq]
  case case2 =>
    cases h
    exact ofOrdering_eq_between (by cases x <;> cases y <;> rfl)
  case case3 =>
    cases h
    exact ofOrdering_eq_between (compare_natCast x.toNat y.toNat)
  case case4 =>
    cases h
    exact ofOrdering_eq_between (o := .eq) (m := 0) (n := 0) rfl
  -- texts of either kind have their bytes for keys
  case case5 => cases h; rfl
  case case6 => cases h; rfl
  case case7 => cases h; rfl
  case case8 => cases h; rfl
  case case9 => cases h
  case case10 =>
    cases h
    exact ofOrdering_eq_between (compare_neg x.toInt y.toInt)
  case case11 =>
    cases h
    exact ofOrdering_eq_between (compare_natCast ..)
  case case12 => cases h
  case case13 =>
    cases h
    change (Outcome.ofOrdering (Ord.compare y.toInt (inKelvin x))).flip = _
    rw [Outcome.flip_ofOrdering]
    exact ofOrdering_eq_between Std.OrientedOrd.eq_swap.symm
  case case14 =>
    cases h
    exact ofOrdering_eq_between rfl
  case case15 => cases hb

end Leaf
end Collate
