import Mathlib.Order.Compare
import Mathlib.Order.Lattice
import Collate.Outcome.Basic

namespace Collate.Outcome

theorem isEq_flip (o : Outcome) : o.flip.isEq = o.isEq := by cases o <;> rfl

theorem isEq_eq_beq (o : Outcome) : o.isEq = (o == equivalent) := by cases o <;> rfl

theorem isEq_iff {o : Outcome} : o.isEq = true ↔ o = equivalent := by
  rw [isEq_eq_beq, beq_iff_eq]

theorem flip_ofOrdering_compare {K : Type*} [Ord K] [Std.OrientedOrd K] (u v : K) :
    (ofOrdering (compare u v)).flip = ofOrdering (compare v u) := by
  rw [flip_ofOrdering, ← Std.OrientedOrd.eq_swap]

/-- How two values stand by their keys. A value without a key compares with nothing. -/
def between {K : Type*} [Ord K] : Option K → Option K → Outcome
  | some u, some v => ofOrdering (compare u v)
  | _, _ => incomparable

section Keys

variable {K L : Type*}

@[simp] theorem between_some [Ord K] (u v : K) :
    between (some u) (some v) = ofOrdering (compare u v) := rfl

@[simp] theorem between_none_left [Ord K] (q : Option K) : between none q = incomparable := rfl

@[simp] theorem between_none_right [Ord K] (p : Option K) : between p none = incomparable := by
  cases p <;> rfl

theorem ofOrdering_ne_incomparable (o : Ordering) : ofOrdering o ≠ incomparable := by
  cases o <;> decide

theorem ofOrdering_eq_equivalent_iff {o : Ordering} : ofOrdering o = equivalent ↔ o = .eq := by
  cases o <;> decide

theorem between_eq_incomparable_iff [Ord K] {p q : Option K} :
    between p q = incomparable ↔ p = none ∨ q = none := by
  cases p <;> cases q <;> simp [ofOrdering_ne_incomparable]

theorem flip_between [Ord K] [Std.OrientedOrd K] (p q : Option K) :
    (between p q).flip = between q p := by
  cases p <;> cases q <;> try rfl
  exact flip_ofOrdering_compare ..

theorem isEq_between_self [Ord K] [Std.ReflOrd K] (p : Option K) :
    (between p p).isEq = p.isSome := by
  cases p with
  | none => rfl
  | some u => rw [between_some, Std.ReflOrd.compare_self]; rfl

theorem isEq_ofOrdering (o : Ordering) : (ofOrdering o).isEq = (o == .eq) := by cases o <;> rfl

theorem isEq_ofOrdering_compare {K : Type*} [Ord K] [BEq K] [Std.LawfulBEqOrd K] (u v : K) :
    (ofOrdering (compare u v)).isEq = (u == v) := by
  rw [isEq_ofOrdering, Std.compare_beq_eq_beq]

theorem ofOrdering_then (o p : Ordering) :
    ofOrdering (o.then p) = (ofOrdering o).andThenWith fun _ => ofOrdering p := by
  cases o <;> rfl

theorem between_map [Ord K] [Ord L] {f : K → L} (hf : ∀ u v, compare (f u) (f v) = compare u v)
    (p q : Option K) : between (p.map f) (q.map f) = between p q := by
  cases p <;> cases q <;> try rfl
  rw [Option.map_some, Option.map_some, between_some, between_some, hf]

end Keys

/-- Two linear orders answer alike where they agree on what is less. -/
theorem compare_eq_compare {K L : Type*} [LinearOrder K] [LinearOrder L] {u v : K} {a b : L}
    (h : u < v ↔ a < b) (h' : v < u ↔ b < a) : compare u v = compare a b := by
  rcases lt_trichotomy a b with hab | hab | hab
  · rw [compare_lt_iff_lt.2 hab, compare_lt_iff_lt.2 (h.2 hab)]
  · have hu : ¬u < v := fun hu => (h.1 hu).ne hab
    have hv : ¬v < u := fun hv => (h'.1 hv).ne' hab
    rw [compare_eq_iff_eq.2 hab, compare_eq_iff_eq.2 (le_antisymm (not_lt.1 hv) (not_lt.1 hu))]
  · rw [compare_gt_iff_gt.2 hab, compare_gt_iff_gt.2 (h'.2 hab)]

/-- How one natural number stands to another. -/
def ofNats (m n : Nat) : Outcome := ofOrdering (compare m n)

theorem ofNats_of_lt {m n : Nat} (h : m < n) : ofNats m n = less := by
  rw [ofNats, compare_lt_iff_lt.2 h]
  rfl

theorem ofNats_of_gt {m n : Nat} (h : n < m) : ofNats m n = greater := by
  rw [ofNats, compare_gt_iff_gt.2 h]
  rfl

theorem ofNats_self (n : Nat) : ofNats n n = equivalent := by
  rw [ofNats, compare_eq_iff_eq.2 rfl]
  rfl

theorem ofNats_add_left (k m n : Nat) : ofNats (k + m) (k + n) = ofNats m n :=
  congrArg ofOrdering (compare_eq_compare Nat.add_lt_add_iff_left Nat.add_lt_add_iff_left)

theorem ofNats_add_right (m n k : Nat) : ofNats (m + k) (n + k) = ofNats m n := by
  rw [Nat.add_comm m, Nat.add_comm n, ofNats_add_left]

/-- Quotients decide first, remainders second. -/
theorem ofNats_eq_div_mod (m n k : Nat) :
    ofNats m n = (ofNats (m / k) (n / k)).andThen (ofNats (m % k) (n % k)) := by
  rcases Nat.lt_trichotomy (m / k) (n / k) with h | h | h
  · rw [ofNats_of_lt h, ofNats_of_lt (Nat.lt_of_div_lt_div h)]
    rfl
  · rw [h, ofNats_self, equivalent_andThen]
    conv_lhs => rw [← Nat.div_add_mod m k, ← Nat.div_add_mod n k, h]
    rw [ofNats_add_left]
  · rw [ofNats_of_gt h, ofNats_of_gt (Nat.lt_of_div_lt_div h)]
    rfl

/-- Two outcomes that lean the same way: neither is `greater`, or neither is `less`, and both
relate their operands. -/
def Concordant (o p : Outcome) : Prop := (o.isLE ∧ p.isLE) ∨ (o.isGE ∧ p.isGE)

instance (o p : Outcome) : Decidable (Concordant o p) := inferInstanceAs (Decidable (_ ∨ _))

theorem Concordant.of_andThen {o o' p p' : Outcome}
    (h : Concordant (o.andThen o') (p.andThen p')) : Concordant o p := by
  revert h
  cases o <;> cases p <;> cases o' <;> cases p' <;> decide

/-- Of two chains that lean the same way, it makes no difference whether they are joined end to end
or link by link. -/
theorem Concordant.andThen_comm {o o' p p' : Outcome}
    (h : Concordant (o.andThen o') (p.andThen p')) :
    (o.andThen o').andThen (p.andThen p') = (o.andThen p).andThen (o'.andThen p') := by
  revert h
  cases o <;> cases p <;> cases o' <;> cases p' <;> decide

theorem andThen_eq_equivalent_iff {o p : Outcome} :
    o.andThen p = equivalent ↔ o = equivalent ∧ p = equivalent := by
  cases o <;> cases p <;> decide

/-- An outcome that is decided does not depend on the next one. -/
theorem andThen_congr {o p q : Outcome} (h : o = equivalent → p = q) :
    o.andThen p = o.andThen q := by
  cases o
  case equivalent => exact h rfl
  all_goals rfl

theorem andThen_equivalent (o : Outcome) : o.andThen equivalent = o := by cases o <;> rfl

theorem andThen_of_ne {o : Outcome} (h : o ≠ equivalent) (p : Outcome) : o.andThen p = o := by
  cases o
  case equivalent => exact absurd rfl h
  all_goals rfl

/-- The first outcome of a list that is not `equivalent`, if there is one. -/
def chain (os : List Outcome) : Outcome := os.foldr andThen equivalent

@[simp] theorem chain_nil : chain [] = equivalent := rfl

@[simp] theorem chain_cons (o : Outcome) (os : List Outcome) :
    chain (o :: os) = o.andThen (chain os) := rfl

theorem chain_append (os ps : List Outcome) : chain (os ++ ps) = (chain os).andThen (chain ps) := by
  induction os with
  | nil => rfl
  | cons o os ih => simp only [List.cons_append, chain_cons, ih, andThen_assoc]

theorem foldl_andThen (os : List Outcome) (o : Outcome) :
    os.foldl andThen o = o.andThen (chain os) := by
  induction os generalizing o with
  | nil => exact (andThen_equivalent o).symm
  | cons p os ih => rw [List.foldl_cons, ih, chain_cons, andThen_assoc]

theorem chain_eq_equivalent_iff {os : List Outcome} :
    chain os = equivalent ↔ ∀ o ∈ os, o = equivalent := by
  induction os with
  | nil => exact iff_of_true rfl (List.forall_mem_nil _)
  | cons o os ih => rw [chain_cons, andThen_eq_equivalent_iff, ih, List.forall_mem_cons]

theorem chain_eq_iff {o : Outcome} (ho : o ≠ equivalent) {os : List Outcome} :
    chain os = o ↔ ∃ before after, os = before ++ o :: after ∧ ∀ p ∈ before, p = equivalent := by
  constructor
  · intro h
    induction os with
    | nil => exact absurd h.symm ho
    | cons p os ih =>
      rw [chain_cons] at h
      by_cases hp : p = equivalent
      · subst hp
        obtain ⟨before, after, rfl, hbefore⟩ := ih h
        exact ⟨equivalent :: before, after, rfl, List.forall_mem_cons.2 ⟨rfl, hbefore⟩⟩
      · rw [andThen_of_ne hp] at h
        subst h
        exact ⟨[], os, rfl, List.forall_mem_nil _⟩
  · rintro ⟨before, after, rfl, hbefore⟩
    induction before with
    | nil => exact andThen_of_ne ho _
    | cons p before ih =>
      obtain ⟨hp, hrest⟩ := List.forall_mem_cons.1 hbefore
      rw [List.cons_append, chain_cons, hp, equivalent_andThen]
      exact ih hrest

/-- Of an answer that relates its operands exactly one of the three readings holds. -/
theorem count_readings {o : Outcome} (h : o ≠ incomparable) :
    [o.isLT, o.isEq, o.isGT].count true = 1 := by
  cases o
  case incomparable => exact absurd rfl h
  all_goals rfl

theorem Concordant.andThen_greater {o : Outcome} (h : Concordant o greater) :
    o.andThen greater = greater := by
  revert h
  cases o <;> decide

theorem Concordant.ne_incomparable {o p : Outcome} (h : Concordant o p) :
    o ≠ incomparable ∧ p ≠ incomparable := by
  revert h
  cases o <;> cases p <;> decide

theorem concordant_ofOrdering_iff {o p : Ordering} :
    Concordant (ofOrdering o) (ofOrdering p) ↔ o.isLE ∧ p.isLE ∨ o.isGE ∧ p.isGE := by
  cases o <;> cases p <;> decide

/-- In a linear order what leans the same way twice leans so altogether, strictly if one of the two
does. -/
theorem compare_eq_then {K : Type*} [Ord K] [Std.TransOrd K] {u v w : K}
    (h : (compare u v).isLE ∧ (compare v w).isLE ∨ (compare u v).isGE ∧ (compare v w).isGE) :
    compare u w = (compare u v).then (compare v w) := by
  cases huv : compare u v with
  | lt =>
    rw [huv] at h
    rcases h with h | h
    · exact Std.TransCmp.lt_of_lt_of_isLE huv h.2
    · cases h.1
  | eq => exact Std.TransCmp.congr_left huv
  | gt =>
    rw [huv] at h
    rcases h with h | h
    · cases h.1
    · exact Std.TransCmp.gt_of_gt_of_isGE huv h.2

theorem between_trans {K : Type*} [Ord K] [Std.TransOrd K] {p q r : Option K}
    (h : Concordant (between p q) (between q r)) :
    between p r = (between p q).andThen (between q r) := by
  obtain ⟨hpq, hqr⟩ := h.ne_incomparable
  simp only [ne_eq, between_eq_incomparable_iff, not_or, Option.ne_none_iff_exists'] at hpq hqr
  obtain ⟨⟨u, rfl⟩, v, rfl⟩ := hpq
  obtain ⟨w, rfl⟩ := hqr.2
  rw [between_some, between_some, concordant_ofOrdering_iff] at h
  rw [between_some, between_some, between_some, compare_eq_then h, ofOrdering_then]
  rfl

end Collate.Outcome
