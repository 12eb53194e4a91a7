import Collate.Leaf.Contexts
import Collate.Proofs.Ty.Lifting

namespace Collate

namespace Sequence

variable {α β : Type} {f : α → β → Outcome} {xs xs' : List α} {ys ys' : List β}

/-- How two sequences stand by their lengths alone. -/
def compareLengths (xs : List α) (ys : List β) : Outcome := .ofNats xs.length ys.length

theorem compareLengths_of_eq (h : xs.length = ys.length) : compareLengths xs ys = .equivalent := by
  rw [compareLengths, h, Outcome.ofNats_self]

theorem compareLengths_append (h : xs.length = ys.length) :
    compareLengths (xs ++ xs') (ys ++ ys') = compareLengths xs' ys' := by
  rw [compareLengths, List.length_append, List.length_append, h, Outcome.ofNats_add_left]
  rfl

/-- The comparisons of the places that both sequences have decide first, the lengths second. -/
theorem compare_eq_chain (f : α → β → Outcome) (xs : List α) (ys : List β) :
    compare f xs ys = (Outcome.chain (List.zipWith f xs ys)).andThen (compareLengths xs ys) := by
  induction xs generalizing ys with
  | nil =>
    cases ys with
    | nil => rfl
    | cons y ys => exact (Outcome.ofNats_of_lt (Nat.succ_pos ys.length)).symm
  | cons x xs ih =>
    cases ys with
    | nil => exact (Outcome.ofNats_of_gt (Nat.succ_pos xs.length)).symm
    | cons y ys =>
      have hlengths : compareLengths (x :: xs) (y :: ys) = compareLengths xs ys :=
        compareLengths_append (show [x].length = [y].length from rfl)
      rw [compare_cons_cons, ih, List.zipWith_cons_cons, Outcome.chain_cons, Outcome.andThen_assoc,
        hlengths]

theorem compare_append (f : α → β → Outcome) (h : xs.length = ys.length) (xs' : List α)
    (ys' : List β) :
    compare f (xs ++ xs') (ys ++ ys') = (compare f xs ys).andThen (compare f xs' ys') := by
  rw [compare_eq_chain f (xs ++ xs'), compare_eq_chain f xs, compare_eq_chain f xs',
    List.zipWith_append h, Outcome.chain_append, compareLengths_append h, compareLengths_of_eq h,
    Outcome.andThen_equivalent, Outcome.andThen_assoc]

/-- Where no place decides, the lengths do. -/
theorem compare_of_forall
    (h : ∀ i (hx : i < xs.length) (hy : i < ys.length), f xs[i] ys[i] = .equivalent) :
    compare f xs ys = compareLengths xs ys := by
  have hchain : Outcome.chain (List.zipWith f xs ys) = .equivalent := by
    rw [Outcome.chain_eq_equivalent_iff]
    intro o ho
    obtain ⟨i, hi, rfl⟩ := List.mem_iff_getElem.1 ho
    rw [List.length_zipWith, Nat.lt_min] at hi
    rw [List.getElem_zipWith]
    exact h i hi.1 hi.2
  rw [compare_eq_chain, hchain, Outcome.equivalent_andThen]

/-- The first place that decides settles the matter, whatever comes after it. -/
theorem compare_of_first {i : Nat} (hx : i < xs.length) (hy : i < ys.length)
    (hi : f xs[i] ys[i] ≠ .equivalent)
    (h : ∀ j (hj : j < i), f xs[j] ys[j] = .equivalent) : compare f xs ys = f xs[i] ys[i] := by
  have hlength : (xs.take i).length = (ys.take i).length := by
    rw [List.length_take_of_le hx.le, List.length_take_of_le hy.le]
  have hbefore : compare f (xs.take i) (ys.take i) = .equivalent := by
    rw [compare_of_forall, compareLengths_of_eq hlength]
    intro j hj _
    rw [List.getElem_take, List.getElem_take]
    exact h j (by simpa [hx.le] using hj)
  calc
    compare f xs ys = compare f (xs.take i ++ xs.drop i) (ys.take i ++ ys.drop i) := by
      rw [List.take_append_drop, List.take_append_drop]
    _ = compare f (xs.drop i) (ys.drop i) := by
      rw [compare_append f hlength, hbefore, Outcome.equivalent_andThen]
    _ = f xs[i] ys[i] := by
      rw [List.drop_eq_getElem_cons hx, List.drop_eq_getElem_cons hy, compare_cons_cons,
        Outcome.andThen_of_ne hi]

/-- Whether sequences are compared by the first place at which a comparison of entries does not find
them equivalent, and by their lengths where there is no such place. -/
structure Lexicographic (f : α → β → Outcome) (c : List α → List β → Outcome) : Prop where
  eq_chain : ∀ xs ys, c xs ys =
    ((List.zipWith f xs ys).foldl Outcome.andThen .equivalent).andThen (compareLengths xs ys)
  eq_of_first : ∀ xs ys i (hx : i < xs.length) (hy : i < ys.length), f xs[i] ys[i] ≠ .equivalent →
    (∀ j (hj : j < i), f xs[j] ys[j] = .equivalent) → c xs ys = f xs[i] ys[i]
  eq_of_forall : ∀ xs ys,
    (∀ i (hx : i < xs.length) (hy : i < ys.length), f xs[i] ys[i] = .equivalent) →
      c xs ys = compareLengths xs ys
  append : ∀ xs ys xs' ys', xs.length = ys.length →
    c (xs ++ xs') (ys ++ ys') = (c xs ys).andThen (c xs' ys')

theorem compare_lexicographic (f : α → β → Outcome) : Lexicographic f (compare f) where
  eq_chain xs ys := by rw [Outcome.foldl_andThen, Outcome.equivalent_andThen, compare_eq_chain]
  eq_of_first _ _ _ hx hy := compare_of_first hx hy
  eq_of_forall _ _ := compare_of_forall
  append _ _ xs' ys' h := compare_append f h xs' ys'

end Sequence

/-- Whatever the comparison of entries is, an order or not, that of sequences is lexicographic over
it. In every context the sequences of two types that compare are compared so. -/
theorem sequences_lexicographic :
    (∀ {α β : Type} (f : α → β → Outcome), Sequence.Lexicographic f (Sequence.compare f)) ∧
      ∀ (cx : Context Leaf.Val) {s t : Ty} {f : s.Val → t.Val → Outcome},
        s.compare? cx t = some f → ∃ c, Sequence.Lexicographic f c ∧
          (Ty.list s).compare? cx (.list t) = some c ∧
          (Ty.view s).compare? cx (.view t) = some c ∧
          ∀ m n, (Ty.array m s).compare? cx (.array n t) = some fun xs ys => c xs.1 ys.1 := by
  refine ⟨Sequence.compare_lexicographic, fun cx s t f hf => ?_⟩
  refine ⟨Sequence.compare f, Sequence.compare_lexicographic f, ?_, ?_, fun m n => ?_⟩
  all_goals rw [Ty.compare?, hf, Option.map_some]

/-- A NaN in the second place decides, before the lengths have a say. -/
theorem sequences_lexicographic_nan :
    let nan : Binary .binary64 := ⟨0x7ff8000000000000#64⟩
    let one : Binary .binary64 := ⟨0x3ff0000000000000#64⟩
    ∃ c, (Ty.list (.leaf .f64)).compare? Leaf.intrinsic (.list (.leaf .f64)) = some c ∧
      c [one, nan, one] [one, one] = .incomparable ∧ c [one, one] [one] = .greater ∧
      c ([one] ++ [nan]) ([one] ++ [one]) = (c [one] [one]).andThen (c [nan] [one]) := by
  intro nan one
  obtain ⟨f, hf⟩ : ∃ f, (Ty.leaf .f64).compare? Leaf.intrinsic (.leaf .f64) = some f := ⟨_, rfl⟩
  obtain ⟨c, hc, hlist, -⟩ := sequences_lexicographic.2 Leaf.intrinsic hf
  have hone : f one one = .equivalent := by
    cases hf
    decide
  have hnan : f nan one = .incomparable := by
    cases hf
    decide
  refine ⟨c, hlist, ?_, ?_, hc.append _ _ _ _ rfl⟩
  · rw [hc.eq_of_first _ _ 1 (by decide) (by decide)]
    · exact hnan
    · exact hnan.trans_ne (by decide)
    · intro j hj
      obtain rfl : j = 0 := by omega
      exact hone
  · rw [hc.eq_of_forall]
    · rfl
    · intro i _ hi
      obtain rfl : i = 0 := Nat.lt_one_iff.1 hi
      exact hone

end Collate
