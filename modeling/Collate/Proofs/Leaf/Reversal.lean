import Collate.Proofs.Leaf.Key

namespace Collate

theorem Binary.same_comm {f : FloatFormat} (x y : Binary f) : x.same y = y.same x := by
  have hrank : (x.rank == y.rank) = (y.rank == x.rank) := BEq.comm
  rw [same, same, hrank, Bool.and_comm (!x.isNaN)]

namespace Leaf

theorem related_comm (a b : Leaf) : related a b = related b a := by
  cases a <;> cases b <;> rfl

theorem ordered_comm (a b : Leaf) : ordered a b = ordered b a := by
  cases a <;> cases b <;> rfl

/-- Without a context's own rules every pair that is put into use has something to be carried out
by. -/
theorem isSome_intrinsic_compare? (a b : Leaf) :
    (intrinsic.compare? a b).isSome = ordered a b := by
  cases a <;> cases b <;> try rfl
  rw [intrinsic_compare?_num]
  rfl

theorem isSome_intrinsic_equal? (a b : Leaf) : (intrinsic.equal? a b).isSome = related a b := by
  cases a <;> cases b <;> try rfl
  rw [intrinsic_equal?_num]
  rfl

theorem isSome_intrinsic_equivalent? (a b : Leaf) :
    (intrinsic.equivalent? a b).isSome = related a b := by
  cases a <;> cases b <;> try rfl
  rw [intrinsic_equivalent?_num]
  rfl

theorem intrinsic_compare?_reverses : Reverses Outcome.flip intrinsic.compare? := by
  intro a b f g hf hg x y
  rw [intrinsic_compare?_eq hf, intrinsic_compare?_eq hg, Outcome.flip_between]

theorem intrinsic_equal?_reverses : Reverses id intrinsic.equal? := by
  intro a b f g hf hg x y
  have hb : related a b = true := Context.binds_of_equal? hf
  revert hb
  fun_cases related a b <;> intro hb
  case case1 s t =>
    rw [intrinsic_equal?_num] at hf hg
    cases hf
    cases hg
    exact NumType.isEq_compare_comm s t x y
  -- units and layers are all equal, and the two scales of temperature share one comparison
  case case4 | case10 | case13 | case14 =>
    cases hf
    cases hg
    rfl
  case case15 => cases hb
  all_goals
    cases hf
    cases hg
    exact BEq.comm

/-- Only labels and slots have an equivalence apart from equality. -/
theorem intrinsic_equivalent?_reverses : Reverses id intrinsic.equivalent? := by
  intro a b f g hf hg x y
  have hb : related a b = true := Context.binds_of_equivalent? hf
  revert hb
  fun_cases related a b <;> intro hb
  case case11 | case12 =>
    cases hf
    cases hg
    exact BEq.comm
  case case15 => cases hb
  all_goals exact intrinsic_equal?_reverses hf hg x y

theorem intrinsic_reversible : intrinsic.Reversible :=
  ⟨intrinsic_compare?_reverses, intrinsic_equal?_reverses, intrinsic_equivalent?_reverses⟩

theorem house_compare?_reverses : Reverses Outcome.flip house.compare? := by
  intro a b f g hf hg x y
  have hb : houseOrdered a b = true := Context.binds_of_compare? hf
  revert hb
  fun_cases houseOrdered a b <;> intro hb
  case case1 =>
    cases hf
    cases hg
    exact (Outcome.flip_ofOrdering_compare y.toInt.natAbs x.toInt.natAbs).symm
  case case2 =>
    cases hf
    cases hg
    exact (Outcome.flip_ofOrdering_compare y.totalRank x.totalRank).symm
  case case3 =>
    cases hf
    cases hg
    exact (Outcome.flip_ofOrdering_compare y.toInt x.toInt).symm
  case case4 =>
    cases hf
    cases hg
    exact (Outcome.flip_ofOrdering_compare (Text.bytes y) (Text.bytes x)).symm
  case case5 =>
    cases hf
    cases hg
    rfl
  case case6 =>
    cases hf
    cases hg
    exact NumType.compare_flip (.int .i32) (.float .binary64) x y
  case case7 =>
    cases hf
    cases hg
    exact NumType.compare_flip (.float .binary64) (.int .i32) x y
  -- the other way round this pair is not in use
  case case8 => cases hg
  case case9 =>
    cases hf
    cases hg
    cases x <;> rfl
  case case10 =>
    cases hf
    cases hg
    cases y <;> rfl
  case case11 => cases hb

theorem house_equal?_reverses : Reverses id house.equal? := by
  intro a b f g hf hg x y
  have hb : houseRelated a b = true := Context.binds_of_equal? hf
  revert hb
  fun_cases houseRelated a b <;> intro hb
  case case2 =>
    cases hf
    cases hg
    exact Binary.same_comm x y
  case case6 | case8 | case9 =>
    cases hf
    cases hg
    rfl
  case case7 => cases hg
  case case10 => cases hb
  all_goals
    cases hf
    cases hg
    exact BEq.comm

theorem house_equivalent?_reverses : Reverses id house.equivalent? := by
  intro a b f g hf hg x y
  have hb : houseRelated a b = true := Context.binds_of_equivalent? hf
  revert hb
  fun_cases houseRelated a b <;> intro hb
  case case1 =>
    cases hf
    cases hg
    exact BEq.comm
  case case10 => cases hb
  all_goals exact house_equal?_reverses hf hg x y

theorem house_reversible : house.Reversible :=
  ⟨house_compare?_reverses, house_equal?_reverses, house_equivalent?_reverses⟩

end Leaf
end Collate
