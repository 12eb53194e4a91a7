import Mathlib.Logic.Function.Defs
import Mathlib.Tactic.ByContra
import Mathlib.Tactic.SplitIfs
import Collate.Ladder

namespace Collate

theorem Strategy.rank_injective : Function.Injective Strategy.rank := by
  intro s t h
  cases s <;> cases t <;> first | rfl | cases h

theorem Strategy.neg_one_le_rank (s : Strategy) : -1 ≤ s.rank := by cases s <;> decide

namespace Ladder

variable {F : Type} {l l' : Ladder F} {s : Strategy} {f : F}

theorem resolve_eq_candidate (l : Ladder F) : l.resolve = l.candidate l.strategy := by
  obtain ⟨e, m, o, n, b⟩ := l
  cases e <;> cases m <;> cases o <;> cases n <;> cases b <;> rfl

/-- No rung above the reported one is taken. -/
theorem rank_le_strategy (h : l.candidate s = some f) : s.rank ≤ l.strategy.rank := by
  cases s with
  | illFormed => cases h
  | extension =>
    simp only [candidate] at h
    simp only [strategy, h, Option.isSome_some, if_true, Int.le_refl]
  | memberFunction | memberOperator | nonMemberFunction | fallback =>
    simp only [candidate] at h
    simp only [strategy, h, Option.isSome_some, if_true]
    split_ifs <;> decide

theorem isSome_candidate_strategy (h : l.strategy ≠ .illFormed) :
    (l.candidate l.strategy).isSome = true := by
  revert h
  rw [strategy]
  split_ifs with he hm ho hn hb <;> intro h
  · exact he
  · exact hm
  · exact ho
  · exact hn
  · exact hb
  · exact absurd rfl h

/-- The reported strategy is the one rung taken above which none is, or there is none at all. -/
theorem strategy_eq_iff :
    l.strategy = s ↔
      (s ≠ .illFormed → (l.candidate s).isSome = true) ∧
        ∀ t g, l.candidate t = some g → t.rank ≤ s.rank := by
  constructor
  · rintro rfl
    exact ⟨isSome_candidate_strategy, fun _ _ => rank_le_strategy⟩
  · intro ⟨hs, htop⟩
    apply Strategy.rank_injective
    apply Int.le_antisymm
    · by_cases hl : l.strategy = .illFormed
      · rw [hl]
        exact s.neg_one_le_rank
      · obtain ⟨g, hg⟩ := Option.isSome_iff_exists.1 (isSome_candidate_strategy hl)
        exact htop _ g hg
    · by_cases hill : s = .illFormed
      · rw [hill]
        exact l.strategy.neg_one_le_rank
      · obtain ⟨g, hg⟩ := Option.isSome_iff_exists.1 (hs hill)
        exact rank_le_strategy hg

theorem strategy_eq_illFormed_iff : l.strategy = .illFormed ↔ ∀ t, l.candidate t = none := by
  constructor
  · intro h t
    by_contra hne
    obtain ⟨g, hg⟩ := Option.ne_none_iff_exists'.1 hne
    have hrank : t.rank ≤ l.strategy.rank := rank_le_strategy hg
    rw [h] at hrank
    have ht : t = .illFormed := Strategy.rank_injective (Int.le_antisymm hrank t.neg_one_le_rank)
    rw [ht] at hg
    cases hg
  · intro h
    refine strategy_eq_iff.2 ⟨fun hne => absurd rfl hne, fun t g hg => ?_⟩
    rw [h] at hg
    cases hg

/-- Rungs below the reported one have no say in what is reported. -/
theorem strategy_congr (h : ∀ t, l.strategy.rank ≤ t.rank → l'.candidate t = l.candidate t) :
    l'.strategy = l.strategy := by
  obtain ⟨hs, htop⟩ := strategy_eq_iff.1 (rfl : l.strategy = l.strategy)
  refine strategy_eq_iff.2 ⟨fun hne => ?_, fun t g hg => ?_⟩
  · rw [h _ (Int.le_refl _)]
    exact hs hne
  · rcases Int.le_total t.rank l.strategy.rank with hle | hle
    · exact hle
    · rw [h t hle] at hg
      exact htop t g hg

/-- A new rung above the reported one takes its place. -/
theorem strategy_eq_of_outranks (hs : l'.candidate s = some f) (hrank : l.strategy.rank < s.rank)
    (h : ∀ t, s.rank < t.rank → l'.candidate t = l.candidate t) : l'.strategy = s := by
  refine strategy_eq_iff.2 ⟨fun _ => Option.isSome_of_eq_some hs, fun t g hg => ?_⟩
  rcases Int.lt_or_le s.rank t.rank with hlt | hle
  · rw [h t hlt] at hg
    exact Int.le_trans (rank_le_strategy hg) (Int.le_of_lt hrank)
  · exact hle

end Ladder
end Collate
