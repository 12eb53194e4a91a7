import Collate.Proofs.Ladder
import Collate.Specimen

namespace Collate

variable {τ : Type} {V : τ → Type}

/-- What carries an operation out: a function of the values of two types, or of the first alone. -/
abbrev Operation.Impl (V : τ → Type) : Operation → τ → τ → Type
  | equal, a, b => V a → V b → Bool
  | equivalent, a, b => V a → V b → Bool
  | compare, a, b => V a → V b → Outcome
  | render, a, _ => V a → String
  | swap, a, _ => V a → V a → V a × V a

/-- Whether an operation is put into use for `a` and `b`, or for `a` alone. -/
def Bindings.uses (binds : Bindings τ) : Operation → τ → τ → Bool
  | .equal, a, b => binds.equal a b
  | .equivalent, a, b => binds.equivalent a b
  | .compare, a, b => binds.compare a b
  | .render, a, _ => binds.render a
  | .swap, a, _ => binds.swap a

namespace Context

/-- What a context uses for an operation. -/
def operation? (cx : Context V) : (op : Operation) → (a b : τ) → Option (op.Impl V a b)
  | .equal, a, b => cx.equal? a b
  | .equivalent, a, b => cx.equivalent? a b
  | .compare, a, b => cx.compare? a b
  | .render, a, _ => cx.render? a
  | .swap, a, _ => cx.swap? a

/-- The strategies by which a context can carry an operation out, and what each of them does. What
only the right operand offers is applied to the operands exchanged, and a comparison made that way is
flipped back. -/
inductive Supplies (cx : Context V) :
    (op : Operation) → (a b : τ) → Strategy → op.Impl V a b → Prop where
  | compareExtension {a b f} (h : cx.extensions.compare a b = some f) :
      Supplies cx .compare a b .extension f
  | compareMember {a b f} (h : cx.offers.compare a b = some f) :
      Supplies cx .compare a b .memberFunction f
  | compareOperator {a b f} (h : cx.offers.order a b = some f) :
      Supplies cx .compare a b .memberOperator fun x y => .ofPartial (f x y)
  | compareReflected {a b f} (h : cx.offers.compare b a = some f) :
      Supplies cx .compare a b .nonMemberFunction fun x y => (f y x).flip
  | compareReflectedOperator {a b f} (h : cx.offers.order b a = some f) :
      Supplies cx .compare a b .fallback fun x y => (Outcome.ofPartial (f y x)).flip
  | equalExtension {a b f} (h : cx.extensions.equal a b = some f) :
      Supplies cx .equal a b .extension f
  | equalMember {a b f} (h : cx.offers.equal a b = some f) :
      Supplies cx .equal a b .memberFunction f
  | equalReflected {a b f} (h : cx.offers.equal b a = some f) :
      Supplies cx .equal a b .nonMemberFunction fun x y => f y x
  | equalOperator {a b f} (h : cx.offers.same a b = some f) :
      Supplies cx .equal a b .fallback f
  | equivalentExtension {a b f} (h : cx.extensions.equivalent a b = some f) :
      Supplies cx .equivalent a b .extension f
  | equivalentMember {a b f} (h : cx.offers.equivalent a b = some f) :
      Supplies cx .equivalent a b .memberFunction f
  | equivalentReflected {a b f} (h : cx.offers.equivalent b a = some f) :
      Supplies cx .equivalent a b .nonMemberFunction fun x y => f y x
  | equivalentAsEqual {a b f} (h : cx.equal? a b = some f) :
      Supplies cx .equivalent a b .fallback f
  | renderExtension {a b f} (h : cx.extensions.render a = some f) :
      Supplies cx .render a b .extension f
  | renderMember {a b f} (h : cx.offers.describe a = some f) :
      Supplies cx .render a b .memberFunction f
  | renderInspected {a b f} (h : cx.offers.inspect a = some f) :
      Supplies cx .render a b .nonMemberFunction f
  | swapExtension {a b f} (h : cx.extensions.swap a = some f) :
      Supplies cx .swap a b .extension f
  | swapMember {a b f} (h : cx.offers.swap a = some f) :
      Supplies cx .swap a b .memberFunction f
  | swapWhole {a b} (h : cx.offers.movable a = true) :
      Supplies cx .swap a b .fallback fun x y => (y, x)

/-- Whether two contexts supply an operation alike by the strategies of a rank `n` or higher. -/
def AgreeFrom (n : Int) (cx cx' : Context V) (op : Operation) (a b : τ) : Prop :=
  ∀ s, n ≤ s.rank → ∀ f, cx'.Supplies op a b s f ↔ cx.Supplies op a b s f

def ladder (cx : Context V) : (op : Operation) → (a b : τ) → Ladder (op.Impl V a b)
  | .equal, a, b => cx.equalLadder a b
  | .equivalent, a, b => cx.equivalentLadder a b
  | .compare, a, b => cx.compareLadder a b
  | .render, a, _ => cx.renderLadder a
  | .swap, a, _ => cx.swapLadder a

variable {cx cx' : Context V} {op : Operation} {a b : τ} {s : Strategy} {f : op.Impl V a b}

theorem strategy_eq (cx : Context V) (op : Operation) (a b : τ) :
    cx.strategy op a b = (cx.ladder op a b).strategy := by
  cases op <;> rfl

theorem operation?_eq (h : cx.binds.uses op a b = true) :
    cx.operation? op a b = (cx.ladder op a b).resolve := by
  cases op <;> exact if_pos h

theorem uses_of_isSome (h : (cx.operation? op a b).isSome = true) :
    cx.binds.uses op a b = true := by
  by_contra hb
  have hnone : cx.operation? op a b = none := by cases op <;> exact if_neg hb
  rw [hnone] at h
  cases h

theorem candidate_of_supplies (h : cx.Supplies op a b s f) :
    (cx.ladder op a b).candidate s = some f := by
  cases h <;>
    simp only [ladder, compareLadder, equalLadder, equivalentLadder, renderLadder, swapLadder,
      Ladder.candidate, Option.map_some, if_true, *]

theorem supplies_of_candidate (h : (cx.ladder op a b).candidate s = some f) :
    cx.Supplies op a b s f := by
  cases op with
  | equal =>
    cases s with
    | extension => exact .equalExtension h
    | memberFunction => exact .equalMember h
    | nonMemberFunction =>
      obtain ⟨g, hg, rfl⟩ := Option.map_eq_some_iff.1 h
      exact .equalReflected hg
    | fallback => exact .equalOperator h
    | memberOperator | illFormed => cases h
  | equivalent =>
    cases s with
    | extension => exact .equivalentExtension h
    | memberFunction => exact .equivalentMember h
    | nonMemberFunction =>
      obtain ⟨g, hg, rfl⟩ := Option.map_eq_some_iff.1 h
      exact .equivalentReflected hg
    | fallback => exact .equivalentAsEqual h
    | memberOperator | illFormed => cases h
  | compare =>
    cases s with
    | extension => exact .compareExtension h
    | memberFunction => exact .compareMember h
    | memberOperator =>
      obtain ⟨g, hg, rfl⟩ := Option.map_eq_some_iff.1 h
      exact .compareOperator hg
    | nonMemberFunction =>
      obtain ⟨g, hg, rfl⟩ := Option.map_eq_some_iff.1 h
      exact .compareReflected hg
    | fallback =>
      obtain ⟨g, hg, rfl⟩ := Option.map_eq_some_iff.1 h
      exact .compareReflectedOperator hg
    | illFormed => cases h
  | render =>
    cases s with
    | extension => exact .renderExtension h
    | memberFunction => exact .renderMember h
    | nonMemberFunction => exact .renderInspected h
    | memberOperator | fallback | illFormed => cases h
  | swap =>
    cases s with
    | extension => exact .swapExtension h
    | memberFunction => exact .swapMember h
    | fallback =>
      obtain ⟨hm, hf⟩ := Option.ite_none_right_eq_some.1 h
      cases hf
      exact .swapWhole hm
    | memberOperator | nonMemberFunction | illFormed => cases h

theorem supplies_iff : cx.Supplies op a b s f ↔ (cx.ladder op a b).candidate s = some f :=
  ⟨candidate_of_supplies, supplies_of_candidate⟩

theorem operation?_eq_some_iff (h : cx.binds.uses op a b = true) :
    cx.operation? op a b = some f ↔ cx.Supplies op a b (cx.strategy op a b) f := by
  rw [operation?_eq h, Ladder.resolve_eq_candidate, supplies_iff, strategy_eq]

theorem supplies_of_operation? (h : cx.operation? op a b = some f) :
    cx.Supplies op a b (cx.strategy op a b) f :=
  (operation?_eq_some_iff (uses_of_isSome (Option.isSome_of_eq_some h))).1 h

theorem agreeFrom_iff {n : Int} :
    AgreeFrom n cx cx' op a b ↔
      ∀ s, n ≤ s.rank → (cx'.ladder op a b).candidate s = (cx.ladder op a b).candidate s := by
  simp only [AgreeFrom, supplies_iff]
  constructor
  · intro h s hs
    exact Option.ext (h s hs)
  · intro h s hs f
    rw [h s hs]

theorem AgreeFrom.strategy_eq (h : AgreeFrom (cx.strategy op a b).rank cx cx' op a b) :
    cx'.strategy op a b = cx.strategy op a b := by
  rw [Context.strategy_eq cx', Context.strategy_eq cx]
  rw [Context.strategy_eq cx] at h
  exact Ladder.strategy_congr (agreeFrom_iff.1 h)

theorem AgreeFrom.operation?_eq (h : AgreeFrom (cx.strategy op a b).rank cx cx' op a b)
    (hb : cx.binds.uses op a b = true) (hb' : cx'.binds.uses op a b = true) :
    cx'.operation? op a b = cx.operation? op a b := by
  apply Option.ext
  intro f
  rw [operation?_eq_some_iff hb, operation?_eq_some_iff hb', h.strategy_eq]
  exact h _ (Int.le_refl _) f

theorem strategy_eq_of_outranks (hs : cx'.Supplies op a b s f)
    (hrank : (cx.strategy op a b).rank < s.rank) (h : AgreeFrom (s.rank + 1) cx cx' op a b) :
    cx'.strategy op a b = s := by
  rw [strategy_eq] at hrank ⊢
  exact Ladder.strategy_eq_of_outranks (supplies_iff.1 hs) hrank (agreeFrom_iff.1 h)

theorem rank_le_strategy (h : cx.Supplies op a b s f) : s.rank ≤ (cx.strategy op a b).rank := by
  rw [strategy_eq]
  exact Ladder.rank_le_strategy (supplies_iff.1 h)

theorem strategy_eq_illFormed_iff :
    cx.strategy op a b = .illFormed ↔ ∀ s f, ¬cx.Supplies op a b s f := by
  rw [strategy_eq, Ladder.strategy_eq_illFormed_iff]
  simp only [supplies_iff, Option.eq_none_iff_forall_ne_some, ne_eq]

theorem exists_supplies (h : cx.strategy op a b ≠ .illFormed) :
    ∃ f, cx.Supplies op a b (cx.strategy op a b) f := by
  rw [strategy_eq] at h ⊢
  obtain ⟨f, hf⟩ := Option.isSome_iff_exists.1 (Ladder.isSome_candidate_strategy h)
  exact ⟨f, supplies_iff.2 hf⟩

/-- The reported strategy is the highest one that a context has for an operation, and where the
operation is in use it does what that strategy does. What lower strategies do, and whether they are
there, is of no consequence; a higher one takes over as soon as it is there. -/
theorem operation?_by_rank (cx : Context V) (op : Operation) (a b : τ) :
    (∀ s f, cx.Supplies op a b s f → s.rank ≤ (cx.strategy op a b).rank) ∧
      (cx.strategy op a b = .illFormed ↔ ∀ s f, ¬cx.Supplies op a b s f) ∧
      (cx.strategy op a b ≠ .illFormed → ∃ f, cx.Supplies op a b (cx.strategy op a b) f) ∧
      (cx.binds.uses op a b = true →
        (∀ f, cx.operation? op a b = some f ↔ cx.Supplies op a b (cx.strategy op a b) f) ∧
        ∀ cx' : Context V, cx'.binds.uses op a b = true →
          (AgreeFrom (cx.strategy op a b).rank cx cx' op a b →
            cx'.strategy op a b = cx.strategy op a b ∧
              cx'.operation? op a b = cx.operation? op a b) ∧
          ∀ s f, (cx.strategy op a b).rank < s.rank → cx'.Supplies op a b s f →
            AgreeFrom (s.rank + 1) cx cx' op a b →
            cx'.strategy op a b = s ∧ cx'.operation? op a b = some f) := by
  refine ⟨fun _ _ => rank_le_strategy, strategy_eq_illFormed_iff, exists_supplies, fun hb => ?_⟩
  refine ⟨fun _ => operation?_eq_some_iff hb, fun cx' hb' => ⟨fun h => ?_, ?_⟩⟩
  · exact ⟨h.strategy_eq, h.operation?_eq hb hb'⟩
  · intro s f hrank hs h
    have hstrategy : cx'.strategy op a b = s := strategy_eq_of_outranks hs hrank h
    refine ⟨hstrategy, (operation?_eq_some_iff hb').2 ?_⟩
    rw [hstrategy]
    exact hs

/-- A comparison made from the right operand, which a reflected operator below it does not change
and a plain operator above it does. -/
theorem operation?_by_rank_specimens :
    let l : Word .i64 := ⟨4, by decide, by decide⟩
    let r : Word .i64 := ⟨7, by decide, by decide⟩
    let result (p : Specimen) : Option Outcome :=
      (p.context.operation? .compare .left .right).map fun f => f l r
    let p : Specimen := { compare := [.nonMember] }
    p.context.strategy .compare .left .right = .nonMemberFunction ∧ result p = some .less ∧
      result { compare := [.nonMember, .reflectedOperator] } = some .less ∧
      result { compare := [.operator, .nonMember] } = some .incomparable := by
  intro l r result p
  have hstrategy : p.context.strategy .compare .left .right = .nonMemberFunction := by decide
  have hless : result p = some .less := by decide
  obtain ⟨_, _, _, h⟩ := operation?_by_rank p.context .compare .left .right
  obtain ⟨_, hcontexts⟩ := h rfl
  refine ⟨hstrategy, hless, ?_, ?_⟩
  · let q : Specimen := { compare := [.nonMember, .reflectedOperator] }
    have hagree :
        AgreeFrom (p.context.strategy .compare .left .right).rank p.context q.context .compare
          .left .right := by
      refine agreeFrom_iff.2 fun s hs => ?_
      cases s
      case fallback => exact absurd hs (by decide)
      all_goals rfl
    have hsame := ((hcontexts q.context rfl).1 hagree).2
    exact (congrArg (Option.map fun f => f l r) hsame).trans hless
  · let q : Specimen := { compare := [.operator, .nonMember] }
    have hagree :
        AgreeFrom (Strategy.memberOperator.rank + 1) p.context q.context .compare .left .right := by
      refine agreeFrom_iff.2 fun s hs => ?_
      cases s
      case memberOperator | nonMemberFunction | fallback | illFormed =>
        exact absurd hs (by decide)
      all_goals rfl
    have hnew := ((hcontexts q.context rfl).2 .memberOperator _ (by decide)
      (.compareOperator rfl) hagree).2
    rw [show result q = _ from congrArg (Option.map fun f => f l r) hnew]
    decide

end Context
end Collate
