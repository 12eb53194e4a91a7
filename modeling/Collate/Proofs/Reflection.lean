import Collate.Leaf.Contexts
import Collate.Proofs.Resolution

namespace Collate

variable {τ : Type} {V : τ → Type} {op : Operation} {s t u : Strategy}

namespace Operation

/-- The strategy that does directly, once the operands are exchanged, what a reflected one does from
the right operand. -/
def direct? : Operation → Strategy → Option Strategy
  | compare, .nonMemberFunction => some .memberFunction
  | compare, .fallback => some .memberOperator
  | equal, .nonMemberFunction => some .memberFunction
  | equivalent, .nonMemberFunction => some .memberFunction
  | _, _ => none

theorem ne_illFormed_of_direct? (h : op.direct? s = some t) : s ≠ .illFormed ∧ t ≠ .illFormed := by
  revert h
  fun_cases direct? op s <;> intro h <;> cases h <;> decide

theorem rank_of_direct? (h : op.direct? s = some t) : t.rank = s.rank + 2 := by
  revert h
  fun_cases direct? op s <;> intro h <;> cases h <;> rfl

/-- Whatever outranks a direct strategy is direct itself, or comes from the context. -/
theorem exists_direct?_of_rank_lt (h : op.direct? s = some t) (hu : t.rank < u.rank) :
    u = .extension ∨ ∃ r, op.direct? r = some u := by
  revert h
  fun_cases direct? op s <;> intro h <;> cases h
  case case2 =>
    cases u <;> try exact absurd hu (by decide)
    · exact .inl rfl
    · exact .inr ⟨.nonMemberFunction, rfl⟩
  all_goals
    cases u <;> try exact absurd hu (by decide)
    exact .inl rfl

/-- Whether two implementations do the same on exchanged operands, up to the flip of a comparison. -/
inductive Mirrors :
    (op : Operation) → {a b : τ} → op.Impl V a b → op.Impl V b a → Prop where
  | compare {a b} {f : V a → V b → Outcome} {g : V b → V a → Outcome}
      (h : ∀ x y, f x y = (g y x).flip) : Mirrors .compare f g
  | equal {a b} {f : V a → V b → Bool} {g : V b → V a → Bool}
      (h : ∀ x y, f x y = g y x) : Mirrors .equal f g
  | equivalent {a b} {f : V a → V b → Bool} {g : V b → V a → Bool}
      (h : ∀ x y, f x y = g y x) : Mirrors .equivalent f g

end Operation

namespace Context

variable {cx : Context V} {a b : τ}

/-- What is reported is there, and nothing above it is. -/
theorem strategy_eq_iff (hs : s ≠ .illFormed) :
    cx.strategy op a b = s ↔
      (∃ f, cx.Supplies op a b s f) ∧ ∀ t f, cx.Supplies op a b t f → t.rank ≤ s.rank := by
  rw [strategy_eq, Ladder.strategy_eq_iff]
  simp only [supplies_iff, Option.isSome_iff_exists, hs, ne_eq, not_false_eq_true, true_imp_iff]

theorem operation?_eq_some (hb : cx.binds.uses op a b = true) (hs : cx.strategy op a b = s)
    {f : op.Impl V a b} (hf : cx.Supplies op a b s f) : cx.operation? op a b = some f := by
  rw [operation?_eq_some_iff hb, hs]
  exact hf

namespace Supplies

theorem direct {f : op.Impl V a b} (hf : cx.Supplies op a b s f) (h : op.direct? s = some t) :
    ∃ g, cx.Supplies op b a t g ∧ op.Mirrors f g := by
  cases hf with
  | compareReflected hg =>
    cases h
    exact ⟨_, .compareMember hg, .compare fun _ _ => rfl⟩
  | compareReflectedOperator hg =>
    cases h
    exact ⟨_, .compareOperator hg, .compare fun _ _ => rfl⟩
  | equalReflected hg =>
    cases h
    exact ⟨_, .equalMember hg, .equal fun _ _ => rfl⟩
  | equivalentReflected hg =>
    cases h
    exact ⟨_, .equivalentMember hg, .equivalent fun _ _ => rfl⟩
  | _ => cases h

theorem reflected {g : op.Impl V b a} (hg : cx.Supplies op b a t g) (h : op.direct? s = some t) :
    ∃ f, cx.Supplies op a b s f := by
  revert h
  fun_cases Operation.direct? op s <;> intro h <;> cases h
  case case1 => cases hg with | compareMember hg => exact ⟨_, .compareReflected hg⟩
  case case2 => cases hg with | compareOperator hg => exact ⟨_, .compareReflectedOperator hg⟩
  case case3 => cases hg with | equalMember hg => exact ⟨_, .equalReflected hg⟩
  case case4 => cases hg with | equivalentMember hg => exact ⟨_, .equivalentReflected hg⟩

end Supplies

theorem not_supplies_extension (h : (cx.ladder op a b).extension = none) (f : op.Impl V a b) :
    ¬cx.Supplies op a b .extension f := by
  intro hf
  exact nomatch h.symm.trans (supplies_iff.1 hf)

/-- With the operands exchanged all direct strategies stand two ranks above their reflections, so the
best reflection becomes the best of all. -/
theorem strategy_of_reflected (hs : cx.strategy op a b = s) (h : op.direct? s = some t)
    (he : ∀ g, ¬cx.Supplies op b a .extension g) : cx.strategy op b a = t := by
  have hrank : t.rank = s.rank + 2 := Operation.rank_of_direct? h
  obtain ⟨hne, hne'⟩ := Operation.ne_illFormed_of_direct? h
  obtain ⟨⟨f, hf⟩, htop⟩ := (strategy_eq_iff hne).1 hs
  obtain ⟨g, hg, -⟩ := hf.direct h
  refine (strategy_eq_iff hne').2 ⟨⟨g, hg⟩, fun u k hk => ?_⟩
  by_contra hlt
  rcases Operation.exists_direct?_of_rank_lt h (Int.not_le.1 hlt) with rfl | ⟨r, hr⟩
  · exact he k hk
  · obtain ⟨f', hf'⟩ := hk.reflected hr
    have hle : r.rank ≤ s.rank := htop r f' hf'
    have hrank' : u.rank = r.rank + 2 := Operation.rank_of_direct? hr
    omega

theorem mirrors_of_reflected (hs : cx.strategy op a b = s) (h : op.direct? s = some t)
    (he : ∀ g, ¬cx.Supplies op b a .extension g) (hb : cx.binds.uses op a b = true)
    (hb' : cx.binds.uses op b a = true) :
    ∃ f g, cx.operation? op a b = some f ∧ cx.operation? op b a = some g ∧ op.Mirrors f g := by
  obtain ⟨hne, -⟩ := Operation.ne_illFormed_of_direct? h
  obtain ⟨⟨f, hf⟩, -⟩ := (strategy_eq_iff hne).1 hs
  obtain ⟨g, hg, hfg⟩ := hf.direct h
  exact ⟨f, g, operation?_eq_some hb hs hf,
    operation?_eq_some hb' (strategy_of_reflected hs h he) hg, hfg⟩

/-- An operation that is carried out from its right operand is carried out directly, exactly two
ranks higher, once the operands are exchanged, unless the context has something of its own for that
order of them. A comparison then comes out flipped, equality and equivalence come out the same. -/
theorem reflected_coherent (cx : Context V) (a b : τ) :
    (cx.extensions.compare b a = none →
      ∀ s t, (s, t) ∈ [(.nonMemberFunction, .memberFunction), (.fallback, .memberOperator)] →
        cx.strategy .compare a b = s →
          cx.strategy .compare b a = t ∧ t.rank = s.rank + 2 ∧
          (cx.binds.compare a b = true → cx.binds.compare b a = true →
            ∃ f g, cx.compare? a b = some f ∧ cx.compare? b a = some g ∧
              ∀ x y, f x y = (g y x).flip)) ∧
      (cx.extensions.equal b a = none → cx.strategy .equal a b = .nonMemberFunction →
        cx.strategy .equal b a = .memberFunction ∧
        (cx.binds.equal a b = true → cx.binds.equal b a = true →
          ∃ f g, cx.equal? a b = some f ∧ cx.equal? b a = some g ∧ ∀ x y, f x y = g y x)) ∧
      (cx.extensions.equivalent b a = none → cx.strategy .equivalent a b = .nonMemberFunction →
        cx.strategy .equivalent b a = .memberFunction ∧
        (cx.binds.equivalent a b = true → cx.binds.equivalent b a = true →
          ∃ f g, cx.equivalent? a b = some f ∧ cx.equivalent? b a = some g ∧
            ∀ x y, f x y = g y x)) := by
  refine ⟨fun he s t hst hs => ?_, fun he hs => ?_, fun he hs => ?_⟩
  · have hdirect : Operation.direct? .compare s = some t := by
      simp only [List.mem_cons, Prod.mk.injEq, List.not_mem_nil, or_false] at hst
      rcases hst with ⟨rfl, rfl⟩ | ⟨rfl, rfl⟩ <;> rfl
    have hext : ∀ g, ¬cx.Supplies .compare b a .extension g := not_supplies_extension he
    refine ⟨strategy_of_reflected hs hdirect hext, Operation.rank_of_direct? hdirect, ?_⟩
    intro hb hb'
    obtain ⟨f, g, hf, hg, hfg⟩ := mirrors_of_reflected hs hdirect hext hb hb'
    cases hfg with
    | compare h => exact ⟨f, g, hf, hg, h⟩
  · have hext : ∀ g, ¬cx.Supplies .equal b a .extension g := not_supplies_extension he
    refine ⟨strategy_of_reflected hs rfl hext, fun hb hb' => ?_⟩
    obtain ⟨f, g, hf, hg, hfg⟩ := mirrors_of_reflected hs rfl hext hb hb'
    cases hfg with
    | equal h => exact ⟨f, g, hf, hg, h⟩
  · have hext : ∀ g, ¬cx.Supplies .equivalent b a .extension g := not_supplies_extension he
    refine ⟨strategy_of_reflected hs rfl hext, fun hb hb' => ?_⟩
    obtain ⟨f, g, hf, hg, hfg⟩ := mirrors_of_reflected hs rfl hext hb hb'
    cases hfg with
    | equivalent h => exact ⟨f, g, hf, hg, h⟩

/-- Degrees Celsius are compared by the kelvin they meet and kelvin are equal by the degrees they
meet, and a specimen has nothing but the order of its right operand. -/
theorem reflected_coherent_temperatures :
    let cx := Leaf.intrinsic
    let p : Specimen := { compare := [.reflectedOperator], equivalent := [.nonMember] }
    let x : Word .i64 := ⟨7, by decide, by decide⟩
    let y : Word .i64 := ⟨271, by decide, by decide⟩
    (cx.strategy .compare .celsius .kelvin = .nonMemberFunction ∧
        cx.strategy .compare .kelvin .celsius = .memberFunction ∧
        ∃ f g, cx.compare? .celsius .kelvin = some f ∧ cx.compare? .kelvin .celsius = some g ∧
          (∀ x y, f x y = (g y x).flip) ∧ f x y = .greater ∧ g y x = .less) ∧
      (cx.strategy .equal .kelvin .celsius = .nonMemberFunction ∧
        cx.strategy .equal .celsius .kelvin = .memberFunction) ∧
      (p.context.strategy .compare .left .right = .fallback ∧
        p.context.strategy .compare .right .left = .memberOperator ∧
        ∃ f g, p.context.compare? .left .right = some f ∧ p.context.compare? .right .left = some g ∧
          (∀ x y, f x y = (g y x).flip) ∧ f x y = .less ∧ g y x = .greater) ∧
      (p.context.strategy .equivalent .left .right = .nonMemberFunction ∧
        ∃ f g, p.context.equivalent? .left .right = some f ∧
          p.context.equivalent? .right .left = some g ∧ ∀ x y, f x y = g y x) := by
  intro cx p x y
  have hcompare : cx.strategy .compare .celsius .kelvin = .nonMemberFunction := by decide
  have hequal : cx.strategy .equal .kelvin .celsius = .nonMemberFunction := by decide
  have horder : p.context.strategy .compare .left .right = .fallback := by decide
  have hequivalent : p.context.strategy .equivalent .left .right = .nonMemberFunction := by decide
  have hwarmer : (cx.compare? .kelvin .celsius).map (fun g => g y x) = some .less := by decide
  have htens : (p.context.compare? .right .left).map (fun g => g y x) = some .greater := by decide
  obtain ⟨hcelsius, -, -⟩ := reflected_coherent cx .celsius .kelvin
  obtain ⟨-, hkelvin, -⟩ := reflected_coherent cx .kelvin .celsius
  obtain ⟨hleft, -, hleft'⟩ := reflected_coherent p.context .left .right
  obtain ⟨hmember, -, hflip⟩ := hcelsius rfl _ .memberFunction (by simp) hcompare
  obtain ⟨hmember', -⟩ := hkelvin rfl hequal
  obtain ⟨hoperator, -, hflip'⟩ := hleft rfl _ .memberOperator (by simp) horder
  obtain ⟨-, hcomm⟩ := hleft' rfl hequivalent
  refine ⟨⟨hcompare, hmember, ?_⟩, ⟨hequal, hmember'⟩, ⟨horder, hoperator, ?_⟩,
    hequivalent, hcomm rfl rfl⟩
  · obtain ⟨f, g, hf, hg, hfg⟩ := hflip rfl rfl
    have hless : g y x = .less := by
      rw [hg] at hwarmer
      exact Option.some.inj hwarmer
    exact ⟨f, g, hf, hg, hfg, by rw [hfg, hless]; rfl, hless⟩
  · obtain ⟨f, g, hf, hg, hfg⟩ := hflip' rfl rfl
    have hgreater : g y x = .greater := by
      rw [hg] at htens
      exact Option.some.inj htens
    exact ⟨f, g, hf, hg, hfg, by rw [hfg, hgreater]; rfl, hgreater⟩

end Context
end Collate
