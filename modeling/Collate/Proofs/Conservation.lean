import Mathlib.Data.Fin.VecNotation
import Collate.Leaf.Contexts
import Collate.Proofs.Isolation
import Collate.Proofs.Registers

namespace Collate

/-- To exchange sequences of one length entry by entry is to exchange them whole. -/
theorem Sequence.swap_whole {α : Type} {xs ys : List α} (h : xs.length = ys.length) :
    Sequence.swap (fun x y => (y, x)) xs ys = (ys, xs) := by
  induction xs generalizing ys with
  | nil =>
    cases ys with
    | nil => rfl
    | cons y ys => cases h
  | cons x xs ih =>
    cases ys with
    | nil => cases h
    | cons y ys =>
      have htail : Sequence.swap (fun x y => (y, x)) xs ys = (ys, xs) := ih (Nat.succ.inj h)
      rw [Sequence.swap, htail]

theorem Context.swap?_eq_whole {τ : Type} {V : τ → Type} {cx : Context V} {a : τ}
    (hbound : (cx.swap? a).isSome = true) (h : cx.strategy .swap a a = .fallback) :
    cx.swap? a = some fun x y => (y, x) := by
  obtain ⟨f, hf⟩ := Option.isSome_iff_exists.1 hbound
  have hsupplies : cx.Supplies .swap a a (cx.strategy .swap a a) f := supplies_of_operation? hf
  rw [h] at hsupplies
  cases hsupplies
  exact hf

/-- A type is exchanged whole if the leaf at the bottom of its arrays is. -/
theorem Ty.swap?_eq_whole {cx : Context Leaf.Val} {t : Ty} (hbound : (t.swap? cx).isSome = true)
    (h : ∀ a, t.exchanged? = some a → cx.strategy .swap a a = .fallback) :
    t.swap? cx = some fun x y => (y, x) := by
  induction t with
  | leaf a => exact Context.swap?_eq_whole hbound (h a rfl)
  | list t | option t => rfl
  | view t | ref t => cases hbound
  | array n t ih =>
    rw [swap?, Option.isSome_map] at hbound
    rw [swap?, ih hbound h, Option.map_some]
    congr 1
    funext xs ys
    simp only [Sequence.swap_whole (xs.2.trans ys.2.symm)]

namespace Word

theorem toInt_wrap_u32 (n : ℤ) : (wrap n : Word .u32).toInt = n % 2 ^ 32 := by
  change 0 + (n - 0) % 2 ^ 32 = n % 2 ^ 32
  rw [zero_add, sub_zero]

theorem toInt_mod_u32 (a : Word .u32) : a.toInt % 2 ^ 32 = a.toInt := by
  have hmin : 0 ≤ a.toInt := a.min_le
  have hmax : a.toInt ≤ 2 ^ 32 - 1 := a.le_max
  exact Int.emod_eq_of_lt hmin (Int.lt_of_le_sub_one hmax)

/-- A word with the low byte of another has its own upper bytes. -/
theorem wrap_lowByte (a b : Word .u32) :
    (wrap (a.toInt / 256 * 256 + b.toInt % 256) : Word .u32).toInt / 256 = a.toInt / 256 ∧
      (wrap (a.toInt / 256 * 256 + b.toInt % 256) : Word .u32).toInt % 256 = b.toInt % 256 := by
  have hmin : 0 ≤ a.toInt := a.min_le
  have hmax : a.toInt ≤ 2 ^ 32 - 1 := a.le_max
  rw [toInt_wrap_u32]
  omega

theorem swapLowByte_keeps (a b : Word .u32) :
    (a.swapLowByte b).1.toInt / 256 = a.toInt / 256 ∧
      (a.swapLowByte b).2.toInt / 256 = b.toInt / 256 :=
  ⟨(wrap_lowByte a b).1, (wrap_lowByte b a).1⟩

theorem swapLowByte_carries (a b : Word .u32) :
    (a.swapLowByte b).1.toInt % 256 = b.toInt % 256 ∧
      (a.swapLowByte b).2.toInt % 256 = a.toInt % 256 :=
  ⟨(wrap_lowByte a b).2, (wrap_lowByte b a).2⟩

end Word

theorem Slot.moves_receive (s : Slot) (value : Word .u32) :
    (s.receive value).moves.toInt = (s.moves.toInt + 1) % 2 ^ 32 := Word.toInt_wrap_u32 _

namespace Registers

/-- In a run of swaps nothing is lost and nothing doubled. Values that are exchanged whole end up where
the transpositions take them. Of words that exchange low bytes these do, and what is above stays. Slots
pass on their values and count the swaps they take part in. -/
theorem swaps_conserve {n : ℕ} {ps : List (Fin n × Fin n)} (hps : ∀ p ∈ ps, p.1 ≠ p.2) :
    let run (cx : Context Leaf.Val) (regs : Registers) : Except Fault Registers :=
      regs.swaps cx (ps.map fun p => (p.1.val, p.2.val))
    (∀ (cx : Context Leaf.Val) (t : Ty), (t.swap? cx).isSome = true →
        (∀ a, t.exchanged? = some a → cx.strategy .swap a a = .fallback) →
        ∀ v : Fin n → t.Val, run cx (ofFn t v) = .ok (ofFn t (v ∘ transpositions ps))) ∧
      (∀ v : Fin n → Word .u32, ∃ w : Fin n → Word .u32,
        run Leaf.house (ofFn (.leaf .u32) v) = .ok (ofFn (.leaf .u32) w) ∧
          ∀ i, (w i).toInt / 256 = (v i).toInt / 256 ∧
            (w i).toInt % 256 = (v (transpositions ps i)).toInt % 256) ∧
      ∀ v : Fin n → Slot, ∃ w : Fin n → Slot,
        run Leaf.intrinsic (ofFn (.leaf .slot) v) = .ok (ofFn (.leaf .slot) w) ∧
          ∀ i, (w i).value = (v (transpositions ps i)).value ∧
            (w i).moves.toInt =
              ((v i).moves.toInt + ps.countP fun p => p.1 = i ∨ p.2 = i) % 2 ^ 32 := by
  refine ⟨fun cx t hbound h v => ?_, fun v => ?_, fun v => ?_⟩
  · have hwhole : t.swap? cx = some fun x y => (y, x) := Ty.swap?_eq_whole hbound h
    have hrun : ps.foldl (exchange fun x y => (y, x)) v = v ∘ transpositions ps :=
      funext (reading_run_of_carries (g := id) (fun _ _ => ⟨rfl, rfl⟩) hps v)
    rw [← hrun]
    exact swaps_ofFn hwhole v hps
  · refine ⟨_, swaps_ofFn (t := .leaf .u32) (f := Word.swapLowByte) rfl v hps, fun i => ⟨?_, ?_⟩⟩
    · exact reading_run_of_keeps (g := fun a => a.toInt / 256) Word.swapLowByte_keeps hps v i
    · exact reading_run_of_carries (g := fun a => a.toInt % 256) Word.swapLowByte_carries hps v i
  · let pass (s t : Slot) : Slot × Slot := (s.receive t.value, t.receive s.value)
    refine ⟨_, swaps_ofFn (t := .leaf .slot) (f := pass) rfl v hps, fun i => ⟨?_, ?_⟩⟩
    · exact reading_run_of_carries (f := pass) (g := Slot.value) (fun _ _ => ⟨rfl, rfl⟩) hps v i
    · exact reading_run_of_counts (f := pass) (g := fun s => s.moves.toInt)
        (fun s => s.moves.toInt_mod_u32)
        (fun s t => ⟨s.moves_receive t.value, t.moves_receive s.value⟩) hps v i

/-- Three registers, the first exchanged with the second and that with the third, as arrays of texts,
as words with low bytes of their own and as slots of which one has used up its count. -/
theorem swaps_conserve_three :
    let word (n : ℤ) : Word .u32 := .wrap n
    let nested : Ty := .array 2 (.array 1 (.leaf .text))
    let lines (s : String) : nested.Val := ⟨[⟨[s], rfl⟩, ⟨[s ++ s], rfl⟩], rfl⟩
    let qs : List (ℕ × ℕ) := [(0, 1), (1, 2)]
    Registers.swaps Leaf.house [⟨nested, lines "a"⟩, ⟨nested, lines "b"⟩, ⟨nested, lines "c"⟩] qs =
        .ok [⟨nested, lines "b"⟩, ⟨nested, lines "c"⟩, ⟨nested, lines "a"⟩] ∧
      (∃ w : Fin 3 → Word .u32,
        Registers.swaps Leaf.house
            [⟨.leaf .u32, word 0x11a1⟩, ⟨.leaf .u32, word 0x22b2⟩, ⟨.leaf .u32, word 0x33c3⟩] qs =
          .ok (ofFn (.leaf .u32) w) ∧
          (w 0).toInt = 0x11b2 ∧ (w 1).toInt = 0x22c3 ∧ (w 2).toInt = 0x33a1) ∧
      ∃ w : Fin 3 → Slot,
        Registers.swaps Leaf.intrinsic
            [⟨.leaf .slot, ⟨word 7, word 0⟩⟩, ⟨.leaf .slot, ⟨word 8, word 0xffffffff⟩⟩,
              ⟨.leaf .slot, ⟨word 9, word 5⟩⟩] qs =
          .ok (ofFn (.leaf .slot) w) ∧
          (w 0).value = word 8 ∧ (w 1).value = word 9 ∧ (w 2).value = word 7 ∧
          (w 0).moves.toInt = 1 ∧ (w 1).moves.toInt = 1 ∧ (w 2).moves.toInt = 6 := by
  intro word nested lines qs
  let ps : List (Fin 3 × Fin 3) := [(0, 1), (1, 2)]
  have hps : ∀ p ∈ ps, p.1 ≠ p.2 := by decide
  have h₀ : transpositions ps 0 = 1 := by decide
  have h₁ : transpositions ps 1 = 2 := by decide
  have h₂ : transpositions ps 2 = 0 := by decide
  obtain ⟨hwhole, hbytes, hslots⟩ := swaps_conserve hps
  refine ⟨?_, ?_, ?_⟩
  · have hfallback : ∀ a, nested.exchanged? = some a →
        Leaf.house.strategy .swap a a = .fallback := by
      rintro a ⟨⟩
      rfl
    exact hwhole Leaf.house nested rfl hfallback ![lines "a", lines "b", lines "c"]
  · obtain ⟨w, hrun, hw⟩ := hbytes ![word 0x11a1, word 0x22b2, word 0x33c3]
    have hw₀ := hw 0
    have hw₁ := hw 1
    have hw₂ := hw 2
    rw [h₀] at hw₀
    rw [h₁] at hw₁
    rw [h₂] at hw₂
    refine ⟨w, hrun, ?_⟩
    change (w 0).toInt / 256 = 0x11 ∧ (w 0).toInt % 256 = 0xb2 at hw₀
    change (w 1).toInt / 256 = 0x22 ∧ (w 1).toInt % 256 = 0xc3 at hw₁
    change (w 2).toInt / 256 = 0x33 ∧ (w 2).toInt % 256 = 0xa1 at hw₂
    omega
  · obtain ⟨w, hrun, hw⟩ :=
      hslots ![⟨word 7, word 0⟩, ⟨word 8, word 0xffffffff⟩, ⟨word 9, word 5⟩]
    refine ⟨w, hrun, ?_⟩
    obtain ⟨hvalue₀, hmoves₀⟩ := hw 0
    obtain ⟨hvalue₁, hmoves₁⟩ := hw 1
    obtain ⟨hvalue₂, hmoves₂⟩ := hw 2
    rw [h₀] at hvalue₀
    rw [h₁] at hvalue₁
    rw [h₂] at hvalue₂
    refine ⟨hvalue₀, hvalue₁, hvalue₂, hmoves₀, hmoves₁.trans ?_, hmoves₂⟩
    decide

end Registers

end Collate
