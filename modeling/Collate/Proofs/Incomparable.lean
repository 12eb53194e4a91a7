import Collate.Proofs.Leaf.Reversal
import Collate.Proofs.Ty.Meeting

namespace Collate

namespace Leaf

/-- Whether a value is a NaN. No type but those of the floats has any. -/
def isNaN : (a : Leaf) → a.Val → Bool
  | num t, x => t.isNaN x
  | _, _ => false

/-- Of the types that have an order, NaNs alone have nothing to be compared by. -/
theorem key_eq_none_iff {a b : Leaf} (h : ordered a b = true) (x : a.Val) :
    a.key x = none ↔ a.isNaN x = true := by
  cases a with
  | num t => rw [key, isNaN, Option.map_eq_none_iff, NumType.value?_eq_none_iff]
  | outcome | null | slot => cases b <;> cases h
  | _ => simp [key, isNaN]

theorem intrinsic_compare?_eq_incomparable_iff {a b : Leaf} {f : a.Val → b.Val → Outcome}
    (h : intrinsic.compare? a b = some f) (x : a.Val) (y : b.Val) :
    f x y = .incomparable ↔ a.isNaN x = true ∨ b.isNaN y = true := by
  have hab : ordered a b = true := Context.binds_of_compare? h
  have hba : ordered b a = true := by rw [ordered_comm, hab]
  rw [intrinsic_compare?_eq h, Outcome.between_eq_incomparable_iff, key_eq_none_iff hab,
    key_eq_none_iff hba]

end Leaf

def Atom.isNaN (u : Atom) : Bool := u.leaf.isNaN u.value

theorem Atom.intrinsic_compare?_eq_incomparable_iff {u v : Atom}
    (h : (u.compare? Leaf.intrinsic v).isSome = true) :
    u.compare? Leaf.intrinsic v = some .incomparable ↔ u.isNaN = true ∨ v.isNaN = true := by
  rw [compare?, Option.isSome_map] at h
  obtain ⟨f, hf⟩ := Option.isSome_iff_exists.1 h
  rw [compare?, hf, Option.map_some, Option.some_inj, Leaf.intrinsic_compare?_eq_incomparable_iff hf,
    isNaN, isNaN]

namespace Meeting

variable {m : Meeting}

theorem outcome_eq_equivalent_iff {cx : Context Leaf.Val} :
    m.outcome cx = .equivalent ↔ ∃ u v, m = both u v ∧ u.compare? cx v = some .equivalent := by
  cases m with
  | both u v =>
    rw [outcome]
    cases hc : u.compare? cx v <;> simp [hc]
  | leftOnly | rightOnly => simp [outcome]

/-- Where all leaves that meet compare, a meeting tells nothing exactly if it brings in a NaN. -/
theorem outcome_eq_incomparable_iff
    (h : ∀ u v, m = both u v → (u.compare? Leaf.intrinsic v).isSome = true) :
    m.outcome Leaf.intrinsic = .incomparable ↔
      ∃ u v, m = both u v ∧ (u.isNaN = true ∨ v.isNaN = true) := by
  cases m with
  | both u v =>
    have hsome := h u v rfl
    have hiff := Atom.intrinsic_compare?_eq_incomparable_iff hsome
    obtain ⟨o, ho⟩ := Option.isSome_iff_exists.1 hsome
    rw [ho, Option.some_inj] at hiff
    simp [outcome, ho, hiff]
  | leftOnly | rightOnly => simp [outcome]

/-- Where all leaves that meet compare, there is no verdict exactly if a NaN comes up before anything
else tells the values apart. -/
theorem verdict_eq_incomparable_iff {ms : List Meeting}
    (h : ∀ u v, both u v ∈ ms → (u.compare? Leaf.intrinsic v).isSome = true) :
    verdict Leaf.intrinsic ms = .incomparable ↔
      ∃ before u v after, ms = before ++ both u v :: after ∧
        (u.isNaN = true ∨ v.isNaN = true) ∧
        ∀ m ∈ before, ∃ u v, m = both u v ∧ u.compare? Leaf.intrinsic v = some .equivalent := by
  have houtcome (m : Meeting) (hm : m ∈ ms) := outcome_eq_incomparable_iff (m := m)
    fun u v he => h u v (he ▸ hm)
  rw [verdict_eq_iff _ (by decide)]
  simp only [outcome_eq_equivalent_iff]
  constructor
  · rintro ⟨before, m, after, hsplit, hm, hbefore⟩
    have hmem : m ∈ ms := by simp [hsplit]
    obtain ⟨u, v, rfl, hnan⟩ := (houtcome m hmem).1 hm
    exact ⟨before, u, v, after, hsplit, hnan, hbefore⟩
  · rintro ⟨before, u, v, after, hsplit, hnan, hbefore⟩
    have hmem : both u v ∈ ms := by simp [hsplit]
    have hm := (houtcome _ hmem).2 ⟨u, v, rfl, hnan⟩
    exact ⟨before, _, after, hsplit, hm, hbefore⟩

end Meeting

namespace Datum

variable {x y : Datum} {o : Outcome} {ms : List Meeting}

theorem isSome_compare?_of_mem_meetings? {cx : Context Leaf.Val} (h : x.compare? cx y = some o)
    (hms : x.meetings? y = some ms) {u v : Atom} (hm : .both u v ∈ ms) :
    (u.compare? cx v).isSome = true := by
  obtain ⟨-, hbase⟩ := isSome_compare?_iff.1 (Option.isSome_of_eq_some h)
  obtain ⟨hu, hv⟩ := mem_atoms_of_meetings? hms hm
  rw [Atom.compare?, Option.isSome_map, Ty.leaf_of_mem_atoms hu, Ty.leaf_of_mem_atoms hv]
  exact hbase

/-- A comparison has no answer exactly if of the places where the two values meet, from left to
right, there is one with a NaN on either side of it, and everything before it is a pair of equivalent
leaves. Values free of NaNs always stand in exactly one of the three relations. -/
theorem compare?_eq_incomparable_iff (h : x.compare? Leaf.intrinsic y = some o) :
    ∃ ms, x.meetings? y = some ms ∧
      (o = .incomparable ↔ ∃ before u v after, ms = before ++ .both u v :: after ∧
        (u.isNaN = true ∨ v.isNaN = true) ∧
        ∀ m ∈ before, ∃ u v, m = .both u v ∧ u.compare? Leaf.intrinsic v = some .equivalent) ∧
      ((∀ u ∈ x.atoms, u.isNaN = false) → (∀ v ∈ y.atoms, v.isNaN = false) →
        o ≠ .incomparable ∧ [o.isLT, o.isEq, o.isGT].count true = 1) := by
  obtain ⟨ms, hms, rfl⟩ := exists_meetings_of_compare? h
  have hiff := Meeting.verdict_eq_incomparable_iff fun _ _ => isSome_compare?_of_mem_meetings? h hms
  refine ⟨ms, hms, hiff, fun hx hy => ?_⟩
  have hne : Meeting.verdict Leaf.intrinsic ms ≠ .incomparable := by
    intro hinc
    obtain ⟨before, u, v, after, hsplit, hnan, -⟩ := hiff.1 hinc
    have hmem : .both u v ∈ ms := by simp [hsplit]
    obtain ⟨hu, hv⟩ := mem_atoms_of_meetings? hms hmem
    rw [hx u hu, hy v hv] at hnan
    rcases hnan with hnan | hnan <;> cases hnan
  exact ⟨hne, Outcome.count_readings hne⟩

/-- A NaN that decides, in the third place, and one that does not, since in the second place there
is something on one side only. -/
theorem compare?_eq_incomparable_iff_lists :
    let nan : Binary .binary64 := ⟨0x7ff8000000000000#64⟩
    let one : Binary .binary64 := ⟨0x3ff0000000000000#64⟩
    let x : Datum := ⟨.list (.option (.leaf .f64)), [some one, none, some nan]⟩
    let y : Datum := ⟨.list (.option (.leaf .f64)), [some one, some one, some nan]⟩
    let z : Datum := ⟨.list (.option (.leaf (.num (.int .u8)))),
      [some ⟨1, by decide, by decide⟩, none, some ⟨3, by decide, by decide⟩]⟩
    (∃ ms before u v after, x.meetings? z = some ms ∧ ms = before ++ .both u v :: after ∧
        (u.isNaN = true ∨ v.isNaN = true)) ∧
      ∃ ms, y.meetings? z = some ms ∧ ¬∃ before u v after, ms = before ++ .both u v :: after ∧
        (u.isNaN = true ∨ v.isNaN = true) ∧
        ∀ m ∈ before, ∃ u v, m = .both u v ∧ u.compare? Leaf.intrinsic v = some .equivalent := by
  intro nan one x y z
  have hx : x.compare? Leaf.intrinsic z = some .incomparable := by decide
  have hy : y.compare? Leaf.intrinsic z = some .greater := by decide
  constructor
  · obtain ⟨ms, hms, hiff, -⟩ := compare?_eq_incomparable_iff hx
    obtain ⟨before, u, v, after, hsplit, hnan, -⟩ := hiff.1 rfl
    exact ⟨ms, before, u, v, after, hms, hsplit, hnan⟩
  · obtain ⟨ms, hms, hiff, -⟩ := compare?_eq_incomparable_iff hy
    exact ⟨ms, hms, fun h => nomatch hiff.2 h⟩

end Datum
end Collate
