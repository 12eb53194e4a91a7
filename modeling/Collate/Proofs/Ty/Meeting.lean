import Collate.Datum
import Collate.Proofs.Ty.Lifting

namespace Collate

/-- A leaf type with one of its values. -/
structure Atom where
  leaf : Leaf
  value : leaf.Val

def Atom.compare? (cx : Context Leaf.Val) (u v : Atom) : Option Outcome :=
  (cx.compare? u.leaf v.leaf).map fun f => f u.value v.value

/-- What two values meet with at one place: a leaf of each, or something on one side only, where a
sequence has come to its end on the other side or an optional value is missing there. -/
inductive Meeting where
  | both (u v : Atom)
  | leftOnly
  | rightOnly

variable {α β : Type}

/-- What two sequences meet with from left to right, until one of them ends. -/
def Sequence.meetings (f : α → β → List Meeting) : List α → List β → List Meeting
  | [], [] => []
  | [], _ :: _ => [.rightOnly]
  | _ :: _, [] => [.leftOnly]
  | x :: xs, y :: ys => f x y ++ Sequence.meetings f xs ys

def Optional.meetings (f : α → β → List Meeting) : Option α → Option β → List Meeting
  | none, none => []
  | none, some _ => [.rightOnly]
  | some _, none => [.leftOnly]
  | some x, some y => f x y

namespace Meeting

variable (cx : Context Leaf.Val)

/-- What a meeting says of the order of the values. Leaves meet only where they compare. -/
def outcome : Meeting → Outcome
  | both u v => (u.compare? cx v).getD .incomparable
  | leftOnly => .greater
  | rightOnly => .less

/-- What the first meeting says that does not leave the matter open. -/
def verdict (ms : List Meeting) : Outcome := Outcome.chain (ms.map (outcome cx))

theorem verdict_both (u v : Atom) : verdict cx [both u v] = (both u v).outcome cx :=
  Outcome.andThen_equivalent _

theorem verdict_append (ms ns : List Meeting) :
    verdict cx (ms ++ ns) = (verdict cx ms).andThen (verdict cx ns) := by
  simp only [verdict, List.map_append, Outcome.chain_append]

theorem verdict_eq_iff {o : Outcome} (ho : o ≠ .equivalent) {ms : List Meeting} :
    verdict cx ms = o ↔ ∃ before m after, ms = before ++ m :: after ∧ m.outcome cx = o ∧
      ∀ n ∈ before, n.outcome cx = .equivalent := by
  rw [verdict, Outcome.chain_eq_iff ho]
  constructor
  · rintro ⟨before, after, hms, hbefore⟩
    obtain ⟨ns, rest, rfl, rfl, hrest⟩ := List.map_eq_append_iff.1 hms
    obtain ⟨m, ms, rfl, hm, -⟩ := List.map_eq_cons_iff.1 hrest
    exact ⟨ns, m, ms, rfl, hm, List.forall_mem_map.1 hbefore⟩
  · rintro ⟨before, m, after, rfl, hm, hbefore⟩
    refine ⟨before.map (outcome cx), after.map (outcome cx), ?_, List.forall_mem_map.2 hbefore⟩
    rw [List.map_append, List.map_cons, hm]

end Meeting

theorem Sequence.verdict_meetings (cx : Context Leaf.Val) (f : α → β → List Meeting) (xs : List α)
    (ys : List β) :
    Meeting.verdict cx (Sequence.meetings f xs ys) =
      Sequence.compare (fun x y => Meeting.verdict cx (f x y)) xs ys := by
  induction xs generalizing ys with
  | nil => cases ys <;> rfl
  | cons x xs ih =>
    cases ys with
    | nil => rfl
    | cons y ys => rw [Sequence.meetings, Meeting.verdict_append, Sequence.compare_cons_cons, ih]

theorem Optional.verdict_meetings (cx : Context Leaf.Val) (f : α → β → List Meeting) (x : Option α)
    (y : Option β) :
    Meeting.verdict cx (Optional.meetings f x y) =
      Optional.compare (fun x y => Meeting.verdict cx (f x y)) x y := by
  cases x <;> cases y <;> rfl

theorem Sequence.exists_of_mem_meetings {f : α → β → List Meeting} {xs : List α} {ys : List β}
    {u v : Atom} (h : .both u v ∈ Sequence.meetings f xs ys) :
    ∃ x ∈ xs, ∃ y ∈ ys, .both u v ∈ f x y := by
  induction xs generalizing ys with
  | nil => cases ys <;> simp [Sequence.meetings] at h
  | cons x xs ih =>
    cases ys with
    | nil => simp [Sequence.meetings] at h
    | cons y ys =>
      rw [Sequence.meetings, List.mem_append] at h
      rcases h with h | h
      · exact ⟨x, List.mem_cons_self, y, List.mem_cons_self, h⟩
      · obtain ⟨x', hx', y', hy', h'⟩ := ih h
        exact ⟨x', List.mem_cons_of_mem _ hx', y', List.mem_cons_of_mem _ hy', h'⟩

theorem Optional.exists_of_mem_meetings {f : α → β → List Meeting} {x : Option α} {y : Option β}
    {u v : Atom} (h : .both u v ∈ Optional.meetings f x y) :
    ∃ x' ∈ x, ∃ y' ∈ y, .both u v ∈ f x' y' := by
  rcases x with _ | x <;> rcases y with _ | y
  · simp [Optional.meetings] at h
  · simp [Optional.meetings] at h
  · simp [Optional.meetings] at h
  · exact ⟨x, rfl, y, rfl, h⟩

namespace Lifting

def meeting : Lifting (List Meeting) := ⟨Sequence.meetings, Optional.meetings⟩

theorem meeting_maps_verdict (cx : Context Leaf.Val) :
    meeting.Maps comparison (Meeting.verdict cx) :=
  ⟨Sequence.verdict_meetings cx, Optional.verdict_meetings cx⟩

end Lifting

/-- Two leaves meet with each other. -/
def Leaf.meet (a b : Leaf) : Option (a.Val → b.Val → List Meeting) :=
  some fun x y => [.both ⟨a, x⟩ ⟨b, y⟩]

namespace Ty

/-- What two values meet with from left to right, if their types are built alike. -/
def meetings? (s t : Ty) : Option (s.Val → t.Val → List Meeting) :=
  relate? .meeting Leaf.meet s t

/-- The leaves of a value from left to right. -/
def atoms : (t : Ty) → t.Val → List Atom
  | leaf a, x => [⟨a, x⟩]
  | list t, xs => xs.flatMap t.atoms
  | view t, xs => xs.flatMap t.atoms
  | array _ t, xs => xs.1.flatMap t.atoms
  | option t, x => x.toList.flatMap t.atoms
  | ref t, x => t.atoms x

theorem leaf_of_mem_atoms {t : Ty} {x : t.Val} {u : Atom} (h : u ∈ t.atoms x) :
    u.leaf = t.base := by
  induction t with
  | leaf a =>
    rw [List.mem_singleton.1 h]
    rfl
  | list t ih | view t ih | option t ih | array _ t ih =>
    obtain ⟨y, -, hy⟩ := List.mem_flatMap.1 h
    exact ih hy
  | ref t ih => exact ih h

/-- Only leaves of the two values themselves meet. -/
theorem mem_atoms_of_meetings? {s t : Ty} {f : s.Val → t.Val → List Meeting}
    (hf : s.meetings? t = some f) {x : s.Val} {y : t.Val} {u v : Atom}
    (h : .both u v ∈ f x y) : u ∈ s.atoms x ∧ v ∈ t.atoms y := by
  unfold meetings? at hf
  fun_induction relate? .meeting Leaf.meet s t with
  | case1 a b =>
    cases hf
    cases List.mem_singleton.1 h
    exact ⟨List.mem_singleton_self _, List.mem_singleton_self _⟩
  | case2 s t ih | case3 s t ih | case4 m s n t ih =>
    obtain ⟨g, hg, rfl⟩ := Option.map_eq_some_iff.1 hf
    obtain ⟨x', hx', y', hy', h'⟩ := Sequence.exists_of_mem_meetings h
    obtain ⟨hu, hv⟩ := ih hg h'
    exact ⟨List.mem_flatMap.2 ⟨x', hx', hu⟩, List.mem_flatMap.2 ⟨y', hy', hv⟩⟩
  | case5 s t ih =>
    obtain ⟨g, hg, rfl⟩ := Option.map_eq_some_iff.1 hf
    obtain ⟨x', hx', y', hy', h'⟩ := Optional.exists_of_mem_meetings h
    obtain ⟨hu, hv⟩ := ih hg h'
    exact ⟨List.mem_flatMap.2 ⟨x', Option.mem_toList.2 hx', hu⟩,
      List.mem_flatMap.2 ⟨y', Option.mem_toList.2 hy', hv⟩⟩
  | case6 s t ih => exact ih hf h
  | case7 => cases hf

/-- Any comparison is the verdict on what the two values meet with. -/
theorem compare?_eq_verdict {cx : Context Leaf.Val} {s t : Ty}
    (h : (cx.compare? s.base t.base).isSome = true) :
    s.compare? cx t = (s.meetings? t).map fun f x y => Meeting.verdict cx (f x y) := by
  rw [compare?_eq_relate?, meetings?]
  apply relate?_map (Lifting.meeting_maps_verdict cx)
  obtain ⟨f, hf⟩ := Option.isSome_iff_exists.1 h
  rw [Leaf.meet, Option.map_some, hf]
  refine congrArg some (funext₂ fun x y => ?_)
  rw [Meeting.verdict_both, Meeting.outcome, Atom.compare?, hf]
  rfl

end Ty

namespace Datum

variable (x y : Datum)

def meetings? : Option (List Meeting) :=
  (x.type.meetings? y.type).map fun f => f x.value y.value

def atoms : List Atom := x.type.atoms x.value

variable {x y}

theorem mem_atoms_of_meetings? {ms : List Meeting} (hms : x.meetings? y = some ms) {u v : Atom}
    (h : .both u v ∈ ms) : u ∈ x.atoms ∧ v ∈ y.atoms := by
  obtain ⟨f, hf, rfl⟩ := Option.map_eq_some_iff.1 hms
  exact Ty.mem_atoms_of_meetings? hf h

/-- Values compare if their types are built alike over leaves that compare. -/
theorem isSome_compare?_iff {cx : Context Leaf.Val} :
    (x.compare? cx y).isSome = true ↔
      x.type.alike y.type = true ∧ (cx.compare? x.type.base y.type.base).isSome = true := by
  rw [compare?, Option.isSome_map, Ty.compare?_eq_relate?, Ty.isSome_relate?, Bool.and_eq_true]

theorem exists_meetings_of_compare? {cx : Context Leaf.Val} {o : Outcome}
    (h : x.compare? cx y = some o) :
    ∃ ms, x.meetings? y = some ms ∧ o = Meeting.verdict cx ms := by
  obtain ⟨-, hbase⟩ := isSome_compare?_iff.1 (Option.isSome_of_eq_some h)
  rw [compare?, Ty.compare?_eq_verdict hbase, Option.map_map] at h
  obtain ⟨f, hf, rfl⟩ := Option.map_eq_some_iff.1 h
  refine ⟨f x.value y.value, ?_, rfl⟩
  rw [meetings?, hf, Option.map_some]

end Datum
end Collate
