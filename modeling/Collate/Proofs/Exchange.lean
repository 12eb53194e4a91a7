import Collate.Proofs.Conservation

namespace Collate

namespace Sequence

variable {α : Type} {f : α → α → α × α} {xs ys : List α} {i : Nat} {x y : α}

/-- Of an exchange of sequences each place sees the exchange of its own two entries, and nothing
else. -/
theorem getElem?_swap (hx : xs[i]? = some x) (hy : ys[i]? = some y) :
    (swap f xs ys).1[i]? = some (f x y).1 ∧ (swap f xs ys).2[i]? = some (f x y).2 := by
  induction xs generalizing ys i with
  | nil => cases hx
  | cons x₀ xs ih =>
    cases ys with
    | nil => cases hy
    | cons y₀ ys =>
      cases i with
      | zero =>
        cases hx
        cases hy
        exact ⟨rfl, rfl⟩
      | succ i => exact ih hx hy

end Sequence

namespace Ty

/-- The entry of an array in a place. -/
def entryAt {n : Nat} {t : Ty} (xs : (array n t).Val) (i : Fin n) : t.Val :=
  xs.1.get (i.cast xs.2.symm)

theorem getElem?_entryAt {n : Nat} {t : Ty} (xs : (array n t).Val) (i : Fin n) :
    xs.1[i.val]? = some (entryAt xs i) := List.getElem?_eq_getElem (i.cast xs.2.symm).isLt

theorem entryAt_eq {n : Nat} {t : Ty} {xs : List t.Val} (hlen : xs.length = n) {i : Fin n}
    {x : t.Val} (hx : xs[i.val]? = some x) : entryAt ⟨xs, hlen⟩ i = x :=
  Option.some.inj ((getElem?_entryAt (t := t) ⟨xs, hlen⟩ i).symm.trans hx)

/-- The way from a type through arrays to a type inside of it: the places of the entries passed. -/
inductive Path : Ty → Ty → Type where
  | here {t : Ty} : Path t t
  | entry {n : Nat} {t u : Ty} (i : Fin n) (p : Path t u) : Path (.array n t) u

def isArray : Ty → Bool
  | array _ _ => true
  | _ => false

namespace Path

/-- The entry that a value has at the end of a path. -/
def get : {t u : Ty} → Path t u → t.Val → u.Val
  | _, _, here, x => x
  | _, _, entry i p, xs => p.get (entryAt xs i)

variable {t u : Ty}

/-- A value is made up of what lies at the ends of its paths, where there are no arrays any more. -/
theorem ext {x y : t.Val}
    (h : ∀ {u : Ty} (p : Path t u), u.isArray = false → p.get x = p.get y) : x = y := by
  induction t with
  | array n t ih =>
    apply Subtype.ext
    apply List.ext_get (x.2.trans y.2.symm)
    intro i hx hy
    have hi : i < n := Nat.lt_of_lt_of_eq hx x.2
    exact ih fun p hu => h (entry ⟨i, hi⟩ p) hu
  | leaf a | list t | view t | option t | ref t => exact h here rfl

theorem exchanged?_eq (p : Path t u) : u.exchanged? = t.exchanged? := by
  induction p with
  | here => rfl
  | entry i p ih => exact ih

end Path

variable {cx : Context Leaf.Val} {t u : Ty} {f : t.Val → t.Val → t.Val × t.Val}

/-- An exchange does at the end of each path what the exchange of the type there does with the two
entries. -/
theorem Path.get_swap (p : Path t u) (hf : t.swap? cx = some f) :
    ∃ g, u.swap? cx = some g ∧
      ∀ x y, p.get (f x y).1 = (g (p.get x) (p.get y)).1 ∧
        p.get (f x y).2 = (g (p.get x) (p.get y)).2 := by
  induction p with
  | here => exact ⟨f, hf, fun _ _ => ⟨rfl, rfl⟩⟩
  | entry i p ih =>
    obtain ⟨f₀, hf₀, rfl⟩ := Option.map_eq_some_iff.1 hf
    obtain ⟨g, hg, hp⟩ := ih hf₀
    refine ⟨g, hg, fun xs ys => ?_⟩
    obtain ⟨hfst, hsnd⟩ :=
      Sequence.getElem?_swap (f := f₀) (getElem?_entryAt xs i) (getElem?_entryAt ys i)
    obtain ⟨hleft, hright⟩ := hp (entryAt xs i) (entryAt ys i)
    constructor
    · show p.get (entryAt ⟨(Sequence.swap f₀ xs.1 ys.1).1, _⟩ i) = _
      rw [entryAt_eq _ hfst]
      exact hleft
    · show p.get (entryAt ⟨(Sequence.swap f₀ xs.1 ys.1).2, _⟩ i) = _
      rw [entryAt_eq _ hsnd]
      exact hright

end Ty

/-- Whether exchanging two values twice leaves them as they were. -/
def SelfInverse {α : Type} (f : α → α → α × α) : Prop := ∀ x y, f (f x y).1 (f x y).2 = (x, y)

theorem selfInverse_whole (α : Type) : SelfInverse fun x y : α => (y, x) := fun _ _ => rfl

namespace Word

/-- Changing sign twice gives the number back, also where it overflows. -/
theorem wrap_neg_wrap_neg (a : Word .i32) : (wrap (-(wrap (-a.toInt) : Word .i32).toInt)) = a := by
  have hwrap (n : ℤ) : (wrap n : Word .i32).toInt = -2 ^ 31 + (n - -2 ^ 31) % 2 ^ 32 := rfl
  have hmin : -2 ^ 31 ≤ a.toInt := a.min_le
  have hmax : a.toInt ≤ 2 ^ 31 - 1 := a.le_max
  apply Word.ext
  rw [hwrap, hwrap]
  omega

theorem swapLowByte_selfInverse : SelfInverse swapLowByte := by
  intro a b
  obtain ⟨hkeep, hkeep'⟩ := a.swapLowByte_keeps b
  obtain ⟨hcarry, hcarry'⟩ := a.swapLowByte_carries b
  generalize a.swapLowByte b = r at *
  obtain ⟨hback, hback'⟩ := r.1.swapLowByte_keeps r.2
  obtain ⟨hreturn, hreturn'⟩ := r.1.swapLowByte_carries r.2
  refine Prod.ext (Word.ext ?_) (Word.ext ?_)
  · show (r.1.swapLowByte r.2).1.toInt = a.toInt
    omega
  · show (r.1.swapLowByte r.2).2.toInt = b.toInt
    omega

end Word

namespace Leaf

variable {a : Leaf} {g : a.Val → a.Val → a.Val × a.Val}

/-- Slots count each exchange; nothing else is changed by two of them. -/
theorem intrinsic_swap?_selfInverse (ha : a ≠ .slot) (h : intrinsic.swap? a = some g) :
    SelfInverse g := by
  cases a with
  | layered =>
    cases h
    intro a b
    exact Prod.ext a.wrap_neg_wrap_neg b.wrap_neg_wrap_neg
  | slot => exact absurd rfl ha
  | textView | null => cases h
  | _ =>
    cases h
    exact selfInverse_whole _

theorem house_swap?_selfInverse (h : house.swap? a = some g) : SelfInverse g := by
  have hbound : (house.operation? .swap a a).isSome = true := Option.isSome_of_eq_some h
  have hmem : [i32, f64, u32, text, layered].contains a = true := Context.uses_of_isSome hbound
  simp only [List.contains_iff_mem, List.mem_cons, List.not_mem_nil, or_false] at hmem
  rcases hmem with rfl | rfl | rfl | rfl | rfl
  · cases h
    exact selfInverse_whole _
  · cases h
    exact selfInverse_whole _
  · cases h
    exact Word.swapLowByte_selfInverse
  · cases h
    exact selfInverse_whole _
  · -- here layers stay where they are
    cases h
    exact fun _ _ => rfl

/-- Layers and slots alone have an exchange of their own. -/
theorem intrinsic_strategy_swap (ha : a ≠ .layered ∧ a ≠ .slot)
    (hbound : (intrinsic.swap? a).isSome = true) : intrinsic.strategy .swap a a = .fallback := by
  cases a with
  | layered => exact absurd rfl ha.1
  | slot => exact absurd rfl ha.2
  | textView | null => cases hbound
  | _ => rfl

end Leaf

namespace Ty

variable {cx : Context Leaf.Val} {t : Ty} {f : t.Val → t.Val → t.Val × t.Val}

theorem isSome_swap?_of_exchanged? {a : Leaf} (hbound : (t.swap? cx).isSome = true)
    (ha : t.exchanged? = some a) : (cx.swap? a).isSome = true := by
  induction t with
  | leaf b =>
    cases ha
    exact hbound
  | array n t ih =>
    rw [swap?, Option.isSome_map] at hbound
    exact ih hbound ha
  | list t | view t | option t | ref t => cases ha

theorem swap?_selfInverse_of_not_isArray (ht : t.isArray = false) (hf : t.swap? cx = some f)
    (h : ∀ a g, t.exchanged? = some a → cx.swap? a = some g → SelfInverse g) : SelfInverse f := by
  cases t with
  | leaf a => exact h a f rfl hf
  | list t | option t =>
    cases hf
    exact selfInverse_whole _
  | view t | ref t => cases hf
  | array n t => cases ht

/-- Two exchanges cancel out if they do so at the end of every path. -/
theorem swap?_selfInverse (hf : t.swap? cx = some f)
    (h : ∀ a g, t.exchanged? = some a → cx.swap? a = some g → SelfInverse g) : SelfInverse f := by
  intro x y
  have hpath {u : Ty} (p : t.Path u) (hu : u.isArray = false) :
      p.get (f (f x y).1 (f x y).2).1 = p.get x ∧ p.get (f (f x y).1 (f x y).2).2 = p.get y := by
    obtain ⟨g, hg, hget⟩ := p.get_swap hf
    have hinv : SelfInverse g := by
      refine swap?_selfInverse_of_not_isArray hu hg ?_
      rw [p.exchanged?_eq]
      exact h
    obtain ⟨hfst, hsnd⟩ := hget x y
    obtain ⟨htwice, htwice'⟩ := hget (f x y).1 (f x y).2
    rw [hfst, hsnd, hinv] at htwice htwice'
    exact ⟨htwice, htwice'⟩
  apply Prod.ext
  · exact Path.ext fun p hu => (hpath p hu).1
  · exact Path.ext fun p hu => (hpath p hu).2

end Ty

/-- An exchange acts through arrays entry by entry: at the end of every path it does to the two
values there what the exchange of their type does, whatever lies elsewhere, and lists and optional
values are exchanged whole. Without a context's own rules everything is exchanged whole, but for
layers and slots, and in either context two exchanges cancel out, but for slots. -/
theorem swap_by_path :
    (∀ {cx : Context Leaf.Val} {t : Ty} {f : t.Val → t.Val → t.Val × t.Val},
        t.swap? cx = some f →
          (∀ {u : Ty} (p : t.Path u), ∃ g, u.swap? cx = some g ∧ ∀ x y,
            (p.get (f x y).1, p.get (f x y).2) = g (p.get x) (p.get y)) ∧
          (∀ {u : Ty} (p : t.Path (.list u)) (x y),
            (p.get (f x y).1, p.get (f x y).2) = (p.get y, p.get x)) ∧
          ∀ {u : Ty} (p : t.Path (.option u)) (x y),
            (p.get (f x y).1, p.get (f x y).2) = (p.get y, p.get x)) ∧
      (∀ {t : Ty} {f : t.Val → t.Val → t.Val × t.Val}, t.swap? Leaf.intrinsic = some f →
        (∀ a, t.exchanged? = some a → a ≠ .layered ∧ a ≠ .slot) → ∀ x y, f x y = (y, x)) ∧
      ∀ cx ∈ [Leaf.intrinsic, Leaf.house], ∀ {t : Ty} {f : t.Val → t.Val → t.Val × t.Val},
        t.swap? cx = some f → t.exchanged? ≠ some .slot →
          ∀ x y, f (f x y).1 (f x y).2 = (x, y) := by
  refine ⟨fun hf => ⟨fun p => ?_, fun p x y => ?_, fun p x y => ?_⟩, fun hf ha x y => ?_, ?_⟩
  · obtain ⟨g, hg, hget⟩ := p.get_swap hf
    exact ⟨g, hg, fun x y => Prod.ext (hget x y).1 (hget x y).2⟩
  · obtain ⟨g, hg, hget⟩ := p.get_swap hf
    cases hg
    exact Prod.ext (hget x y).1 (hget x y).2
  · obtain ⟨g, hg, hget⟩ := p.get_swap hf
    cases hg
    exact Prod.ext (hget x y).1 (hget x y).2
  · have hbound : (Ty.swap? Leaf.intrinsic _).isSome = true := Option.isSome_of_eq_some hf
    have hwhole := Ty.swap?_eq_whole hbound fun a h =>
      Leaf.intrinsic_strategy_swap (ha a h) (Ty.isSome_swap?_of_exchanged? hbound h)
    rw [Option.some.inj (hf.symm.trans hwhole)]
  · intro cx hcx t f hf hslot
    refine Ty.swap?_selfInverse hf fun a g ha hg => ?_
    rcases List.mem_pair.1 hcx with rfl | rfl
    · refine Leaf.intrinsic_swap?_selfInverse ?_ hg
      rintro rfl
      exact hslot ha
    · exact Leaf.house_swap?_selfInverse hg

/-- Layers in nested arrays, one of them the least there is, lists of layers in an array, and an
array of texts. -/
theorem swap_by_path_layers :
    let layer (n : ℤ) : Word .i32 := .wrap n
    let grid : Ty := .array 2 (.array 1 (.leaf .layered))
    let x : grid.Val := ⟨[⟨[layer 3], rfl⟩, ⟨[layer (-2147483648)], rfl⟩], rfl⟩
    let y : grid.Val := ⟨[⟨[layer 4], rfl⟩, ⟨[layer 5], rfl⟩], rfl⟩
    let p : grid.Path (.leaf .layered) := .entry 1 (.entry 0 .here)
    let rows : Ty := .array 1 (.list (.leaf .layered))
    let u : rows.Val := ⟨[[layer 3]], rfl⟩
    let v : rows.Val := ⟨[[layer 4, layer 5]], rfl⟩
    let q : rows.Path (.list (.leaf .layered)) := .entry 0 .here
    let names : Ty := .array 2 (.leaf .text)
    let a : names.Val := ⟨["quay", "pier"], rfl⟩
    let b : names.Val := ⟨["berth", ""], rfl⟩
    (∃ f, grid.swap? Leaf.intrinsic = some f ∧
        (p.get (f x y).1, p.get (f x y).2) = (layer (-5), layer (-2147483648)) ∧
        f (f x y).1 (f x y).2 = (x, y)) ∧
      (∃ f, rows.swap? Leaf.intrinsic = some f ∧
        (q.get (f u v).1, q.get (f u v).2) = ([layer 4, layer 5], [layer 3])) ∧
      ∃ f, names.swap? Leaf.intrinsic = some f ∧ f a b = (b, a) := by
  intro layer grid x y p rows u v q names a b
  obtain ⟨hpath, hwhole, htwice⟩ := swap_by_path
  have hmem : Leaf.intrinsic ∈ [Leaf.intrinsic, Leaf.house] := List.mem_cons_self
  refine ⟨?_, ?_, ?_⟩
  · obtain ⟨f, hf⟩ : ∃ f, grid.swap? Leaf.intrinsic = some f := ⟨_, rfl⟩
    obtain ⟨g, hg, hget⟩ := (hpath hf).1 p
    refine ⟨f, hf, ?_, htwice _ hmem hf (by decide) x y⟩
    rw [hget]
    cases hg
    decide
  · obtain ⟨f, hf⟩ : ∃ f, rows.swap? Leaf.intrinsic = some f := ⟨_, rfl⟩
    exact ⟨f, hf, (hpath hf).2.1 q u v⟩
  · obtain ⟨f, hf⟩ : ∃ f, names.swap? Leaf.intrinsic = some f := ⟨_, rfl⟩
    refine ⟨f, hf, hwhole hf ?_ a b⟩
    rintro _ ⟨⟩
    decide

end Collate
