import Collate.Check
import Collate.Datum
import Collate.Proofs.Leaf.Number
import Collate.Proofs.Text.Numeral
import Collate.Proofs.Text.Quoted
import Collate.Proofs.Ty.Rendering

namespace Collate

open Text

theorem Outcome.readable_token : Readable token :=
  readable_of_prefix fun o p => by cases o <;> cases p <;> decide

theorem Outcome.opens_token : Opens token := by
  intro o
  cases o
  · exact ⟨'l', "ess".toList, by decide, by decide⟩
  · exact ⟨'e', "quivalent".toList, by decide, by decide⟩
  · exact ⟨'g', "reater".toList, by decide, by decide⟩
  · exact ⟨'i', "ncomparable".toList, by decide, by decide⟩

namespace Text

theorem readable_ofBool : Readable fun p : Bool => if p then "true" else "false" :=
  readable_of_prefix fun p q => by cases p <;> cases q <;> decide

theorem opens_ofBool : Opens fun p : Bool => if p then "true" else "false" := by
  intro p
  cases p
  · exact ⟨'f', "alse".toList, by decide, by decide⟩
  · exact ⟨'t', "rue".toList, by decide, by decide⟩

theorem readable_unit : Readable fun _ : Unit => "()" := readable_of_prefix fun _ _ _ => rfl

theorem opens_unit : Opens fun _ : Unit => "()" := by
  intro _
  exact ⟨'(', [')'], by simp, by decide⟩

end Text

theorem NumType.isEq_compare_int {s t : IntType} (a : Word s) (b : Word t) :
    (compare (.int s) (.int t) a b).isEq = (a.toInt == b.toInt) := by
  rw [compare, compareIntegers_eq, Outcome.isEq_ofOrdering_compare]

namespace Leaf

/-- The leaves that are written so that what is written tells the value. -/
def isLegible : Leaf → Bool
  | num (.int _) | bool | char | unit | textView | text | outcome => true
  | _ => false

theorem isSome_intrinsic_render? {a : Leaf} (ha : a.isLegible = true) :
    (intrinsic.render? a).isSome = true := by
  cases a with
  | num t => rfl
  | bool | char | unit | textView | text | outcome => rfl
  | _ => cases ha

theorem legible_text : Legible quotedString quotedString fun s t => s == t :=
  .of_readable (readable_quoted (.inl rfl)) (opens_quoted (.inl rfl)) fun s t => by
    rw [beq_iff_eq, String.toList_inj]

theorem intrinsic_legible {a b : Leaf} (ha : a.isLegible = true) (hb : b.isLegible = true)
    {f : a.Val → String} {g : b.Val → String} {e : a.Val → b.Val → Bool}
    (hf : intrinsic.render? a = some f) (hg : intrinsic.render? b = some g)
    (he : intrinsic.equal? a b = some e) : Legible f g e := by
  cases a with
  | num s =>
    cases b <;> try cases he
    rename_i t
    rcases s with s | _ <;> try cases ha
    rcases t with t | _ <;> try cases hb
    rw [intrinsic_equal?_num] at he
    cases hf
    cases hg
    cases he
    refine .of_readable readable_decimal opens_decimal fun x y => ?_
    rw [NumType.isEq_compare_int, beq_iff_eq]
  | bool =>
    cases b <;> cases he
    cases hf
    cases hg
    exact .of_readable readable_ofBool opens_ofBool fun p q => beq_iff_eq
  | char =>
    cases b <;> cases he
    cases hf
    cases hg
    refine .of_readable (readable_quoted (.inr rfl)) (opens_quoted (.inr rfl)) fun c d => ?_
    rw [beq_iff_eq, List.singleton_inj]
  | unit =>
    cases b <;> cases he
    cases hf
    cases hg
    exact .of_readable readable_unit opens_unit fun x y => iff_of_true rfl (Subsingleton.elim x y)
  | textView | text =>
    cases b <;> cases he
    all_goals
      cases hf
      cases hg
      exact legible_text
  | outcome =>
    cases b <;> cases he
    cases hf
    cases hg
    exact .of_readable Outcome.readable_token Outcome.opens_token fun o p => beq_iff_eq
  | _ => cases ha

theorem hasEquivalence_of_isLegible {a : Leaf} (ha : a.isLegible = true) :
    a.hasEquivalence = false := by
  cases a <;> first | rfl | cases ha

theorem intrinsic_equal?_self {a : Leaf} (ha : a.isLegible = true) :
    ∃ e, intrinsic.equal? a a = some e ∧ ∀ x y, e x y = true ↔ x = y := by
  cases a with
  | num t =>
    rcases t with t | _ <;> try cases ha
    refine ⟨_, intrinsic_equal?_num (.int t) (.int t), fun x y => ?_⟩
    rw [NumType.isEq_compare_int, beq_iff_eq]
    exact ⟨Word.ext, congrArg _⟩
  | bool | char | textView | text | outcome => exact ⟨_, rfl, fun _ _ => beq_iff_eq⟩
  | unit => exact ⟨_, rfl, fun _ _ => by simp⟩
  | _ => cases ha

end Leaf

namespace Ty

variable {s t : Ty}

theorem intrinsic_equal?_eq_relate? (hs : s.base.isLegible = true) (t : Ty) :
    s.equal? Leaf.intrinsic t = relate? .equivalence Leaf.intrinsic.equal? s t := by
  have hbase := Leaf.intrinsic_equivalent?_eq_equal? (Leaf.hasEquivalence_of_isLegible hs) t.base
  rw [equal?_eq_equivalent? _ _ _ hbase.symm, equivalent?_eq_relate?, relate?_congr s t hbase.symm]

theorem exists_intrinsic_render? (ht : t.base.isLegible = true) :
    ∃ f, t.render? Leaf.intrinsic = some f := by
  rw [← Option.isSome_iff_exists, isSome_render?]
  exact Leaf.isSome_intrinsic_render? ht

theorem intrinsic_legible (hs : s.base.isLegible = true) (ht : t.base.isLegible = true)
    {f : s.Val → String} {g : t.Val → String} {e : s.Val → t.Val → Bool}
    (hf : s.render? Leaf.intrinsic = some f) (hg : t.render? Leaf.intrinsic = some g)
    (he : s.equal? Leaf.intrinsic t = some e) : Legible f g e := by
  rw [intrinsic_equal?_eq_relate? hs] at he
  exact legible_render? (fun _ _ _ => Leaf.intrinsic_legible hs ht) hf hg he

theorem intrinsic_render?_injective (ht : t.base.isLegible = true) {f : t.Val → String}
    (hf : t.render? Leaf.intrinsic = some f) : Function.Injective f := by
  obtain ⟨e, he, heq⟩ := relate?_self t (Leaf.intrinsic_equal?_self ht)
  rw [← intrinsic_equal?_eq_relate? ht] at he
  intro x y hxy
  exact (heq x y).1 (((intrinsic_legible ht ht hf hf he).eq_iff x y).1 hxy)

end Ty

/-- Over leaves that are written legibly two values are equal exactly if they are written the same,
at any depth, though they be of different types and their texts hold what separates and closes
sequences. So a check for equality that fails shows two different texts, and on every one of these
types different values are written differently. -/
theorem renderings_tell_apart :
    (∀ {x y : Datum} {p : Bool}, x.type.base.isLegible = true → y.type.base.isLegible = true →
      x.equal? Leaf.intrinsic y = some p →
        ∃ u v, x.render? Leaf.intrinsic = some u ∧ y.render? Leaf.intrinsic = some v ∧
          (p = true ↔ u = v) ∧
          ∃ verify, Check.equal.verify? Leaf.intrinsic x.type y.type = some verify ∧
            (verify x.value y.value).mismatch = if u = v then none else some (.notEqual u v)) ∧
      ∀ {t : Ty}, t.base.isLegible = true →
        ∃ f, t.render? Leaf.intrinsic = some f ∧ Function.Injective f := by
  constructor
  · intro x y p hx hy h
    obtain ⟨e, he, rfl⟩ := Option.map_eq_some_iff.1 h
    obtain ⟨f, hf⟩ := Ty.exists_intrinsic_render? hx
    obtain ⟨g, hg⟩ := Ty.exists_intrinsic_render? hy
    have hiff : f x.value = g y.value ↔ e x.value y.value = true :=
      (Ty.intrinsic_legible hx hy hf hg he).eq_iff x.value y.value
    refine ⟨f x.value, g y.value, ?_, ?_, hiff.symm, Check.verifyEqual f g e, ?_, ?_⟩
    · rw [Datum.render?, hf, Option.map_some]
    · rw [Datum.render?, hg, Option.map_some]
    · simp [Check.verify?, hf, hg, he]
    · by_cases huv : f x.value = g y.value
      · rw [if_pos huv, Check.verifyEqual, if_pos (hiff.1 huv), Report.success]
      · rw [if_neg huv, Check.verifyEqual, if_neg (mt hiff.2 huv), Report.failure]
  · intro t ht
    obtain ⟨f, hf⟩ := Ty.exists_intrinsic_render? ht
    exact ⟨f, hf, Ty.intrinsic_render?_injective ht hf⟩

/-- A text that holds what two texts of a sequence are closed, separated and opened with. -/
theorem renderings_tell_apart_texts :
    let x : Datum := ⟨.list (.option (.leaf .text)), [some "a\"), Some(\"b"]⟩
    let y : Datum := ⟨.list (.option (.leaf .textView)), [some "a", some "b"]⟩
    let m : Mismatch :=
      .notEqual "[Some(\"a\\\"), Some(\\\"b\")]" "[Some(\"a\"), Some(\"b\")]"
    (∃ verify, Check.equal.verify? Leaf.intrinsic x.type y.type = some verify ∧
        (verify x.value y.value).mismatch = some m) ∧
      ∃ f, x.type.render? Leaf.intrinsic = some f ∧ Function.Injective f := by
  intro x y m
  have hx : x.type.base.isLegible = true := rfl
  have hy : y.type.base.isLegible = true := rfl
  have hequal : x.equal? Leaf.intrinsic y = some false := by decide
  have hlhs : x.render? Leaf.intrinsic = some m.lhs := by decide +kernel
  have hrhs : y.render? Leaf.intrinsic = some m.rhs := by decide +kernel
  obtain ⟨htell, hinj⟩ := renderings_tell_apart
  obtain ⟨u, v, hu, hv, hiff, verify, hverify, hfound⟩ := htell hx hy hequal
  obtain rfl : u = m.lhs := Option.some.inj (hu.symm.trans hlhs)
  obtain rfl : v = m.rhs := Option.some.inj (hv.symm.trans hrhs)
  have hne : m.lhs ≠ m.rhs := fun h => absurd (hiff.2 h) (by decide)
  exact ⟨⟨verify, hverify, hfound.trans (if_neg hne)⟩, hinj hx⟩

end Collate
