import Collate.Check
import Collate.Proofs.Reversal

namespace Collate

/-- What is found once the operands have changed places. -/
def Mismatch.mirror : Mismatch → Mismatch
  | notEqual lhs rhs => notEqual rhs lhs
  | notEquivalent lhs rhs => notEquivalent rhs lhs
  | ordering lhs rhs expected actual => ordering rhs lhs expected.flip actual.flip

def Event.mirror (e : Event) : Event :=
  { e with
    lhs := e.rhs
    rhs := e.lhs
    outcomes := e.outcomes.map fun p => (p.1.flip, p.2.flip) }

namespace Mismatch

theorem event_mirror (m : Mismatch) : m.mirror.event = m.event.mirror := by
  cases m <;> rfl

/-- How what a check found of values written `u` and `v` is told: to the caller in words, to the
listeners by an event. -/
inductive Told (u v : String) : Mismatch → String → Event → Prop
  | notEqual : Told u v (.notEqual u v)
      ("expected " ++ u ++ " to equal " ++ v)
      ⟨"ordo::diagnostic", "DEBUG", "values are not equal", u, v, none⟩
  | notEquivalent : Told u v (.notEquivalent u v)
      ("expected " ++ u ++ " to be equivalent to " ++ v)
      ⟨"ordo::diagnostic", "DEBUG", "values are not equivalent", u, v, none⟩
  | ordering (expected actual : Outcome) : Told u v (.ordering u v expected actual)
      ("expected " ++ u ++ " to compare " ++ expected.token ++ " to " ++ v ++
        ", but it compared " ++ actual.token)
      ⟨"ordo::diagnostic", "DEBUG", "unexpected ordering", u, v, some (expected, actual)⟩

theorem told_event (m : Mismatch) : m.Told m.lhs m.rhs m.message m.event := by
  cases m with
  | notEqual lhs rhs => exact .notEqual
  | notEquivalent lhs rhs => exact .notEquivalent
  | ordering lhs rhs expected actual => exact .ordering expected actual

theorem Told.unique {m : Mismatch} {u v words words' : String} {e e' : Event}
    (h : m.Told u v words e) (h' : m.Told u v words' e') : words = words' ∧ e = e' := by
  cases h <;> cases h' <;> exact ⟨rfl, rfl⟩

end Mismatch

namespace Report

def mirror (r : Report) : Report := ⟨r.mismatch.map .mirror, r.events.map .mirror⟩

/-- The report of a check that found `found`. -/
def ofFinding : Option Mismatch → Report
  | none => success
  | some m => failure m

@[simp] theorem mismatch_ofFinding (found : Option Mismatch) :
    (ofFinding found).mismatch = found := by
  cases found <;> rfl

theorem ofFinding_ite (p : Prop) [Decidable p] (m : Mismatch) :
    ofFinding (if p then none else some m) = if p then success else failure m := by
  split <;> rfl

theorem mirror_ofFinding (found : Option Mismatch) :
    (ofFinding found).mirror = ofFinding (found.map .mirror) := by
  cases found with
  | none => rfl
  | some m =>
    show Report.mk (some m.mirror) [m.event.mirror] = ⟨some m.mirror, [m.mirror.event]⟩
    rw [m.event_mirror]

/-- A report on values written `u` and `v` that tells the listeners what it tells the caller:
nothing, or once what went wrong. -/
structure IsFaithful (r : Report) (u v : String) : Prop where
  quiet : r.mismatch = none → r.events = []
  told : ∀ m, r.mismatch = some m → ∃ e, r.events = [e] ∧ m.Told u v m.message e

theorem isFaithful_success (u v : String) : success.IsFaithful u v := by
  constructor
  · intro _
    rfl
  · intro m hm
    cases hm

theorem isFaithful_failure {m : Mismatch} {u v : String} (hu : m.lhs = u) (hv : m.rhs = v) :
    (failure m).IsFaithful u v := by
  subst hu hv
  constructor
  · intro hm
    cases hm
  · intro m' hm
    cases hm
    exact ⟨m.event, rfl, m.told_event⟩

/-- A faithful report is all told by what it found. -/
theorem IsFaithful.eq_of_told {r : Report} {u v words : String} {m : Mismatch} {e : Event}
    (h : r.IsFaithful u v) (hm : r.mismatch = some m) (he : m.Told u v words e) :
    r = ⟨some m, [e]⟩ := by
  obtain ⟨e', hevents, he'⟩ := h.told m hm
  obtain ⟨-, rfl⟩ := he.unique he'
  cases r
  cases hm
  cases hevents
  rfl

end Report

namespace Check

/-- The check that asks the same of the operands once they have changed places. -/
def mirror : Check → Check
  | equal => equal
  | equivalent => equivalent
  | ordering expected => ordering expected.flip

variable (cx : Context Leaf.Val)

def report? (c : Check) (x y : Datum) : Option Report :=
  (c.verify? cx x.type y.type).map fun f => f x.value y.value

/-- The words with which an assertion of a check stops the program, if it does. Assertions know no
context. -/
def assertion? (c : Check) (x y : Datum) : Option (Option String) :=
  (c.report? Leaf.intrinsic x y).map Report.assertion

/-- What a check has to say of values written `u` and `v`, by the context's relations alone. -/
def finding? (c : Check) (x y : Datum) (u v : String) : Option (Option Mismatch) :=
  match c with
  | equal => (x.equal? cx y).map fun p => if p then none else some (.notEqual u v)
  | equivalent => (x.equivalent? cx y).map fun p => if p then none else some (.notEquivalent u v)
  | ordering expected =>
    (x.compare? cx y).map fun o =>
      if o = expected then none else some (.ordering u v expected o)

variable {cx} {x y : Datum} {u v : String}

theorem report?_eq (hu : x.render? cx = some u) (hv : y.render? cx = some v) (c : Check) :
    c.report? cx x y = (c.finding? cx x y u v).map .ofFinding := by
  obtain ⟨f, hf, rfl⟩ := Option.map_eq_some_iff.1 hu
  obtain ⟨g, hg, rfl⟩ := Option.map_eq_some_iff.1 hv
  cases c with
  | equal =>
    have hverify : equal.verify? cx x.type y.type =
        (x.type.equal? cx y.type).map (verifyEqual f g) := by
      rw [verify?, hf, hg]
      rfl
    rw [report?, hverify, finding?, Datum.equal?]
    cases x.type.equal? cx y.type with
    | none => rfl
    | some e =>
      have hreport : verifyEqual f g e x.value y.value = .ofFinding
          (if e x.value y.value then none else some (.notEqual (f x.value) (g y.value))) := by
        rw [verifyEqual, Report.ofFinding_ite]
      exact congrArg some hreport
  | equivalent =>
    have hverify : equivalent.verify? cx x.type y.type =
        (x.type.equivalent? cx y.type).map (verifyEquivalent f g) := by
      rw [verify?, hf, hg]
      rfl
    rw [report?, hverify, finding?, Datum.equivalent?]
    cases x.type.equivalent? cx y.type with
    | none => rfl
    | some e =>
      have hreport : verifyEquivalent f g e x.value y.value = .ofFinding
          (if e x.value y.value then none else some (.notEquivalent (f x.value) (g y.value))) := by
        rw [verifyEquivalent, Report.ofFinding_ite]
      exact congrArg some hreport
  | ordering expected =>
    have hverify : (ordering expected).verify? cx x.type y.type =
        (x.type.compare? cx y.type).map fun e => verifyOrdering f g e expected := by
      rw [verify?, hf, hg]
      rfl
    rw [report?, hverify, finding?, Datum.compare?]
    cases x.type.compare? cx y.type with
    | none => rfl
    | some e =>
      have hreport : verifyOrdering f g e expected x.value y.value = .ofFinding
          (if e x.value y.value = expected then none
            else some (.ordering (f x.value) (g y.value) expected (e x.value y.value))) := by
        rw [verifyOrdering, Report.ofFinding_ite]
      exact congrArg some hreport

theorem lhs_rhs_of_finding? {c : Check} {m : Mismatch}
    (h : c.finding? cx x y u v = some (some m)) : m.lhs = u ∧ m.rhs = v := by
  cases c with
  | _ =>
    obtain ⟨a, -, ha⟩ := Option.map_eq_some_iff.1 h
    split at ha
    · cases ha
    · cases ha
      exact ⟨rfl, rfl⟩

/-- Both ways round the relations answer alike, so one thing is found, seen from either side. -/
theorem finding?_mirror (hcx : cx.Reversible) {c : Check} {m n : Option Mismatch}
    (hm : c.finding? cx x y u v = some m) (hn : c.mirror.finding? cx y x v u = some n) :
    n = m.map .mirror := by
  cases c with
  | equal =>
    obtain ⟨p, hp, rfl⟩ := Option.map_eq_some_iff.1 hm
    obtain ⟨q, hq, rfl⟩ := Option.map_eq_some_iff.1 hn
    obtain rfl : p = q := Datum.equal?_comm hcx hp hq
    cases p <;> rfl
  | equivalent =>
    obtain ⟨p, hp, rfl⟩ := Option.map_eq_some_iff.1 hm
    obtain ⟨q, hq, rfl⟩ := Option.map_eq_some_iff.1 hn
    obtain rfl : p = q := Datum.equivalent?_comm hcx hp hq
    cases p <;> rfl
  | ordering expected =>
    obtain ⟨o, ho, rfl⟩ := Option.map_eq_some_iff.1 hm
    obtain ⟨o', ho', rfl⟩ := Option.map_eq_some_iff.1 hn
    obtain rfl : o' = o.flip := Datum.compare?_flip hcx ho' ho
    have hiff : o.flip = expected.flip ↔ o = expected :=
      Function.Involutive.injective Outcome.flip_flip |>.eq_iff
    by_cases h : o = expected
    · rw [if_pos h, if_pos (hiff.2 h), Option.map_none]
    · rw [if_neg h, if_neg (mt hiff.1 h), Option.map_some, Mismatch.mirror]

theorem isFaithful_of_report? (hu : x.render? cx = some u) (hv : y.render? cx = some v) {c : Check}
    {r : Report} (h : c.report? cx x y = some r) : r.IsFaithful u v := by
  rw [report?_eq hu hv] at h
  obtain ⟨found, hfound, rfl⟩ := Option.map_eq_some_iff.1 h
  cases found with
  | none => exact Report.isFaithful_success u v
  | some m =>
    obtain ⟨hlhs, hrhs⟩ := lhs_rhs_of_finding? hfound
    exact Report.isFaithful_failure hlhs hrhs

theorem exists_report (hcx : cx.Reversible) (hu : x.render? cx = some u)
    (hv : y.render? cx = some v) {c : Check} {m n : Option Mismatch}
    (hm : c.finding? cx x y u v = some m) (hn : c.mirror.finding? cx y x v u = some n) :
    ∃ r, c.report? cx x y = some r ∧ c.mirror.report? cx y x = some r.mirror ∧ r.mismatch = m := by
  refine ⟨.ofFinding m, ?_, ?_, Report.mismatch_ofFinding m⟩
  · rw [report?_eq hu hv, hm, Option.map_some]
  · rw [report?_eq hv hu, hn, Option.map_some, Report.mirror_ofFinding, finding?_mirror hcx hm hn]

end Check

/-- Wherever a relation is in use both ways round and both operands can be written, a check and the
check with its operands exchanged pass together or fail with one and the same report, seen from
either side. Whatever the check, a report tells its listeners what it tells its caller. An assertion
stops exactly where its check without a context's own rules fails. -/
theorem checks_mirror :
    (∀ cx ∈ [Leaf.intrinsic, Leaf.house], ∀ (x y : Datum) (u v : String),
      x.render? cx = some u → y.render? cx = some v →
        (∀ o p e, x.compare? cx y = some o → y.compare? cx x = some p →
          ∃ r, (Check.ordering e).report? cx x y = some r ∧
            (Check.ordering e.flip).report? cx y x = some r.mirror ∧
            r.mismatch = if o = e then none else some (.ordering u v e o)) ∧
        (∀ p q, x.equal? cx y = some p → y.equal? cx x = some q →
          ∃ r, Check.equal.report? cx x y = some r ∧ Check.equal.report? cx y x = some r.mirror ∧
            r.mismatch = if p then none else some (.notEqual u v)) ∧
        (∀ p q, x.equivalent? cx y = some p → y.equivalent? cx x = some q →
          ∃ r, Check.equivalent.report? cx x y = some r ∧
            Check.equivalent.report? cx y x = some r.mirror ∧
            r.mismatch = if p then none else some (.notEquivalent u v))) ∧
      (∀ {cx : Context Leaf.Val} {x y : Datum} {u v : String} {c : Check} {r : Report},
        x.render? cx = some u → y.render? cx = some v → c.report? cx x y = some r →
          r.IsFaithful u v) ∧
      ∀ {x y : Datum} {c : Check} {r : Report}, c.report? Leaf.intrinsic x y = some r →
        c.assertion? x y = some (r.mismatch.map fun m => "assertion failed: " ++ m.message) := by
  refine ⟨?_, fun hu hv h => ?_, fun h => ?_⟩
  · intro cx hmem x y u v hu hv
    have hcx : cx.Reversible := by
      rcases List.mem_pair.1 hmem with rfl | rfl
      · exact Leaf.intrinsic_reversible
      · exact Leaf.house_reversible
    refine ⟨fun o p e ho hp => ?_, fun p q hp hq => ?_, fun p q hp hq => ?_⟩
    · exact Check.exists_report hcx hu hv (c := .ordering e)
        (by rw [Check.finding?, ho, Option.map_some])
        (by rw [Check.mirror, Check.finding?, hp, Option.map_some])
    · exact Check.exists_report hcx hu hv (c := .equal)
        (by rw [Check.finding?, hp, Option.map_some])
        (by rw [Check.mirror, Check.finding?, hq, Option.map_some])
    · exact Check.exists_report hcx hu hv (c := .equivalent)
        (by rw [Check.finding?, hp, Option.map_some])
        (by rw [Check.mirror, Check.finding?, hq, Option.map_some])
  · exact Check.isFaithful_of_report? hu hv h
  · rw [Check.assertion?, h]
    rfl

/-- Integers against floats by a context's own renderings, in a list each, and temperatures of two
scales in an assertion. -/
theorem checks_mirror_temperatures :
    let x : Datum := ⟨.list (.option (.leaf (.num (.int .i32)))), [some ⟨-3, by decide, by decide⟩]⟩
    let y : Datum := ⟨.list (.option (.leaf .f64)), [some ⟨0x4004000000000000#64⟩, none]⟩
    let u := "[Some(<-3>)]"
    let v := "[Some(0x4004000000000000), None]"
    let celsius : Datum := ⟨.ref (.leaf .celsius), (⟨-3, by decide, by decide⟩ : Word .i64)⟩
    let kelvin : Datum := ⟨.ref (.leaf .kelvin), (⟨271, by decide, by decide⟩ : Word .i64)⟩
    (Check.ordering .greater).report? Leaf.house x y =
        some ⟨some (.ordering u v .greater .less),
          [⟨"ordo::diagnostic", "DEBUG", "unexpected ordering", u, v, some (.greater, .less)⟩]⟩ ∧
      (Check.ordering .less).report? Leaf.house y x =
        some ⟨some (.ordering v u .less .greater),
          [⟨"ordo::diagnostic", "DEBUG", "unexpected ordering", v, u, some (.less, .greater)⟩]⟩ ∧
      Check.equal.report? Leaf.intrinsic celsius kelvin =
        some ⟨some (.notEqual "-3C" "Kelvin(271)"),
          [⟨"ordo::diagnostic", "DEBUG", "values are not equal", "-3C", "Kelvin(271)", none⟩]⟩ ∧
      Check.equal.report? Leaf.intrinsic kelvin celsius =
        some ⟨some (.notEqual "Kelvin(271)" "-3C"),
          [⟨"ordo::diagnostic", "DEBUG", "values are not equal", "Kelvin(271)", "-3C", none⟩]⟩ ∧
      Check.equal.assertion? celsius kelvin =
        some (some "assertion failed: expected -3C to equal Kelvin(271)") := by
  intro x y u v celsius kelvin
  have hx : x.render? Leaf.house = some u := by decide +kernel
  have hy : y.render? Leaf.house = some v := by decide +kernel
  have hcelsius : celsius.render? Leaf.intrinsic = some "-3C" := by decide +kernel
  have hkelvin : kelvin.render? Leaf.intrinsic = some "Kelvin(271)" := by decide +kernel
  have hxy : x.compare? Leaf.house y = some .less := by decide +kernel
  have hyx : y.compare? Leaf.house x = some .greater := by decide +kernel
  have hequal : celsius.equal? Leaf.intrinsic kelvin = some false := by decide
  have hequal' : kelvin.equal? Leaf.intrinsic celsius = some false := by decide
  obtain ⟨hmirror, hfaithful, hassert⟩ := checks_mirror
  obtain ⟨hordering, -, -⟩ := hmirror Leaf.house (List.mem_pair.2 (.inr rfl)) x y _ _ hx hy
  obtain ⟨-, hequals, -⟩ :=
    hmirror Leaf.intrinsic (List.mem_pair.2 (.inl rfl)) celsius kelvin _ _ hcelsius hkelvin
  obtain ⟨r, hr, hr', hfound⟩ := hordering _ _ .greater hxy hyx
  obtain ⟨r₀, hr₀, hr₀', hfound₀⟩ := hequals _ _ hequal hequal'
  obtain rfl := (hfaithful hx hy hr).eq_of_told hfound (.ordering .greater .less)
  obtain rfl := (hfaithful hcelsius hkelvin hr₀).eq_of_told hfound₀ .notEqual
  refine ⟨hr, hr', hr₀, hr₀', ?_⟩
  rw [hassert hr₀]
  decide +kernel

end Collate
