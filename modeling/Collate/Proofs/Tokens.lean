import Mathlib.Logic.Basic
import Collate.Datum
import Collate.Leaf.Contexts
import Collate.Outcome.Token

namespace Collate

namespace Outcome

/-- A token is the name of its outcome in small letters. -/
theorem token_eq_toLower_name (o : Outcome) :
    o.token.toList = o.name.toList.map Char.toLower := by
  cases o <;> decide

/-- What is stored is called what is written. -/
theorem variantName_eq_token (o : Outcome) : o.variantName = o.token := by
  have hlower : o.variantName.toList = o.token.toList := by
    rw [variantName, String.toList_map, token_eq_toLower_name]
  exact String.toList_inj.1 hlower

/-- Whether a reader takes every token for its outcome and refuses all other texts, each with an
error of its own. -/
structure ReadsTokens {ε : Type} (read : String → Except ε Outcome) (refusal : String → ε) :
    Prop where
  accepts : ∀ o, read o.token = .ok o
  refuses : ∀ s, (∀ o, s ≠ token o) → read s = .error (refusal s)

namespace ReadsTokens

variable {ε : Type} {read : String → Except ε Outcome} {refusal : String → ε} {s : String}

theorem eq_ok_iff (h : ReadsTokens read refusal) {o : Outcome} :
    read s = .ok o ↔ s = o.token := by
  constructor
  · intro ho
    by_cases hs : ∃ p : Outcome, s = p.token
    · obtain ⟨p, rfl⟩ := hs
      rw [h.accepts] at ho
      cases ho
      rfl
    · rw [h.refuses s (not_exists.1 hs)] at ho
      cases ho
  · rintro rfl
    exact h.accepts o

theorem eq_error_iff (h : ReadsTokens read refusal) {e : ε} :
    read s = .error e ↔ (∀ o : Outcome, s ≠ o.token) ∧ e = refusal s := by
  constructor
  · intro he
    have hs : ∀ o : Outcome, s ≠ o.token := by
      intro o ho
      rw [h.eq_ok_iff.2 ho] at he
      cases he
    rw [h.refuses s hs] at he
    cases he
    exact ⟨hs, rfl⟩
  · rintro ⟨hs, rfl⟩
    exact h.refuses s hs

end ReadsTokens

theorem parse_readsTokens : ReadsTokens parse UnknownToken.mk where
  accepts o := by cases o <;> rfl
  refuses s h := by
    have hnone : all.find? (·.token == s) = none := by
      rw [List.find?_eq_none]
      intro o _ ho
      exact h o (eq_of_beq ho).symm
    rw [parse, hnone]

theorem decodeName_readsTokens : ReadsTokens decodeName DecodeError.unknownName where
  accepts o := by cases o <;> rfl
  refuses s h := by
    fun_cases decodeName s with
    | case1 => exact absurd rfl (h less)
    | case2 => exact absurd rfl (h equivalent)
    | case3 => exact absurd rfl (h greater)
    | case4 => exact absurd rfl (h incomparable)
    | case5 => rfl

theorem decodeIndex_eq (i : Nat) :
    decodeIndex i = all[i]?.elim (.error (.indexOutOfRange i)) .ok := by
  match i with
  | 0 | 1 | 2 | 3 => rfl
  | i + 4 => rfl

theorem decodeIndex_eq_ok_iff {i : Nat} {o : Outcome} :
    decodeIndex i = .ok o ↔ all[i]? = some o := by
  rw [decodeIndex_eq]
  cases all[i]? <;> simp

theorem decodeIndex_of_le {i : Nat} (h : 4 ≤ i) :
    decodeIndex i = .error (.indexOutOfRange i) := by
  rw [decodeIndex_eq, List.getElem?_eq_none h]
  rfl

end Outcome

/-- What is said of a refused text tells the text. -/
theorem UnknownToken.message_injective {e e' : UnknownToken} (h : e.message = e'.message) :
    e = e' := by
  have htoken : e.token = e'.token :=
    (String.append_right_inj _).1 ((String.append_left_inj _).1 h)
  exact congrArg mk htoken

/-- There is one language of tokens. What writes an outcome writes its token, JSON with quotes
around it; both readers take the tokens, each for its outcome, and nothing else, and refuse every
other text by an error that holds it as it was, so that no two of them are refused alike. An index
is read as the outcome at that place. -/
theorem tokens_one_language :
    (∀ o : Outcome, Datum.render? Leaf.intrinsic ⟨.leaf .outcome, o⟩ = some o.token ∧
        o.toJson = "\"" ++ o.token ++ "\"" ∧ o.token.toList = o.name.toList.map Char.toLower) ∧
      (∀ s o, (Outcome.parse s = .ok o ↔ s = o.token) ∧
        (Outcome.decodeName s = .ok o ↔ s = o.token)) ∧
      (∀ s, (∀ o : Outcome, s ≠ o.token) → Outcome.parse s = .error ⟨s⟩ ∧
        Outcome.decodeName s = .error (.unknownName s)) ∧
      (∀ s t e e', Outcome.parse s = .error e → Outcome.parse t = .error e' →
        e.message = e'.message → s = t) ∧
      ∀ i, (∀ o, Outcome.decodeIndex i = .ok o ↔ i < 4 ∧ Outcome.all[i]? = some o) ∧
        (i < 4 → ∃ o, Outcome.decodeIndex i = .ok o) ∧
        (4 ≤ i → Outcome.decodeIndex i = .error (.indexOutOfRange i)) := by
  have hparse := Outcome.parse_readsTokens
  have hdecode := Outcome.decodeName_readsTokens
  refine ⟨fun o => ⟨rfl, ?_, o.token_eq_toLower_name⟩, fun s o => ?_, fun s hs => ?_,
    ?_, fun i => ⟨fun o => ?_, fun hi => ?_, Outcome.decodeIndex_of_le⟩⟩
  · rw [Outcome.toJson, o.variantName_eq_token]
  · exact ⟨hparse.eq_ok_iff, hdecode.eq_ok_iff⟩
  · exact ⟨hparse.refuses s hs, hdecode.refuses s hs⟩
  · intro s t e e' hs ht hmessage
    obtain ⟨-, rfl⟩ := hparse.eq_error_iff.1 hs
    obtain ⟨-, rfl⟩ := hparse.eq_error_iff.1 ht
    exact congrArg UnknownToken.token (UnknownToken.message_injective hmessage)
  · rw [Outcome.decodeIndex_eq_ok_iff]
    exact ⟨fun h => ⟨(List.getElem?_eq_some_iff.1 h).1, h⟩, And.right⟩
  · exact ⟨Outcome.all[i], Outcome.decodeIndex_eq_ok_iff.2 (List.getElem?_eq_getElem hi)⟩

/-- A token with a capital letter, and the first index that is none. -/
theorem tokens_one_language_near_misses :
    (∀ o : Outcome, "Less" ≠ o.token) ∧ Outcome.parse "Less" = .error ⟨"Less"⟩ ∧
      Outcome.decodeName "Less" = .error (.unknownName "Less") ∧
      Outcome.parse " less" ≠ .error ⟨"Less"⟩ ∧
      Outcome.decodeIndex 3 = .ok .incomparable ∧
      Outcome.decodeIndex 4 = .error (.indexOutOfRange 4) := by
  obtain ⟨-, -, hrefused, hapart, hindex⟩ := tokens_one_language
  have hless : ∀ o : Outcome, "Less" ≠ o.token := by
    intro o
    cases o <;> decide
  obtain ⟨hparse, hdecode⟩ := hrefused "Less" hless
  refine ⟨hless, hparse, hdecode, fun h => ?_, ?_, ?_⟩
  · exact absurd (hapart _ _ _ _ h hparse rfl) (by decide)
  · exact ((hindex 3).1 .incomparable).2 ⟨by decide, rfl⟩
  · exact (hindex 4).2.2 (Nat.le_refl 4)

end Collate
