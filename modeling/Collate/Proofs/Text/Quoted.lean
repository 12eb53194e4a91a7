import Mathlib.Data.Nat.Digits.Defs
import Collate.Proofs.Text.Reading
import Collate.Text.Numeral
import Collate.Text.Quoted

namespace Collate.Text

theorem hexValue?_digitChar {d : Nat} (h : d < 16) : hexValue? (Nat.digitChar d) = some d := by
  revert d
  decide

theorem foldlM_toDigits (n : Nat) :
    (Nat.toDigits 16 n).foldlM (fun n c => (hexValue? c).map (n * 16 + ·)) 0 = some n := by
  induction n using Nat.strongRecOn with
  | ind n ih =>
    rw [Nat.toDigits_eq_if (by decide)]
    split_ifs with hn
    · simp [hexValue?_digitChar hn]
    · have hdigit : n % 16 < 16 := Nat.mod_lt n (by decide)
      have hsplit : n / 16 * 16 + n % 16 = n := by omega
      simp [List.foldlM_append, ih (n / 16) (by omega), hexValue?_digitChar hdigit, hsplit]

theorem ofHex?_toDigits (n : Nat) :
    ofHex? (Nat.toDigits 16 n).length (Nat.toDigits 16 n) = some n := by
  rw [ofHex?, if_pos rfl, foldlM_toDigits]

theorem ne_brace_of_mem_toDigits {n : Nat} {c : Char} (h : c ∈ Nat.toDigits 16 n) :
    c ≠ '\x7d' := by
  induction n using Nat.strongRecOn with
  | ind n ih =>
    rw [Nat.toDigits_eq_if (by decide)] at h
    split_ifs at h with hn
    · rw [List.mem_singleton.1 h]
      exact Nat.digitChar_ne _ (by decide)
    · rcases List.mem_append.1 h with h | h
      · exact ih (n / 16) (by omega) h
      · rw [List.mem_singleton.1 h]
        exact Nat.digitChar_ne _ (by decide)

/-- The first character that an escaped text stands for, and what is left of the text. -/
def unescape? : List Char → Option (Char × List Char)
  | [] => none
  | '\\' :: '0' :: r => some ('\x00', r)
  | '\\' :: 't' :: r => some ('\t', r)
  | '\\' :: 'n' :: r => some ('\n', r)
  | '\\' :: 'r' :: r => some ('\r', r)
  | '\\' :: 'u' :: '\x7b' :: r =>
    let digits := r.takeWhile (· != '\x7d')
    (ofHex? digits.length digits).map fun n => (Char.ofNat n, r.drop (digits.length + 1))
  | '\\' :: c :: r => some (c, r)
  | c :: r => some (c, r)

theorem unescape?_hex (c : Char) (r : List Char) :
    unescape? ('\\' :: 'u' :: '\x7b' :: (Nat.toDigits 16 c.toNat ++ '\x7d' :: r)) =
      some (c, r) := by
  have htake : (Nat.toDigits 16 c.toNat ++ '\x7d' :: r).takeWhile (· != '\x7d') =
      Nat.toDigits 16 c.toNat :=
    takeWhile_append_of_stops (fun d hd => by simp [ne_brace_of_mem_toDigits hd]) (by simp)
  have hdrop : (Nat.toDigits 16 c.toNat ++ '\x7d' :: r).drop ((Nat.toDigits 16 c.toNat).length + 1) =
      r := by simp
  simp only [unescape?, htake, ofHex?_toDigits, hdrop, Option.map_some, Char.ofNat_toNat]

theorem unescape?_cons {c : Char} (h : c ≠ '\\') (r : List Char) :
    unescape? (c :: r) = some (c, r) := by
  simp [unescape?, h]

/-- The two characters that texts are quoted with. -/
def IsQuote (q : Char) : Prop := q = '"' ∨ q = '\''

/-- Every escape tells its character, and where it ends. -/
theorem unescape?_escape {q : Char} (hq : IsQuote q) (c : Char) (r : List Char) :
    unescape? (escape q c ++ r) = some (c, r) := by
  rw [escape]
  split_ifs with hnul htab hnewline hreturn hspecial hprint
  · rw [hnul]; rfl
  · rw [htab]; rfl
  · rw [hnewline]; rfl
  · rw [hreturn]; rfl
  · rcases hspecial with rfl | rfl
    · rfl
    · rcases hq with rfl | rfl <;> rfl
  · exact unescape?_cons (fun h => hspecial (.inl h)) r
  · simpa using unescape?_hex c r

theorem escape_eq_cons {q : Char} (hq : IsQuote q) (c : Char) :
    ∃ d ds, escape q c = d :: ds ∧ d ≠ q := by
  have hslash : '\\' ≠ q := by rcases hq with rfl | rfl <;> decide
  rw [escape]
  split_ifs with hnul htab hnewline hreturn hspecial hprint
  · exact ⟨_, _, rfl, hslash⟩
  · exact ⟨_, _, rfl, hslash⟩
  · exact ⟨_, _, rfl, hslash⟩
  · exact ⟨_, _, rfl, hslash⟩
  · exact ⟨_, _, rfl, hslash⟩
  · exact ⟨c, [], rfl, fun h => hspecial (.inr h)⟩
  · exact ⟨_, _, rfl, hslash⟩

/-- The quote that ends a text is the first one that stands by itself. -/
theorem flatMap_escape_append_inj {q : Char} (hq : IsQuote q) {cs ds r s : List Char}
    (h : cs.flatMap (escape q) ++ q :: r = ds.flatMap (escape q) ++ q :: s) : cs = ds ∧ r = s := by
  induction cs generalizing ds with
  | nil =>
    cases ds with
    | nil => exact ⟨rfl, (List.cons.inj h).2⟩
    | cons d ds =>
      obtain ⟨e, es, he, hne⟩ := escape_eq_cons hq d
      rw [List.flatMap_cons, he] at h
      exact absurd (List.cons.inj h).1.symm hne
  | cons c cs ih =>
    cases ds with
    | nil =>
      obtain ⟨e, es, he, hne⟩ := escape_eq_cons hq c
      rw [List.flatMap_cons, he] at h
      exact absurd (List.cons.inj h).1 hne
    | cons d ds =>
      rw [List.flatMap_cons, List.flatMap_cons, List.append_assoc, List.append_assoc] at h
      have hfirst := congrArg unescape? h
      rw [unescape?_escape hq, unescape?_escape hq] at hfirst
      obtain ⟨rfl, hrest⟩ := Prod.mk.inj (Option.some.inj hfirst)
      obtain ⟨rfl, hrs⟩ := ih hrest
      exact ⟨rfl, hrs⟩

theorem toList_quoted_append (q : Char) (cs r : List Char) :
    (quoted q cs).toList ++ r = q :: (cs.flatMap (escape q) ++ q :: r) := by
  simp [quoted]

theorem readable_quoted {q : Char} (hq : IsQuote q) : Readable (quoted q) := by
  intro cs ds r s _ _ h
  rw [toList_quoted_append, toList_quoted_append] at h
  exact flatMap_escape_append_inj hq (List.cons.inj h).2

theorem opens_quoted {q : Char} (hq : IsQuote q) : Opens (quoted q) := by
  intro cs
  refine ⟨q, cs.flatMap (escape q) ++ [q], by simp [quoted], ?_⟩
  rcases hq with rfl | rfl <;> decide

end Collate.Text
