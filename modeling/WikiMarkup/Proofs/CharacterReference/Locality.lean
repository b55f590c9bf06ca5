import WikiMarkup.Proofs.CharacterReference.Extent
/-!
# Decoding is local

A text can be decoded in parts, as long as no part begins with a character that could belong to a
reference before it (`unescape_append`). The first of two parts may end in the middle of anything:
no reference that is read in it becomes longer by what follows, and none comes about that reaches
across the boundary (`ofStart?_append_of_detached`).
-/

namespace WikiMarkup.CharacterReference

/-- A text that cannot belong to a reference before it. If it is not empty, its first character is
neither a word character nor a number sign nor a semicolon. -/
def Detached (t : Text) : Prop :=
  ∀ c ∈ t.head?, Unicode.isWord c = false ∧ c ≠ '#' ∧ c ≠ ';'

variable {r : CharacterReference} {e t : Text}

lemma isWord_of_continues {c : Char} (h : r.continues c = true) : Unicode.isWord c = true := by
  cases r with
  | named _ => exact h
  | decimal _ => exact isWord_of_isDecimalDigit h
  | hexadecimal _ => exact isWord_of_isHexDigit h

lemma EndsBefore.append (he : r.EndsBefore e) (ht : Detached t) : r.EndsBefore (e ++ t) := by
  cases e with
  | nil =>
    intro c hc
    rw [Bool.eq_false_iff]
    intro hcontinues
    have hword := isWord_of_continues hcontinues
    rw [(ht c hc).1] at hword
    cases hword
  | cons d e => exact he

/-- No spelling reaches into a detached text. -/
lemma Spells.exists_of_append_eq {w s : Text} (hw : Spells r w) (ht : Detached t)
    (h : s ++ t = w ++ e) : ∃ rest, s = w ++ rest ∧ e = rest ++ t := by
  rcases List.append_eq_append_iff.1 h with ⟨a, rfl, rfl⟩ | ⟨rest, hs, he⟩
  · cases a with
    | nil => exact ⟨[], by simp, rfl⟩
    | cons c a =>
      -- The first character of `t` would be one of the spelling.
      exfalso
      obtain ⟨hword, hsharp, -⟩ := ht c rfl
      rcases hw.isWord_or_eq c (by simp) with hc | hc
      · rw [hword] at hc
        cases hc
      · exact hsharp hc
  · exact ⟨rest, hs, he⟩

/-- What is read of a text does not depend on a detached text behind it. -/
lemma ofStart?_append_of_detached (ht : Detached t) (s : Text) :
    ofStart? (s ++ t) = ofStart? s := by
  refine Option.ext fun r => ?_
  rw [ofStart?_eq_some_iff, ofStart?_eq_some_iff]
  constructor
  · rintro ⟨w, e, h, hw, he⟩
    obtain ⟨rest, rfl, rfl⟩ := hw.exists_of_append_eq ht h
    refine ⟨w, rest, rfl, hw, fun c hc => he c ?_⟩
    rw [List.head?_append, Option.mem_def.1 hc]
    rfl
  · rintro ⟨w, e, rfl, hw, he⟩
    exact ⟨w, e ++ t, List.append_assoc w e t, hw, he.append ht⟩

lemma behindSemicolon_append (e : Text) (ht : Detached t) :
    behindSemicolon (e ++ t) = behindSemicolon e ++ t := by
  cases e with
  | nil =>
    rw [List.nil_append, behindSemicolon, if_neg]
    · rfl
    · intro hhead
      exact (ht ';' hhead).2.2 rfl
  | cons c e =>
    rw [List.cons_append, behindSemicolon, behindSemicolon, List.head?_cons, List.head?_cons]
    split <;> rfl

/-- **Locality of decoding.** Two texts are decoded together as each of them is by itself, whatever
the first one ends with, if the second one is empty or begins with a character that cannot belong to
a reference. -/
theorem unescape_append (s : Text) {t : Text} (ht : Detached t) :
    unescape (s ++ t) = unescape s ++ unescape t := by
  induction s using inductionOnReferences with
  | nil => rfl
  | plain c s hc ih =>
    rw [List.cons_append, unescape_cons_of_ne hc, unescape_cons_of_ne hc, ih]
    rfl
  | ampersand s hs ih =>
    have hwhole : ofStart? (s ++ t) = none := by rw [ofStart?_append_of_detached ht, hs]
    rw [List.cons_append, unescape_ampersand hwhole, unescape_ampersand hs, ih]
    rfl
  | reference r w e hw he ih ihBehind =>
    rw [List.cons_append, List.append_assoc, unescape_reference hw he,
      unescape_reference hw (he.append ht)]
    cases r.char? with
    | none =>
      dsimp only
      rw [ih]
      simp
    | some c =>
      dsimp only
      rw [behindSemicolon_append e ht, ihBehind]
      rfl

/-- The boundary cuts off a reference before its digits. -/
theorem unescape_append_numberSign :
    Detached "&lt;".toList ∧
      unescape ("&AMP&#x".toList ++ "&lt;".toList) = "&&#x".toList ++ "<".toList := by
  have ht : Detached "&lt;".toList := by
    rintro c ⟨⟩
    decide
  exact ⟨ht, unescape_append "&AMP&#x".toList ht⟩

example : unescape ("&l".toList ++ "t".toList) ≠ unescape "&l".toList ++ unescape "t".toList := by
  decide

end WikiMarkup.CharacterReference
