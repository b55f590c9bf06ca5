import WikiMarkup.CharacterReference
import WikiMarkup.Proofs.Text.Words
/-!
# The extent of character references

A reference is read off the text behind an ampersand by runs that are as long as possible.
`Spells r w` says that `w` is a spelling of the reference `r`, and `ofStart?_eq_some_iff` that `r`
is read exactly where such a spelling stands and what follows does not continue it. How a text is
decoded is derived from this: an ampersand with a reference behind it is decoded by
`unescape_reference`, one without by `unescape_ampersand`, and a text without ampersands stays as it
is (`unescape_append_of_notMem`). What holds of every text is proved by going from reference to
reference (`inductionOnReferences`).
-/

namespace WikiMarkup.CharacterReference

open Text (takeWhile_eq_iff)

/-- A text that spells a reference behind an ampersand, without the semicolon at its end. -/
inductive Spells : CharacterReference → Text → Prop where
  | named {name : Text} (hne : name ≠ []) (hword : ∀ c ∈ name, Unicode.isWord c = true) :
    Spells (.named name) name
  | decimal {digits : Text} (hne : digits ≠ [])
      (hdigits : ∀ c ∈ digits, Unicode.isDecimalDigit c = true) :
    Spells (.decimal digits) ('#' :: digits)
  | hexadecimal {x : Char} {digits : Text} (hx : x = 'x' ∨ x = 'X') (hne : digits ≠ [])
      (hdigits : ∀ c ∈ digits, isHexDigit c = true) :
    Spells (.hexadecimal digits) ('#' :: x :: digits)

/-- A character that makes a reference longer if it stands behind it. -/
def continues : CharacterReference → Char → Bool
  | .named _ => Unicode.isWord
  | .decimal _ => Unicode.isDecimalDigit
  | .hexadecimal _ => isHexDigit

/-- A reference is not continued by the text behind it. -/
def EndsBefore (r : CharacterReference) (e : Text) : Prop := ∀ c ∈ e.head?, r.continues c = false

/-! ### The reader -/

/-- What the reader finds is spelled at the beginning of the text, as long as can be. -/
lemma exists_spells_of_ofStart? {t : Text} {r : CharacterReference} (h : ofStart? t = some r) :
    ∃ w e, t = w ++ e ∧ Spells r w ∧ r.EndsBefore e := by
  unfold ofStart? at h
  -- The cases are those of the reader: behind a number sign decimal digits, else an `x` and
  -- hexadecimal digits; without a number sign a name.
  split at h
  · split at h
    · rename_i d ds hrun
      obtain rfl := Option.some.inj h
      obtain ⟨e, rfl, hdigits, he⟩ := takeWhile_eq_iff.1 hrun
      exact ⟨'#' :: d :: ds, e, rfl, .decimal (List.cons_ne_nil d ds) hdigits, he⟩
    · split at h
      · rename_i x _ _
        split at h
        · rename_i hx
          split at h
          · rename_i d ds hrun
            obtain rfl := Option.some.inj h
            obtain ⟨e, rfl, hdigits, he⟩ := takeWhile_eq_iff.1 hrun
            exact ⟨'#' :: x :: d :: ds, e, rfl,
              .hexadecimal hx (List.cons_ne_nil d ds) hdigits, he⟩
          · cases h
        · cases h
      · cases h
  · split at h
    · rename_i w ws hrun
      obtain rfl := Option.some.inj h
      obtain ⟨e, rfl, hword, he⟩ := takeWhile_eq_iff.1 hrun
      exact ⟨w :: ws, e, rfl, .named (List.cons_ne_nil w ws) hword, he⟩
    · cases h

/-- A spelling that is not continued is read. -/
lemma ofStart?_append {w e : Text} {r : CharacterReference} (hw : Spells r w)
    (he : r.EndsBefore e) : ofStart? (w ++ e) = some r := by
  cases hw with
  | named hne hword =>
    have hrun := takeWhile_eq_iff.2 ⟨e, rfl, hword, he⟩
    obtain ⟨c, name, rfl⟩ := List.exists_cons_of_ne_nil hne
    have hc : c ≠ '#' := by
      rintro rfl
      exact absurd (hword '#' List.mem_cons_self) (by decide)
    rw [List.cons_append] at hrun ⊢
    rw [ofStart?]
    · rw [hrun]
    · intro t ht
      exact hc (List.cons.inj ht).1
  | @decimal digits hne hdigits =>
    have hrun := takeWhile_eq_iff.2 ⟨e, rfl, hdigits, he⟩
    obtain ⟨d, ds, rfl⟩ := List.exists_cons_of_ne_nil hne
    simp only [List.cons_append, ofStart?] at hrun ⊢
    rw [hrun]
  | @hexadecimal x digits hx hne hdigits =>
    have hrun := takeWhile_eq_iff.2 ⟨e, rfl, hdigits, he⟩
    obtain ⟨d, ds, rfl⟩ := List.exists_cons_of_ne_nil hne
    have hnone : List.takeWhile Unicode.isDecimalDigit (x :: (d :: ds ++ e)) = [] := by
      refine List.takeWhile_cons_of_neg ?_
      rcases hx with rfl | rfl <;> decide
    simp only [List.cons_append, ofStart?, if_pos hx] at hrun hnone ⊢
    rw [hnone, hrun]

/-- A reference is read exactly where it is spelled and not continued. -/
lemma ofStart?_eq_some_iff {t : Text} {r : CharacterReference} :
    ofStart? t = some r ↔ ∃ w e, t = w ++ e ∧ Spells r w ∧ r.EndsBefore e := by
  constructor
  · exact exists_spells_of_ofStart?
  · rintro ⟨w, e, rfl, hw, he⟩
    exact ofStart?_append hw he

/-! ### The characters of a spelling -/

/-- Each range of the second table lies in a range of the first one. Both are ascending, so that the
ranges before the one that is looked for are not needed any more. -/
def covers : Unicode.RangeTable → Unicode.RangeTable → Bool
  | _, [] => true
  | large, r :: small =>
    match large.dropWhile fun w => Nat.blt w.2 r.2 with
    | [] => false
    | w :: rest => Nat.ble w.1 r.1 && covers (w :: rest) small

lemma contains_of_covers {large small : Unicode.RangeTable} {n : Nat}
    (h : covers large small = true) (hn : small.contains n = true) : large.contains n = true := by
  induction small generalizing large with
  | nil => cases hn
  | cons r small ih =>
    rw [covers] at h
    split at h
    · cases h
    · rename_i w rest hdrop
      have hrest : ∀ v ∈ w :: rest, v ∈ large := fun v hv =>
        (List.dropWhile_suffix _).subset (hdrop ▸ hv)
      rw [Bool.and_eq_true, Nat.ble_eq] at h
      rw [Unicode.RangeTable.contains, List.any_eq_true]
      rcases Bool.or_eq_true_iff.1 hn with hin | hin
      · have hlast := List.head?_dropWhile_not (fun w : Nat × Nat => Nat.blt w.2 r.2) large
        rw [hdrop] at hlast
        simp only [List.head?_cons, Bool.and_eq_true, decide_eq_true_eq] at hlast hin
        have hw : r.2 ≤ w.2 := by
          by_contra hlt
          rw [Nat.blt_eq.mpr (Nat.lt_of_not_le hlt)] at hlast
          cases hlast
        refine ⟨w, hrest w List.mem_cons_self, ?_⟩
        simp only [Bool.and_eq_true, decide_eq_true_eq]
        omega
      · obtain ⟨v, hv, hin⟩ := List.any_eq_true.1 (ih h.2 hin)
        exact ⟨v, hrest v hv, hin⟩

/-- What holds of the characters of ASCII one by one holds of each of them. -/
lemma of_ascii {p : Char → Prop} (h : ∀ n < 128, p (Char.ofNat n)) {c : Char}
    (hc : c.toNat < 128) : p c := by
  rw [← Char.ofNat_toNat c]
  exact h c.toNat hc

/-- The digits of base sixteen, in either case. -/
def hexDigits : Text := "0123456789abcdefABCDEF".toList

lemma mem_hexDigits {c : Char} (h : isHexDigit c = true) : c ∈ hexDigits := by
  have hascii : c.toNat < 128 := by
    simp only [isHexDigit, Bool.or_eq_true, Bool.and_eq_true, decide_eq_true_eq,
      Char.isDigit_iff_toNat, Char.le_def, UInt32.le_iff_toNat_le] at h
    change (48 ≤ c.toNat ∧ c.toNat ≤ 57 ∨ 97 ≤ c.toNat ∧ c.toNat ≤ 102) ∨
      65 ≤ c.toNat ∧ c.toNat ≤ 70 at h
    omega
  exact of_ascii (p := fun c => isHexDigit c = true → c ∈ hexDigits) (by decide) hascii h

/-- What holds of the digits of base sixteen one by one holds of each of them. -/
lemma of_isHexDigit {p : Char → Prop} [DecidablePred p]
    (hall : (hexDigits.all fun c => p c) = true) {c : Char} (h : isHexDigit c = true) : p c :=
  of_decide_eq_true (List.all_eq_true.1 hall c (mem_hexDigits h))

lemma isWord_of_isHexDigit {c : Char} (h : isHexDigit c = true) : Unicode.isWord c = true :=
  of_isHexDigit (p := fun c => Unicode.isWord c = true) (by decide) h

/-- The decimal digits of all scripts are word characters. -/
lemma isWord_of_isDecimalDigit {c : Char} (h : Unicode.isDecimalDigit c = true) :
    Unicode.isWord c = true := by
  rw [Unicode.isDecimalDigit] at h
  split at h
  · exact isWord_of_isHexDigit (by rw [isHexDigit, h]; rfl)
  · rename_i hc
    have htables : covers Unicode.wordRanges Unicode.decimalDigitRanges = true := by decide +kernel
    rw [Unicode.isWord, if_neg hc]
    exact contains_of_covers htables h

namespace Spells

variable {r : CharacterReference} {w : Text}

lemma length_eq (hw : Spells r w) : r.length = w.length := by
  cases hw <;> rfl

/-- A spelling holds word characters and, in front of digits, a number sign. -/
lemma isWord_or_eq (hw : Spells r w) : ∀ c ∈ w, Unicode.isWord c = true ∨ c = '#' := by
  intro c hc
  cases hw with
  | named _ hword => exact .inl (hword c hc)
  | decimal _ hdigits =>
    rcases List.mem_cons.1 hc with rfl | hc
    · exact .inr rfl
    · exact .inl (isWord_of_isDecimalDigit (hdigits c hc))
  | hexadecimal hx _ hdigits =>
    rcases List.mem_cons.1 hc with rfl | hc
    · exact .inr rfl
    · rcases List.mem_cons.1 hc with rfl | hc
      · exact .inl (by rcases hx with rfl | rfl <;> decide)
      · exact .inl (isWord_of_isHexDigit (hdigits c hc))

lemma ampersand_notMem (hw : Spells r w) : '&' ∉ w := by
  intro hmem
  rcases hw.isWord_or_eq '&' hmem with h | h
  · exact absurd h (by decide)
  · exact absurd h (by decide)

end Spells

/-! ### Decoding -/

lemma unescape_cons_of_ne {c : Char} (hc : c ≠ '&') (t : Text) :
    unescape (c :: t) = c :: unescape t := by
  rw [unescape, unescapeFrom, if_neg hc]
  rfl

/-- Text without ampersands stays as it is. -/
lemma unescape_append_of_notMem {s : Text} (hs : '&' ∉ s) (t : Text) :
    unescape (s ++ t) = s ++ unescape t := by
  induction s with
  | nil => rfl
  | cons c s ih =>
    rw [List.mem_cons, not_or] at hs
    rw [List.cons_append, unescape_cons_of_ne (Ne.symm hs.1), ih hs.2]
    rfl

/-- An ampersand without a reference behind it stays. -/
lemma unescape_ampersand {t : Text} (h : ofStart? t = none) :
    unescape ('&' :: t) = '&' :: unescape t := by
  rw [unescape, unescapeFrom, if_pos rfl, decodeStart?, h]
  rfl

/-- What follows the semicolon that closes a reference, or the whole text if there is none. -/
def behindSemicolon (e : Text) : Text := if e.head? = some ';' then e.tail else e

lemma length_behindSemicolon_le (e : Text) : (behindSemicolon e).length ≤ e.length := by
  rw [behindSemicolon]
  split
  · rw [List.length_tail]
    omega
  · exact le_rfl

/-- Decoding goes through a text by its references: a property of texts that passes from what is
behind a reference, with and without the semicolon there, or behind any other character, to the
whole holds of all texts. -/
@[elab_as_elim]
lemma inductionOnReferences {motive : Text → Prop} (nil : motive [])
    (plain : ∀ c s, c ≠ '&' → motive s → motive (c :: s))
    (ampersand : ∀ s, ofStart? s = none → motive s → motive ('&' :: s))
    (reference : ∀ r w e, Spells r w → r.EndsBefore e → motive e → motive (behindSemicolon e) →
      motive ('&' :: (w ++ e))) (s : Text) : motive s := by
  induction hn : s.length using Nat.strong_induction_on generalizing s with
  | h n ih =>
    subst hn
    cases s with
    | nil => exact nil
    | cons c s =>
      have hs : motive s := ih s.length (Nat.lt_succ_self _) s rfl
      by_cases hc : c = '&'
      · subst hc
        cases hstart : ofStart? s with
        | none => exact ampersand s hstart hs
        | some r =>
          obtain ⟨w, e, rfl, hw, he⟩ := ofStart?_eq_some_iff.1 hstart
          have hlength : e.length < ('&' :: (w ++ e)).length := by
            rw [List.length_cons, List.length_append]
            omega
          have hbehind := lt_of_le_of_lt (length_behindSemicolon_le e) hlength
          exact reference r w e hw he (ih e.length hlength e rfl)
            (ih (behindSemicolon e).length hbehind (behindSemicolon e) rfl)
      · exact plain c s hc hs

lemma decodeStart?_append {r : CharacterReference} {w e : Text} (hw : Spells r w)
    (he : r.EndsBefore e) :
    decodeStart? (w ++ e) =
      r.char?.map fun c => (c, if e.head? = some ';' then w.length + 1 else w.length) := by
  have hbehind : (w ++ e).drop w.length = e := List.drop_left
  rw [decodeStart?, ofStart?_append hw he, Option.bind_eq_bind, Option.bind_some, hw.length_eq]
  dsimp only
  rw [hbehind]
  cases r.char? <;> rfl

/-- A reference becomes the character that it names, and a semicolon behind it goes with it. A
reference that names no character stays. -/
lemma unescape_reference {r : CharacterReference} {w e : Text} (hw : Spells r w)
    (he : r.EndsBefore e) :
    unescape ('&' :: (w ++ e)) =
      match r.char? with
      | some c => c :: unescape (behindSemicolon e)
      | none => '&' :: (w ++ unescape e) := by
  rw [unescape, unescapeFrom, if_pos rfl, decodeStart?_append hw he]
  cases r.char? with
  | none => exact congrArg _ (unescape_append_of_notMem hw.ampersand_notMem e)
  | some c =>
    have hdrop : (w ++ e).drop (if e.head? = some ';' then w.length + 1 else w.length) =
        behindSemicolon e := by
      rw [behindSemicolon]
      split
      · rw [List.drop_length_add_append, List.drop_one]
      · rw [List.drop_left]
    rw [← hdrop, ← unescapeFrom_eq_unescape_drop]
    rfl

lemma EndsBefore.semicolon (r : CharacterReference) (t : Text) : r.EndsBefore (';' :: t) := by
  rintro c ⟨⟩
  cases r <;> rfl

/-- A reference with its semicolon is decoded by itself, whatever follows. -/
lemma unescape_closedReference {r : CharacterReference} {w : Text} (hw : Spells r w) (t : Text) :
    unescape ('&' :: (w ++ ';' :: t)) =
      (match r.char? with
        | some c => [c]
        | none => '&' :: (w ++ [';'])) ++ unescape t := by
  rw [unescape_reference hw (.semicolon r t)]
  cases r.char? with
  | none => simp [unescape_cons_of_ne]
  | some c => rfl

lemma unescape_loneReference {r : CharacterReference} {w : Text} (hw : Spells r w) :
    unescape ('&' :: (w ++ [';'])) =
      match r.char? with
      | some c => [c]
      | none => '&' :: (w ++ [';']) :=
  (unescape_closedReference hw []).trans (List.append_nil _)

end WikiMarkup.CharacterReference
