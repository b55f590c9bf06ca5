import Mathlib.Data.List.TakeWhile
import Mathlib.Tactic.Common
import WikiMarkup.Text.Space
/-!
# Runs of characters

The longest run of characters with a property ends at the end of the text or before a character
without it. In the same way the first word of a text is bounded by white space and by the ends of the
text, and this describes it completely (`firstWord?_eq_some_iff`). It is also the first of the
pieces between white space that are not empty (`find?_splitOnP_isSpace`).
-/

namespace WikiMarkup.Text

/-- The longest run of characters with a property ends where a character without it follows. -/
lemma takeWhile_eq_iff {p : Char → Bool} {t w : Text} :
    t.takeWhile p = w ↔
      ∃ e, t = w ++ e ∧ (∀ c ∈ w, p c = true) ∧ ∀ c ∈ e.head?, p c = false := by
  constructor
  · rintro rfl
    refine ⟨t.dropWhile p, List.takeWhile_append_dropWhile.symm,
      fun c hc => List.mem_takeWhile_imp hc, ?_⟩
    intro c hc
    have hstop := List.head?_dropWhile_not p t
    rw [Option.mem_def.1 hc] at hstop
    simpa using hstop
  · rintro ⟨e, rfl, hw, he⟩
    have hrest : e.takeWhile p = [] := by
      cases e with
      | nil => rfl
      | cons c e => exact List.takeWhile_cons_of_neg (by simp [he c rfl])
    rw [List.takeWhile_append_of_pos hw, hrest, List.append_nil]

/-- The word has only white space before it and ends where white space follows. -/
def IsFirstWord (word t : Text) : Prop :=
  ∃ before behind, t = before ++ (word ++ behind) ∧ before.isBlank = true ∧ word ≠ [] ∧
    (∀ c ∈ word, isSpace c = false) ∧ ∀ c ∈ behind.head?, isSpace c = true

variable {t word : Text}

lemma firstWord?_eq_some_iff_takeWhile :
    t.firstWord? = some word ↔
      (trimStart t).takeWhile (fun c => !isSpace c) = word ∧ word ≠ [] := by
  rw [firstWord?]
  split
  · rename_i hrun
    constructor
    · rintro ⟨⟩
    · rintro ⟨hword, hne⟩
      exact absurd (hword.symm.trans hrun) hne
  · rename_i hne
    constructor
    · intro h
      obtain rfl := Option.some.inj h
      exact ⟨rfl, hne⟩
    · rintro ⟨hword, -⟩
      rw [hword]

lemma firstWord?_eq_some_iff : t.firstWord? = some word ↔ IsFirstWord word t := by
  rw [firstWord?_eq_some_iff_takeWhile, takeWhile_eq_iff]
  constructor
  · rintro ⟨⟨behind, hstart, hword, hbehind⟩, hne⟩
    refine ⟨t.takeWhile isSpace, behind, ?_, ?_, hne, by simpa using hword, by simpa using hbehind⟩
    · rw [← hstart]
      exact List.takeWhile_append_dropWhile.symm
    · exact List.all_eq_true.2 fun c hc => List.mem_takeWhile_imp hc
  · rintro ⟨before, behind, rfl, hbefore, hne, hword, hbehind⟩
    have hstart : trimStart (before ++ (word ++ behind)) = word ++ behind := by
      obtain ⟨c, r, rfl⟩ := List.exists_cons_of_ne_nil hne
      rw [trimStart, List.dropWhile_append_of_pos (List.all_eq_true.1 hbefore), List.cons_append,
        List.dropWhile_cons_of_neg (by simp [hword c List.mem_cons_self])]
    exact ⟨⟨behind, hstart, by simpa using hword, by simpa using hbehind⟩, hne⟩

/-! ### Pieces between characters -/

lemma head?_splitOnP (p : Char → Bool) (t : Text) :
    (t.splitOnP p).head? = some (t.takeWhile fun c => !p c) := by
  induction t with
  | nil => simp
  | cons c t ih =>
    rw [List.splitOnP_cons_eq_if_modifyHead]
    cases hc : p c with
    | true => simp [hc]
    | false => simp [hc, List.head?_modifyHead, ih]

/-- Of the pieces between white space the first one that is not empty is the first word. -/
lemma find?_splitOnP_isSpace (t : Text) :
    (t.splitOnP isSpace).find? (· ≠ []) = t.firstWord? := by
  induction t with
  | nil => rfl
  | cons c t ih =>
    rw [List.splitOnP_cons_eq_if_modifyHead]
    cases hc : isSpace c with
    | true =>
      have hskip : firstWord? (c :: t) = firstWord? t := by
        rw [firstWord?, firstWord?, trimStart, List.dropWhile_cons, if_pos hc, ← trimStart]
      rw [if_pos rfl, hskip, ← ih]
      rfl
    | false =>
      have hword : firstWord? (c :: t) = some (c :: t.takeWhile fun c => !isSpace c) := by
        rw [firstWord?, trimStart, List.dropWhile_cons, if_neg (by simp [hc]),
          List.takeWhile_cons, if_pos (by simp [hc])]
      obtain ⟨w, ws, hsplit⟩ := List.exists_cons_of_ne_nil (List.splitOnP_ne_nil isSpace t)
      have hhead := head?_splitOnP isSpace t
      rw [hsplit, List.head?_cons, Option.some_inj] at hhead
      rw [if_neg (by simp), hsplit, hword, ← hhead]
      rfl

end WikiMarkup.Text
