import Mathlib.Data.List.Basic
import Mathlib.Tactic.Common
import WikiMarkup.Text.Lines
/-!
# The ink of a text

The ink of a text is what remains of it without its white space. Trimming, replacing line ends and
taking a text apart into lines leave the ink as it is or only add to it, which is why none of them
can lose any content.
-/

namespace WikiMarkup.Text

/-- A text without its white space. -/
def ink (t : Text) : Text := t.filter fun c => !isSpace c

@[simp] lemma ink_nil : ink [] = [] := rfl

@[simp] lemma ink_append (s t : Text) : ink (s ++ t) = ink s ++ ink t :=
  List.filter_append ..

lemma ink_cons (c : Char) (t : Text) : ink (c :: t) = ink [c] ++ ink t :=
  ink_append [c] t

lemma ink_reverse (t : Text) : ink t.reverse = (ink t).reverse :=
  List.filter_reverse ..

lemma ink_cons_of_isSpace {c : Char} (hc : isSpace c = true) (t : Text) : ink (c :: t) = ink t := by
  simp [ink, hc]

lemma ink_sublist_ink {s t : Text} (h : s.Sublist t) : (ink s).Sublist (ink t) :=
  h.filter _

/-- A text around another one has all of its ink. -/
lemma ink_sublist_infix (p t s : Text) : (ink t).Sublist (ink (p ++ t ++ s)) :=
  ink_sublist_ink (List.infix_append p t s).sublist

lemma ink_eq_nil_of_isBlank {t : Text} (h : t.isBlank = true) : ink t = [] := by
  rw [ink, List.filter_eq_nil_iff]
  intro c hc
  have hspace := List.all_eq_true.1 h c hc
  simp [hspace]

/-! ### Trimming -/

lemma ink_trimStart (t : Text) : ink (trimStart t) = ink t := by
  induction t with
  | nil => rfl
  | cons c t ih =>
    rw [trimStart, List.dropWhile_cons]
    by_cases hc : isSpace c = true
    · rw [if_pos hc, ink_cons_of_isSpace hc]
      exact ih
    · rw [if_neg hc]

lemma ink_trimEnd (t : Text) : ink (trimEnd t) = ink t := by
  rw [trimEnd, ink_reverse]
  change (ink (trimStart t.reverse)).reverse = ink t
  rw [ink_trimStart, ink_reverse, List.reverse_reverse]

lemma ink_trim (t : Text) : ink (trim t) = ink t := by
  rw [trim, ink_trimEnd, ink_trimStart]

lemma ink_withoutFinal {c : Char} (hc : isSpace c = true) (t : Text) :
    ink (t.withoutFinal c) = ink t := by
  rw [withoutFinal]
  split
  · rename_i hlast
    obtain ⟨s, rfl⟩ := List.getLast?_eq_some_iff.1 hlast
    rw [List.dropLast_concat, ink_append, ink_cons_of_isSpace hc, ink_nil, List.append_nil]
  · rfl

/-! ### Lines -/

lemma ink_sublist_substituteNewlines (r t : Text) :
    (ink t).Sublist (ink (substituteNewlines r t)) := by
  induction t using substituteNewlines.induct with
  | case1 t ih =>
    rw [substituteNewlines, ink_append]
    exact List.sublist_append_of_sublist_right ih
  | case2 t ih =>
    rw [substituteNewlines, ink_append]
    exact List.sublist_append_of_sublist_right ih
  | case3 c t hcr hlf ih =>
    rw [substituteNewlines.eq_3 _ _ _ hcr hlf, ink_cons c t, ink_cons c (substituteNewlines r t)]
    exact (List.Sublist.refl _).append ih
  | case4 => exact List.Sublist.refl _

lemma ink_sublist_replaceNewlines (t r : Text) : (ink t).Sublist (ink (t.replaceNewlines r)) := by
  rw [replaceNewlines, ink_trim]
  exact ink_sublist_substituteNewlines r t

lemma ink_join {sep : Text} (hsep : ink sep = []) (ls : List Text) :
    ink (join sep ls) = ls.flatMap ink := by
  induction ls using join.induct with
  | case1 => rfl
  | case2 p => simp [join]
  | case3 p q ps ih => rw [join, ink_append, ink_append, hsep, ih, List.append_nil]; rfl

lemma flatMap_ink_split {sep : Char} (hsep : isSpace sep = true) (t : Text) :
    (t.split sep).flatMap ink = ink t := by
  induction t with
  | nil => rfl
  | cons c t ih =>
    rw [split]
    split
    · rename_i hc
      rw [hc, ink_cons_of_isSpace hsep, List.flatMap_cons, ih, ink_nil, List.nil_append]
    · split
      · rename_i hnil
        exact absurd hnil (split_ne_nil sep t)
      · rename_i p ps hps
        rw [hps] at ih
        rw [List.flatMap_cons, ink_cons, List.append_assoc, ← List.flatMap_cons, ih, ← ink_cons]

lemma flatMap_ink_filter (ls : List Text) :
    (ls.filter fun l => !l.isEmpty).flatMap ink = ls.flatMap ink := by
  induction ls with
  | nil => rfl
  | cons l ls ih => cases l <;> simp [ih]

end WikiMarkup.Text
