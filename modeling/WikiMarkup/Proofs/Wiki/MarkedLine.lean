import Mathlib.Tactic.Common
import WikiMarkup.Wiki.List
/-!
# Marked lines

A list puts its marker before each line of its body. Whatever the line is, the result begins with a
marker and ends with the line, so no later list takes it for the text of an item.
-/

namespace WikiMarkup.Wiki

lemma isSpace_listMarker (ordered : Bool) : Text.isSpace (listMarker ordered) = false := by
  cases ordered <;> rfl

lemma newline_ne_listMarker (ordered : Bool) : '\n' ≠ listMarker ordered := by
  cases ordered <;> simp [listMarker]

lemma startsWithMarker_listMarker (ordered : Bool) (t : Text) :
    startsWithMarker (listMarker ordered :: t) = true := by
  cases ordered <;> rfl

lemma ne_nil_of_startsWithMarker {l : Text} (h : startsWithMarker l = true) : l ≠ [] := by
  rintro rfl
  cases h

lemma exists_markLine_eq (marker : Char) (line : Text) : ∃ u, markLine marker line = u ++ line := by
  rw [markLine]
  split
  · exact ⟨[marker], rfl⟩
  · exact ⟨[marker, ' '], rfl⟩

lemma prefix_markLine (marker : Char) (line : Text) : [marker] <+: markLine marker line := by
  rw [markLine]
  split <;> exact List.prefix_append [marker] _

/-- How a line is marked is settled by how it begins. -/
lemma markLine_append (marker : Char) {line : Text} (hne : line ≠ []) (t : Text) :
    markLine marker (line ++ t) = markLine marker line ++ t := by
  obtain ⟨c, r, rfl⟩ := List.exists_cons_of_ne_nil hne
  have hstart : startsWithMarker (c :: r ++ t) = startsWithMarker (c :: r) := rfl
  rw [markLine, markLine, hstart]
  split <;> rfl

lemma startsWithMarker_markLine (ordered : Bool) (l : Text) :
    startsWithMarker (markLine (listMarker ordered) l) = true := by
  rw [markLine]
  split <;> exact startsWithMarker_listMarker ordered _

lemma newline_notMem_markLine (ordered : Bool) {l : Text} (hl : '\n' ∉ l) :
    '\n' ∉ markLine (listMarker ordered) l := by
  rw [markLine]
  split <;> simp [newline_ne_listMarker, hl]

end WikiMarkup.Wiki
