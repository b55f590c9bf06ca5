import Mathlib.Tactic.Common
import WikiMarkup.Text.Lines
/-!
# Pieces of a text

Splitting a text and joining the pieces are the library's operations on lists, so their laws carry
over. The lists and tables of the wiki are read back by the pieces between separators that are not
empty: `pieces` turns a text around a separator into two lists of pieces (`pieces_append`), and
trimming a text changes none of its pieces unless the first one begins or the last one ends with
white space (`pieces_trim`).
-/

namespace WikiMarkup.Text

/-! ### Splitting and joining -/

lemma join_eq_intercalate (sep : Text) (ls : List Text) : join sep ls = sep.intercalate ls := by
  induction ls using join.induct with
  | case1 => rfl
  | case2 p => rw [join, List.intercalate_singleton]
  | case3 p q ps ih => rw [join, ih, List.intercalate_cons_cons]

lemma split_eq_splitOn (sep : Char) (t : Text) : split sep t = t.splitOn sep := by
  induction t with
  | nil => rfl
  | cons c t ih =>
    rw [split, ih, List.splitOn_cons_eq_if_modifyHead]
    by_cases hc : c = sep
    · rw [if_pos hc, if_pos (beq_iff_eq.2 hc)]
    · rw [if_neg hc, if_neg (by simpa using hc)]
      cases h : t.splitOn sep with
      | nil => exact absurd h (List.splitOn_ne_nil sep t)
      | cons p ps => rfl

lemma split_append (sep : Char) (s t : Text) :
    split sep (s ++ sep :: t) = split sep s ++ split sep t := by
  simp only [split_eq_splitOn, List.splitOn_append_cons_self]

lemma split_of_notMem {sep : Char} {t : Text} (h : sep ∉ t) : split sep t = [t] := by
  rw [split_eq_splitOn, List.splitOn_eq_singleton h]

lemma join_split (sep : Char) (t : Text) : join [sep] (split sep t) = t := by
  rw [join_eq_intercalate, split_eq_splitOn, List.intercalate_splitOn]

lemma split_join {sep : Char} {ls : List Text} (hne : ls ≠ []) (h : ∀ l ∈ ls, sep ∉ l) :
    split sep (join [sep] ls) = ls := by
  rw [join_eq_intercalate, split_eq_splitOn, List.splitOn_intercalate sep h hne]

lemma notMem_of_mem_split {sep : Char} {t l : Text} (h : l ∈ split sep t) : sep ∉ l := by
  induction t generalizing l with
  | nil =>
    obtain rfl : l = [] := by simpa [split] using h
    simp
  | cons c t ih =>
    rw [split] at h
    split at h
    · rcases List.mem_cons.1 h with rfl | h
      · simp
      · exact ih h
    · rename_i hc
      split at h
      · rename_i hnil
        exact absurd hnil (split_ne_nil sep t)
      · rename_i p ps hps
        rw [hps] at ih
        rcases List.mem_cons.1 h with rfl | h
        · have hp : sep ∉ p := ih List.mem_cons_self
          simpa [hp] using fun hsep : sep = c => hc hsep.symm
        · exact ih (List.mem_cons_of_mem _ h)

lemma exists_mem_of_mem_join {sep c : Char} (hsep : c ≠ sep) {ls : List Text}
    (h : c ∈ join [sep] ls) : ∃ l ∈ ls, c ∈ l := by
  induction ls using join.induct with
  | case1 => simp [join] at h
  | case2 l => exact ⟨l, List.mem_cons_self, h⟩
  | case3 l m ls ih =>
    rw [join, List.append_assoc] at h
    rcases List.mem_append.1 h with h | h
    · exact ⟨l, List.mem_cons_self, h⟩
    · obtain ⟨k, hk, hck⟩ := ih (by simpa [hsep] using h)
      exact ⟨k, List.mem_cons_of_mem _ hk, hck⟩

lemma join_concat (sep : Text) {ls : List Text} (hne : ls ≠ []) (l : Text) :
    join sep (ls ++ [l]) = join sep ls ++ sep ++ l := by
  induction ls using join.induct with
  | case1 => exact absurd rfl hne
  | case2 p => rfl
  | case3 p q ps ih =>
    have hrest : join sep (q :: ps ++ [l]) = join sep (q :: ps) ++ sep ++ l := ih (by simp)
    rw [List.cons_append, List.cons_append, join, ← List.cons_append, hrest, join]
    simp only [List.append_assoc]

lemma prefix_join_cons (sep p : Text) (ps : List Text) : p <+: join sep (p :: ps) := by
  cases ps with
  | nil => exact List.prefix_rfl
  | cons q ps =>
    rw [join, List.append_assoc]
    exact List.prefix_append _ _

lemma suffix_join_concat (sep : Text) (ls : List Text) (l : Text) : l <:+ join sep (ls ++ [l]) := by
  by_cases hls : ls = []
  · rw [hls]
    exact List.suffix_refl l
  · rw [join_concat sep hls]
    exact List.suffix_append _ l

lemma join_append_sep (sep : Text) {ls : List Text} (hne : ls ≠ []) :
    join sep ls ++ sep = ls.flatMap fun l => l ++ sep := by
  induction ls using join.induct with
  | case1 => exact absurd rfl hne
  | case2 p => simp [join]
  | case3 p q ps ih => rw [join, List.append_assoc, ih (by simp), List.flatMap_cons (x := p)]

lemma reverse_join (c : Char) (ls : List Text) :
    (join [c] ls).reverse = join [c] (ls.map List.reverse).reverse := by
  induction ls using join.induct with
  | case1 => rfl
  | case2 p => rfl
  | case3 p q ps ih =>
    rw [join, List.reverse_append, List.reverse_append, ih, List.map_cons (a := p),
      List.reverse_cons (a := p.reverse), join_concat [c] (by simp)]
    simp

lemma split_reverse (sep : Char) (t : Text) :
    split sep t.reverse = ((split sep t).map List.reverse).reverse := by
  have hlines : t.reverse = join [sep] ((split sep t).map List.reverse).reverse := by
    rw [← reverse_join, join_split]
  rw [hlines, split_join]
  · simpa using split_ne_nil sep t
  · intro l hl
    obtain ⟨s, hs, rfl⟩ := List.mem_map.1 (List.mem_reverse.1 hl)
    simpa using notMem_of_mem_split hs

/-! ### Trimming -/

lemma trimEnd_eq_iff (t : Text) : trimEnd t = t ↔ trimStart t.reverse = t.reverse := by
  rw [trimEnd, trimStart, List.reverse_eq_iff]

lemma trimStart_cons_of_isSpace {c : Char} (hc : isSpace c = true) (t : Text) :
    trimStart (c :: t) = trimStart t := by
  rw [trimStart, List.dropWhile_cons, if_pos hc]
  rfl

lemma trimStart_cons_of_not_isSpace {c : Char} (hc : isSpace c = false) (t : Text) :
    trimStart (c :: t) = c :: t := by
  rw [trimStart, List.dropWhile_cons, if_neg (by simp [hc])]

lemma length_trimStart_le (t : Text) : (trimStart t).length ≤ t.length :=
  (List.dropWhile_suffix _).length_le

lemma length_trimEnd_le (t : Text) : (trimEnd t).length ≤ t.length := by
  have hlength := length_trimStart_le t.reverse
  rw [List.length_reverse] at hlength
  rw [trimEnd, List.length_reverse]
  exact hlength

/-- A text that begins with white space is changed by trimming. -/
lemma isSpace_eq_false_of_trimStart {c : Char} {t : Text} (h : trimStart (c :: t) = c :: t) :
    isSpace c = false := by
  by_contra hc
  rw [trimStart_cons_of_isSpace (by simpa using hc)] at h
  have hlength := length_trimStart_le t
  rw [h, List.length_cons] at hlength
  omega

lemma trim_eq_iff (t : Text) : trim t = t ↔ trimStart t = t ∧ trimEnd t = t := by
  constructor
  · intro h
    have hlength : t.length ≤ (trimStart t).length := by
      conv_lhs => rw [← h]
      exact length_trimEnd_le _
    have hstart : trimStart t = t :=
      (List.dropWhile_suffix _).eq_of_length_le hlength
    refine ⟨hstart, ?_⟩
    rw [trim, hstart] at h
    exact h
  · rintro ⟨hstart, hend⟩
    rw [trim, hstart, hend]

lemma trimEnd_append_of_isSpace {c : Char} (hc : isSpace c = true) (t : Text) :
    trimEnd (t ++ [c]) = trimEnd t := by
  rw [trimEnd, List.reverse_append, List.reverse_singleton, List.singleton_append,
    List.dropWhile_cons, if_pos hc]
  rfl

lemma trimEnd_append_of_not_isSpace {c : Char} (hc : isSpace c = false) (t : Text) :
    trimEnd (t ++ [c]) = t ++ [c] := by
  rw [trimEnd_eq_iff, List.reverse_append]
  exact trimStart_cons_of_not_isSpace hc t.reverse

/-- What ends without white space ends so behind any text. -/
lemma trimEnd_append {t : Text} (hne : t ≠ []) (h : trimEnd t = t) (s : Text) :
    trimEnd (s ++ t) = s ++ t := by
  rw [trimEnd_eq_iff] at h ⊢
  obtain ⟨c, r, hr⟩ := List.exists_cons_of_ne_nil (List.reverse_ne_nil_iff.2 hne)
  rw [hr] at h
  rw [List.reverse_append, hr, List.cons_append]
  exact trimStart_cons_of_not_isSpace (isSpace_eq_false_of_trimStart h) _

lemma substituteNewlines_of_notMem (replacement : Text) {t : Text} (h : '\n' ∉ t) :
    substituteNewlines replacement t = t := by
  fun_induction substituteNewlines replacement t with
  | case1 | case2 => simp at h
  | case3 c t _ _ ih => rw [ih fun hc => h (List.mem_cons_of_mem c hc)]
  | case4 => rfl

/-- Nothing is replaced in a trimmed line. -/
lemma replaceNewlines_of_line (replacement : Text) {t : Text} (h : '\n' ∉ t) (htrim : trim t = t) :
    replaceNewlines t replacement = t := by
  rw [replaceNewlines, substituteNewlines_of_notMem replacement h, htrim]

/-! ### Pieces that are not empty -/

/-- The pieces of a text between the occurrences of a separator that are not empty. -/
def pieces (sep : Char) (t : Text) : List Text := (t.split sep).filter fun l => !l.isEmpty

variable {sep : Char}

@[simp] lemma pieces_nil : pieces sep [] = [] := rfl

lemma pieces_append (s t : Text) : pieces sep (s ++ sep :: t) = pieces sep s ++ pieces sep t := by
  rw [pieces, split_append, List.filter_append]
  rfl

lemma pieces_cons_sep (t : Text) : pieces sep (sep :: t) = pieces sep t :=
  pieces_append [] t

/-- A text that begins with a separator keeps its pieces behind any text. -/
lemma pieces_append_of_start {t : Text} (h : t = [] ∨ ∃ r, t = sep :: r) (s : Text) :
    pieces sep (s ++ t) = pieces sep s ++ pieces sep t := by
  rcases h with rfl | ⟨r, rfl⟩
  · rw [pieces_nil, List.append_nil, List.append_nil]
  · rw [pieces_append, pieces_cons_sep]

lemma pieces_of_notMem {l : Text} (hne : l ≠ []) (hl : sep ∉ l) : pieces sep l = [l] := by
  rw [pieces, split_of_notMem hl]
  simp [hne]

/-- Pieces with separators between them are read back. -/
lemma pieces_join {ls : List Text} (hne : ∀ l ∈ ls, l ≠ []) (h : ∀ l ∈ ls, sep ∉ l) :
    pieces sep (join [sep] ls) = ls := by
  cases ls with
  | nil => rfl
  | cons l ls =>
    rw [pieces, split_join (by simp) h]
    exact List.filter_eq_self.2 fun l hl => by simpa using hne l hl

lemma pieces_join_padded {ls : List Text} (hne : ∀ l ∈ ls, l ≠ []) (h : ∀ l ∈ ls, sep ∉ l) :
    pieces sep (sep :: join [sep] ls ++ [sep, sep]) = ls := by
  rw [pieces_append, pieces_cons_sep, pieces_join hne h, pieces_cons_sep, pieces_nil,
    List.append_nil]

lemma pieces_reverse (t : Text) :
    pieces sep t.reverse = ((pieces sep t).map List.reverse).reverse := by
  rw [pieces, split_reverse, List.filter_reverse, List.filter_map, pieces]
  simp [Function.comp_def]

lemma pieces_trimStart {t : Text} (h : ∀ l ∈ (pieces sep t).head?, trimStart l = l) :
    pieces sep (trimStart t) = pieces sep t := by
  induction t with
  | nil => rfl
  | cons c t ih =>
    cases hc : isSpace c with
    | false => rw [trimStart_cons_of_not_isSpace hc]
    | true =>
      rw [trimStart_cons_of_isSpace hc]
      by_cases hsep : c = sep
      · rw [hsep, pieces_cons_sep] at h ⊢
        exact ih h
      · -- The first piece would begin with the white space `c`.
        exfalso
        obtain ⟨p, ps, hps⟩ := List.exists_cons_of_ne_nil (split_ne_nil sep t)
        have hsplit : split sep (c :: t) = (c :: p) :: ps := by
          rw [split, if_neg hsep, hps]
        have hfirst : trimStart (c :: p) = c :: p := h (c :: p) (by simp [pieces, hsplit])
        rw [isSpace_eq_false_of_trimStart hfirst] at hc
        cases hc

lemma pieces_trimEnd {t : Text} (h : ∀ l ∈ (pieces sep t).getLast?, trimEnd l = l) :
    pieces sep (trimEnd t) = pieces sep t := by
  have hreverse : pieces sep (trimStart t.reverse) = pieces sep t.reverse := by
    refine pieces_trimStart fun l hl => ?_
    rw [pieces_reverse, List.head?_reverse, List.getLast?_map] at hl
    obtain ⟨s, hs, rfl⟩ := Option.map_eq_some_iff.1 hl
    exact (trimEnd_eq_iff s).1 (h s hs)
  calc pieces sep (trimEnd t)
      = ((pieces sep (trimStart t.reverse)).map List.reverse).reverse := by
        rw [← pieces_reverse]; rfl
    _ = pieces sep t := by rw [hreverse, ← pieces_reverse, List.reverse_reverse]

/-- Trimming leaves the pieces of a text as they are unless it cuts into the first or the last. -/
lemma pieces_trim {t : Text} (hfirst : ∀ l ∈ (pieces sep t).head?, trimStart l = l)
    (hlast : ∀ l ∈ (pieces sep t).getLast?, trimEnd l = l) :
    pieces sep (trim t) = pieces sep t := by
  have hstart := pieces_trimStart hfirst
  rw [trim, pieces_trimEnd (by rwa [hstart]), hstart]

end WikiMarkup.Text
