import WikiMarkup.Proofs.Text.Pieces
/-!
# Texts inside of texts

A text that neither begins nor ends with white space stays in one piece when the text around it is
trimmed (`Solid.infix_trim`). When the text around it is taken apart at a separator, its first and
its last piece become parts of longer ones, and the pieces between them stay as they are
(`split_append_text`).
-/

namespace WikiMarkup.Text

/-- A text that neither begins nor ends with white space and is not empty. -/
structure Solid (t : Text) : Prop where
  head : ∃ c r, t = c :: r ∧ isSpace c = false
  last : ∃ r c, t = r ++ [c] ∧ isSpace c = false

lemma solid_of_trim_eq {t : Text} (hne : t ≠ []) (h : trim t = t) : Solid t := by
  obtain ⟨hstart, hend⟩ := (trim_eq_iff t).1 h
  refine ⟨?_, ?_⟩
  · obtain ⟨c, r, rfl⟩ := List.exists_cons_of_ne_nil hne
    exact ⟨c, r, rfl, isSpace_eq_false_of_trimStart hstart⟩
  · obtain ⟨c, r, hr⟩ := List.exists_cons_of_ne_nil (List.reverse_ne_nil_iff.2 hne)
    rw [trimEnd_eq_iff, hr] at hend
    refine ⟨r.reverse, c, ?_, isSpace_eq_false_of_trimStart hend⟩
    rw [← List.reverse_cons, ← hr, List.reverse_reverse]

/-! ### Trimming -/

lemma exists_trimStart_append {t : Text} (ht : ∃ c r, t = c :: r ∧ isSpace c = false) (x : Text) :
    ∃ x', trimStart (x ++ t) = x' ++ t := by
  induction x with
  | nil =>
    obtain ⟨c, r, rfl, hc⟩ := ht
    exact ⟨[], trimStart_cons_of_not_isSpace hc r⟩
  | cons d x ih =>
    cases hd : isSpace d with
    | true =>
      rw [List.cons_append, trimStart_cons_of_isSpace hd]
      exact ih
    | false => exact ⟨d :: x, trimStart_cons_of_not_isSpace hd (x ++ t)⟩

lemma exists_trimEnd_append {t : Text} (ht : ∃ r c, t = r ++ [c] ∧ isSpace c = false) (y : Text) :
    ∃ y', trimEnd (t ++ y) = t ++ y' := by
  obtain ⟨r, c, rfl, hc⟩ := ht
  have hreverse : ∃ c' r', (r ++ [c]).reverse = c' :: r' ∧ isSpace c' = false :=
    ⟨c, r.reverse, by simp, hc⟩
  obtain ⟨y', hy'⟩ := exists_trimStart_append hreverse y.reverse
  refine ⟨y'.reverse, ?_⟩
  rw [trimEnd, List.reverse_append]
  change (trimStart (y.reverse ++ (r ++ [c]).reverse)).reverse = _
  rw [hy', List.reverse_append, List.reverse_reverse]

/-- Trimming does not cut into a text without white space at its ends. -/
lemma Solid.infix_trim {p t : Text} (hp : Solid p) (h : p <:+: t) : p <:+: trim t := by
  obtain ⟨x, y, rfl⟩ := h
  have hhead : ∃ c r, p ++ y = c :: r ∧ isSpace c = false := by
    obtain ⟨c, r, rfl, hc⟩ := hp.head
    exact ⟨c, r ++ y, rfl, hc⟩
  obtain ⟨x', hx'⟩ := exists_trimStart_append hhead x
  have hlast : ∃ r c, x' ++ p = r ++ [c] ∧ isSpace c = false := by
    obtain ⟨r, c, rfl, hc⟩ := hp.last
    exact ⟨x' ++ r, c, by simp, hc⟩
  obtain ⟨y', hy'⟩ := exists_trimEnd_append hlast y
  rw [trim, List.append_assoc, hx', ← List.append_assoc, hy']
  exact List.infix_append x' p y'

/-! ### Joining -/

lemma join_cons_of_ne_nil (sep p : Text) {ps : List Text} (hps : ps ≠ []) :
    join sep (p :: ps) = p ++ sep ++ join sep ps := by
  cases ps with
  | nil => exact absurd rfl hps
  | cons q ps => rfl

lemma join_append_cons_left (sep u p : Text) (ps : List Text) :
    join sep ((u ++ p) :: ps) = u ++ join sep (p :: ps) := by
  cases ps with
  | nil => rfl
  | cons q ps => simp [join]

/-- Texts put together have their last and their first piece put together. -/
lemma join_append_join (sep l f : Text) (ls fs : List Text) :
    join sep (ls ++ (l ++ f) :: fs) = join sep (ls ++ [l]) ++ join sep (f :: fs) := by
  induction ls with
  | nil => exact join_append_cons_left sep l f fs
  | cons p ls ih =>
    rw [List.cons_append, List.cons_append, join_cons_of_ne_nil sep p (by simp), ih,
      join_cons_of_ne_nil sep p (by simp), List.append_assoc _ _ (join sep (f :: fs))]

lemma join_append_ends (sep u f l v : Text) (ls : List Text) :
    join sep ((u ++ f) :: (ls ++ [l ++ v])) = u ++ join sep (f :: (ls ++ [l])) ++ v := by
  have hlast : join sep (f :: (ls ++ [l ++ v])) = join sep (f :: (ls ++ [l])) ++ v :=
    join_append_join sep l v (f :: ls) []
  rw [join_append_cons_left, hlast, List.append_assoc]

lemma prefix_join_append (sep : Text) (ls ms : List Text) :
    join sep ls <+: join sep (ls ++ ms) := by
  induction ls using join.induct with
  | case1 => exact List.nil_prefix
  | case2 p => exact prefix_join_cons sep p ms
  | case3 p q ps ih =>
    have htail : join sep (p :: q :: ps ++ ms) = p ++ sep ++ join sep (q :: ps ++ ms) := rfl
    rw [htail, join]
    exact (List.prefix_append_right_inj _).2 ih

lemma suffix_join_append (sep : Text) (ls ms : List Text) :
    join sep ms <:+ join sep (ls ++ ms) := by
  induction ls with
  | nil => exact List.suffix_rfl
  | cons p ls ih =>
    by_cases hne : ls ++ ms = []
    · obtain rfl : ms = [] := (List.append_eq_nil_iff.1 hne).2
      exact List.nil_suffix
    · rw [List.cons_append, join_cons_of_ne_nil sep p hne]
      exact ih.trans (List.suffix_append _ _)

lemma infix_join_append (sep : Text) (ls ms ns : List Text) :
    join sep ms <:+: join sep (ls ++ (ms ++ ns)) :=
  (prefix_join_append sep ms ns).isInfix.trans (suffix_join_append sep ls (ms ++ ns)).isInfix

lemma infix_join_of_mem (sep : Text) {p : Text} {ps : List Text} (h : p ∈ ps) :
    p <:+: join sep ps := by
  obtain ⟨ls, ns, rfl⟩ := List.append_of_mem h
  exact infix_join_append sep ls [p] ns

/-! ### Splitting -/

lemma exists_split_eq_cons (sep : Char) (t : Text) : ∃ f fs, split sep t = f :: fs :=
  List.exists_cons_of_ne_nil (split_ne_nil sep t)

lemma exists_split_eq_concat (sep : Char) (t : Text) : ∃ ls l, split sep t = ls ++ [l] := by
  obtain ⟨ls, l, h⟩ := (List.eq_nil_or_concat _).resolve_left (split_ne_nil sep t)
  exact ⟨ls, l, h.trans List.concat_eq_append⟩

lemma split_append_text {sep : Char} {s t l f : Text} {ls fs : List Text}
    (hs : split sep s = ls ++ [l]) (ht : split sep t = f :: fs) :
    split sep (s ++ t) = ls ++ (l ++ f) :: fs := by
  have happend : s ++ t = join [sep] (ls ++ (l ++ f) :: fs) := by
    rw [join_append_join, ← hs, ← ht, join_split, join_split]
  have hls : ∀ p ∈ ls ++ [l], sep ∉ p := by
    rw [← hs]
    exact fun p hp => notMem_of_mem_split hp
  have hfs : ∀ p ∈ f :: fs, sep ∉ p := by
    rw [← ht]
    exact fun p hp => notMem_of_mem_split hp
  rw [happend]
  refine split_join (by simp) fun p hp => ?_
  rcases List.mem_append.1 hp with hp | hp
  · exact hls p (by simp [hp])
  · rcases List.mem_cons.1 hp with rfl | hp
    · rw [List.mem_append, not_or]
      exact ⟨hls l (by simp), hfs f (by simp)⟩
    · exact hfs p (by simp [hp])

variable {sep : Char} (hsep : isSpace sep = true) {t : Text}

include hsep

lemma Solid.split_head (ht : Solid t) :
    ∃ c r fs, split sep t = (c :: r) :: fs ∧ isSpace c = false := by
  obtain ⟨c, r, rfl, hc⟩ := ht.head
  have hne : c ≠ sep := by
    rintro rfl
    rw [hsep] at hc
    cases hc
  obtain ⟨f, fs, hr⟩ := exists_split_eq_cons sep r
  refine ⟨c, f, fs, ?_, hc⟩
  rw [split, if_neg hne, hr]

lemma Solid.split_last (ht : Solid t) :
    ∃ ls r c, split sep t = ls ++ [r ++ [c]] ∧ isSpace c = false := by
  obtain ⟨r, c, rfl, hc⟩ := ht.last
  have hne : sep ∉ [c] := by
    rw [List.mem_singleton]
    rintro rfl
    rw [hsep] at hc
    cases hc
  obtain ⟨ls, l, hr⟩ := exists_split_eq_concat sep r
  exact ⟨ls, l, c, split_append_text hr (split_of_notMem hne), hc⟩

lemma Solid.pieces_head (ht : Solid t) :
    ∃ c r fs, pieces sep t = (c :: r) :: fs ∧ isSpace c = false := by
  obtain ⟨c, r, fs, hsplit, hc⟩ := ht.split_head hsep
  exact ⟨c, r, fs.filter fun l => !l.isEmpty, by simp [pieces, hsplit], hc⟩

lemma Solid.pieces_last (ht : Solid t) :
    ∃ ls r c, pieces sep t = ls ++ [r ++ [c]] ∧ isSpace c = false := by
  obtain ⟨ls, r, c, hsplit, hc⟩ := ht.split_last hsep
  exact ⟨ls.filter fun l => !l.isEmpty, r, c, by simp [pieces, hsplit], hc⟩

end WikiMarkup.Text
