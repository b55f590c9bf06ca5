import Mathlib.Data.List.DropRight
import WikiMarkup.Proofs.Text.Infix
/-!
# Line ends

Replacing the line ends of a text is taking it apart at its newlines and joining the pieces with
the replacement between them. A line end may also have a carriage return, which then stands at the
end of a piece and is dropped with the newline; the last piece is followed by no newline and keeps
it (`substituteNewlines_eq_join`).

The replacement is trimmed as part of the whole, so it may be shortened itself. What is left has no
white space at its ends, and without newlines in the replacement it is one line, on which the
operation does nothing more.
-/

namespace WikiMarkup.Text

/-- Pieces between newlines without the carriage returns that belong to the newlines: each piece but
the last one loses a carriage return at its end. -/
def withoutReturns : List Text → List Text
  | [] => []
  | [p] => [p]
  | p :: q :: ps => p.withoutFinal '\r' :: withoutReturns (q :: ps)

/-- A text with a carriage return before each newline. -/
def withReturns (t : Text) : Text := t.flatMap fun c => if c = '\n' then ['\r', '\n'] else [c]

/-! ### Pieces between line ends -/

lemma withoutReturns_ne_nil {ps : List Text} (h : ps ≠ []) : withoutReturns ps ≠ [] := by
  cases ps with
  | nil => exact absurd rfl h
  | cons p ps => cases ps <;> simp [withoutReturns]

lemma withoutFinal_cons_of_ne_nil (a c : Char) {p : Text} (h : p ≠ []) :
    withoutFinal a (c :: p) = c :: withoutFinal a p := by
  obtain ⟨d, p, rfl⟩ := List.exists_cons_of_ne_nil h
  rw [withoutFinal, withoutFinal, List.getLast?_cons_cons]
  split <;> rfl

lemma withoutFinal_singleton_of_ne {a c : Char} (h : c ≠ a) : withoutFinal a [c] = [c] := by
  simp [withoutFinal, h]

/-- Only a text that begins with a newline has an empty first piece and further ones. -/
lemma head_of_split_eq_nil_cons {sep : Char} {t q : Text} {qs : List Text}
    (h : split sep t = [] :: q :: qs) : ∃ r, t = sep :: r := by
  have ht := join_split sep t
  rw [h, join] at ht
  exact ⟨join [sep] (q :: qs), ht.symm⟩

variable (r : Text)

lemma join_withoutReturns_line_end (p t : Text) (hp : p.withoutFinal '\r' = []) :
    join r (withoutReturns (p :: split '\n' t)) = r ++ join r (withoutReturns (split '\n' t)) := by
  obtain ⟨q, qs, hq⟩ := exists_split_eq_cons '\n' t
  rw [hq, withoutReturns, hp, join_cons_of_ne_nil r [] (withoutReturns_ne_nil (by simp))]
  rfl

/-- The line ends of a text are replaced by joining its pieces with the replacement. -/
lemma substituteNewlines_eq_join (t : Text) :
    substituteNewlines r t = join r (withoutReturns (split '\n' t)) := by
  fun_induction substituteNewlines r t with
  | case1 t ih =>
    have hsplit : split '\n' ('\r' :: '\n' :: t) = ['\r'] :: split '\n' t :=
      split_append '\n' ['\r'] t
    rw [hsplit, join_withoutReturns_line_end r ['\r'] t rfl, ih]
  | case2 t ih =>
    have hsplit : split '\n' ('\n' :: t) = [] :: split '\n' t := split_append '\n' [] t
    rw [hsplit, join_withoutReturns_line_end r [] t rfl, ih]
  | case3 c t hreturn hnewline ih =>
    have hc : c ≠ '\n' := fun h => hnewline h
    obtain ⟨p, ps, hp⟩ := exists_split_eq_cons '\n' t
    have hsplit : split '\n' (c :: t) = (c :: p) :: ps := by
      rw [split, if_neg hc, hp]
    rw [ih, hp, hsplit]
    cases ps with
    | nil => rfl
    | cons q qs =>
      -- The first piece may only end in `c`, and then a newline follows it.
      have hfirst : withoutFinal '\r' (c :: p) = c :: withoutFinal '\r' p := by
        by_cases hnil : p = []
        · rw [hnil] at hp ⊢
          obtain ⟨u, rfl⟩ := head_of_split_eq_nil_cons hp
          exact withoutFinal_singleton_of_ne fun h => hreturn u h rfl
        · exact withoutFinal_cons_of_ne_nil '\r' c hnil
      rw [withoutReturns, withoutReturns, hfirst]
      exact (join_append_cons_left r [c] (withoutFinal '\r' p) _).symm
  | case4 => rfl

lemma newline_notMem_substituteNewlines {r : Text} (hr : '\n' ∉ r) (t : Text) :
    '\n' ∉ substituteNewlines r t := by
  fun_induction substituteNewlines r t with
  | case1 t ih | case2 t ih => simp [hr, ih]
  | case3 c t hreturn hnewline ih => simpa [ih] using fun h : '\n' = c => hnewline h.symm
  | case4 => simp

/-- A carriage return in front of each newline is part of the line end. -/
lemma substituteNewlines_withReturns {t : Text} (h : '\r' ∉ t) :
    substituteNewlines r t.withReturns = substituteNewlines r t := by
  induction t with
  | nil => rfl
  | cons c t ih =>
    obtain ⟨hc, ht⟩ : '\r' ≠ c ∧ '\r' ∉ t := by simpa using h
    by_cases hnewline : c = '\n'
    · rw [hnewline, substituteNewlines, ← ih ht]
      rfl
    · have hcons : withReturns (c :: t) = c :: withReturns t := by
        rw [withReturns, List.flatMap_cons, if_neg hnewline]
        rfl
      have hkept : ∀ u, substituteNewlines r (c :: u) = c :: substituteNewlines r u := fun u =>
        substituteNewlines.eq_3 r c u (fun _ hreturn _ => hc hreturn.symm) hnewline
      rw [hcons, hkept, hkept, ih ht]

/-! ### Trimmed texts -/

lemma trim_sublist (t : Text) : (trim t).Sublist t :=
  (List.rdropWhile_prefix isSpace (trimStart t)).sublist.trans
    (List.dropWhile_suffix isSpace).sublist

lemma trimStart_trimEnd {t : Text} (h : trimStart t = t) : trimStart (trimEnd t) = trimEnd t := by
  cases t with
  | nil => rfl
  | cons c t =>
    have hc := isSpace_eq_false_of_trimStart h
    obtain ⟨u, hu⟩ : ∃ u, trimEnd (c :: t) = c :: u := exists_trimEnd_append ⟨[], c, rfl, hc⟩ t
    rw [hu]
    exact trimStart_cons_of_not_isSpace hc u

lemma trim_trim (t : Text) : trim (trim t) = trim t := by
  have hstart : trimStart (trimStart t) = trimStart t := List.dropWhile_idempotent isSpace t
  have hend : trimEnd (trim t) = trim t := List.rdropWhile_idempotent isSpace (trimStart t)
  exact (trim_eq_iff _).2 ⟨trimStart_trimEnd hstart, hend⟩

/-- No white space stands at the ends of a trimmed text. -/
lemma isSpace_ends_of_trim_eq {t : Text} (h : trim t = t) :
    (∀ c ∈ t.head?, isSpace c = false) ∧ ∀ c ∈ t.getLast?, isSpace c = false := by
  by_cases hnil : t = []
  · simp [hnil]
  · have hsolid := solid_of_trim_eq hnil h
    obtain ⟨c, u, hhead, hc⟩ := hsolid.head
    obtain ⟨v, d, hlast, hd⟩ := hsolid.last
    refine ⟨fun e he => ?_, fun e he => ?_⟩
    · rw [hhead] at he
      rwa [← Option.some.inj he]
    · rw [hlast, List.getLast?_concat] at he
      rwa [← Option.some.inj he]

/-! ### Replaced line ends -/

lemma replaceNewlines_eq_join (t : Text) :
    t.replaceNewlines r = trim (join r (withoutReturns (t.split '\n'))) := by
  rw [replaceNewlines, substituteNewlines_eq_join]

lemma newline_notMem_replaceNewlines {r : Text} (hr : '\n' ∉ r) (t : Text) :
    '\n' ∉ t.replaceNewlines r := by
  intro hmem
  have hsublist : (t.replaceNewlines r).Sublist (substituteNewlines r t) := trim_sublist _
  exact newline_notMem_substituteNewlines hr t (hsublist.mem hmem)

lemma trim_replaceNewlines (t : Text) : trim (t.replaceNewlines r) = t.replaceNewlines r :=
  trim_trim _

end WikiMarkup.Text
