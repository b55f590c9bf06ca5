import Mathlib.Data.List.TakeWhile
import Mathlib.Tactic.Common
import WikiMarkup.Wiki.Row
/-!
# The kind of a row

The kind of a row is read off its text, by two searches for the last pipes. What they find is
settled by the last run of pipes: the row is closed as a header row if and only if this run has
length two (`closingDelimiter?_of_run`). A longer run does not count as two, since of several
double pipes in it the search means one that ends before the last pipe.
-/

namespace WikiMarkup.Wiki

lemma contains_iff (t piece : Text) : t.contains piece = true ↔ piece <:+: t := by
  induction t with
  | nil => simp [Text.contains]
  | cons c t ih =>
    rw [Text.contains, Bool.or_eq_true, ih, List.isPrefixOf_iff_prefix, List.infix_cons_iff]

lemma contains_doublePipe (p u : Text) : Text.contains (p ++ '|' :: '|' :: u) "||".toList = true :=
  (contains_iff _ _).2 ⟨p, u, by simp⟩

lemma contains_doublePipe_of_notMem {s : Text} (hs : '|' ∉ s) :
    Text.contains ('|' :: s) "||".toList = false := by
  rw [Bool.eq_false_iff, ne_eq, contains_iff, List.infix_cons_iff]
  rintro (⟨u, hu⟩ | hwithin)
  · obtain rfl : '|' :: u = s := List.tail_eq_of_cons_eq hu
    simp at hs
  · exact hs (hwithin.subset (by simp))

/-! ### The two searches -/

lemma lastPipe?_of_notMem {s : Text} (hs : '|' ∉ s) : lastPipe? s = none := by
  induction s with
  | nil => rfl
  | cons c s ih =>
    rw [List.mem_cons, not_or] at hs
    obtain ⟨hc, hs⟩ := hs
    rw [lastPipe?, ih hs]
    exact if_neg (Ne.symm hc)

lemma lastPipe?_append (p : Text) {s : Text} (hs : '|' ∉ s) :
    lastPipe? (p ++ '|' :: s) = some p.length := by
  induction p with
  | nil =>
    rw [List.nil_append, lastPipe?, lastPipe?_of_notMem hs]
    exact if_pos rfl
  | cons c p ih => rw [List.cons_append, lastPipe?, ih, List.length_cons]

/-- A double pipe is found if no other one follows it and if none begins one place before it, unless
that one is itself followed by another. -/
lemma lastDoublePipe?_append {p u : Text} (hu : Text.contains u "||".toList = false)
    (hp : p.getLast? ≠ some '|' ∨ Text.contains ('|' :: u) "||".toList = true) :
    lastDoublePipe? (p ++ '|' :: '|' :: u) = some p.length := by
  induction p with
  | nil =>
    rw [List.nil_append, lastDoublePipe?]
    exact if_pos ⟨rfl, rfl, hu⟩
  | cons c p ih =>
    have hskip : ¬(c = '|' ∧ (p ++ '|' :: '|' :: u).head? = some '|' ∧
        Text.contains (p ++ '|' :: '|' :: u).tail "||".toList = false) := by
      rintro ⟨hc, -, hno⟩
      cases p with
      | nil =>
        -- The pair would be `c` and the first pipe, with the second pipe behind it.
        rcases hp with hlast | hnext
        · exact hlast (by rw [hc]; rfl)
        · rw [List.nil_append, List.tail_cons, hnext] at hno
          cases hno
      | cons d p =>
        rw [List.cons_append, List.tail_cons, contains_doublePipe] at hno
        cases hno
    have hrest : p.getLast? ≠ some '|' ∨ Text.contains ('|' :: u) "||".toList = true := by
      cases p with
      | nil => exact .inl (by simp)
      | cons d p => rwa [List.getLast?_cons_cons] at hp
    rw [List.cons_append, lastDoublePipe?, if_neg hskip, ih hrest, Option.map_some,
      List.length_cons]

lemma eq_append_of_lastDoublePipe? {t : Text} {i : Nat} (h : lastDoublePipe? t = some i) :
    ∃ p u, t = p ++ '|' :: '|' :: u ∧ p.length = i := by
  induction t generalizing i with
  | nil => cases h
  | cons c t ih =>
    rw [lastDoublePipe?] at h
    split at h
    · rename_i hfound
      obtain ⟨rfl, hhead, -⟩ := hfound
      cases h
      cases t with
      | nil => cases hhead
      | cons d u =>
        cases hhead
        exact ⟨[], u, rfl, rfl⟩
    · obtain ⟨j, hj, rfl⟩ := Option.map_eq_some_iff.1 h
      obtain ⟨p, u, rfl, rfl⟩ := ih hj
      exact ⟨c :: p, u, rfl, rfl⟩

/-! ### The last run of pipes -/

/-- A row whose last run of pipes, once an escaped pipe is dropped, has `k + 1` pipes is closed as a
header row if and only if `k + 1` is two. -/
lemma closingDelimiter?_of_run {cells p s : Text} {k : Nat}
    (h : dropEscapedPipe cells = p ++ List.replicate (k + 1) '|' ++ s)
    (hp : p.getLast? ≠ some '|') (hs : '|' ∉ s) :
    closingDelimiter? cells = some (delimiter (k = 1)) := by
  have hlast : lastPipe? (dropEscapedPipe cells) = some (p.length + k) := by
    have hsplit : p ++ List.replicate (k + 1) '|' ++ s =
        (p ++ List.replicate k '|') ++ '|' :: s := by
      simp [List.replicate_succ']
    rw [h, hsplit, lastPipe?_append _ hs, List.length_append, List.length_replicate]
  rw [closingDelimiter?, hlast]
  match k with
  | 0 =>
    -- Any double pipe lies in `p`, which does not end in a pipe, so it ends before the last one.
    cases hdouble : lastDoublePipe? (dropEscapedPipe cells) with
    | none => rfl
    | some i =>
      obtain ⟨q, u, hq, rfl⟩ := eq_append_of_lastDoublePipe? hdouble
      have hne : p.length ≠ q.length + 1 := by
        intro hlength
        rw [h] at hq
        have heq : p ++ '|' :: s = (q ++ ['|']) ++ '|' :: u := by simpa using hq
        obtain ⟨rfl, -⟩ := List.append_inj heq (by simpa using hlength)
        exact hp (by simp)
      have hdiff : decide (p.length + 0 - q.length = 1) = decide (0 = 1) :=
        decide_eq_decide.2 (by omega)
      exact congrArg (fun header => some (delimiter header)) hdiff
  | 1 =>
    -- The run itself is found.
    have hrun : dropEscapedPipe cells = p ++ '|' :: '|' :: s := by simpa using h
    have hno : Text.contains s "||".toList = false := by
      rw [Bool.eq_false_iff, ne_eq, contains_iff]
      exact fun hwithin => hs (hwithin.subset (by simp))
    have hdiff : decide (p.length + 1 - p.length = 1) = decide (1 = 1) :=
      decide_eq_decide.2 (by omega)
    rw [hrun, lastDoublePipe?_append hno (.inl hp)]
    exact congrArg (fun header => some (delimiter header)) hdiff
  | k + 2 =>
    -- The last three pipes hold two pairs, and the first of them is found.
    have hrun : dropEscapedPipe cells =
        (p ++ List.replicate k '|') ++ '|' :: '|' :: '|' :: s := by
      rw [h]
      simp [List.replicate_succ']
    have hdouble : lastDoublePipe? (dropEscapedPipe cells) = some (p.length + k) := by
      rw [hrun, lastDoublePipe?_append (contains_doublePipe_of_notMem hs)
        (.inr (contains_doublePipe [] s)), List.length_append, List.length_replicate]
    have hdiff : decide (p.length + (k + 2) - (p.length + k) = 1) = decide (k + 2 = 1) :=
      decide_eq_decide.2 (by omega)
    rw [hdouble]
    exact congrArg (fun header => some (delimiter header)) hdiff

lemma tableRow_of_run {cells p s : Text} {k : Nat}
    (h : dropEscapedPipe cells = p ++ List.replicate (k + 1) '|' ++ s)
    (hp : p.getLast? ≠ some '|') (hs : '|' ∉ s) :
    tableRow cells = .ok (cells ++ delimiter (k = 1) ++ ['\n']) := by
  rw [tableRow, closingDelimiter?_of_run h hp hs]

/-- The number of pipes in the last run of pipes of a text. -/
def lastRun (t : Text) : Nat :=
  ((t.reverse.dropWhile fun c => c ≠ '|').takeWhile fun c => c = '|').length

/-- A text with a pipe has a first run of them. -/
lemma exists_firstRun {t : Text} (h : '|' ∈ t) :
    ∃ s k p, t = s ++ List.replicate (k + 1) '|' ++ p ∧ '|' ∉ s ∧ p.head? ≠ some '|' ∧
      ((t.dropWhile fun c => c ≠ '|').takeWhile fun c => c = '|').length = k + 1 := by
  obtain ⟨s, r, rfl, hs⟩ := List.eq_append_cons_of_mem h
  set run := r.takeWhile fun c => c = '|' with hrun
  set rest := r.dropWhile fun c => c = '|' with hrest
  have hr : r = List.replicate run.length '|' ++ rest := by
    have hpipes : run = List.replicate run.length '|' :=
      List.eq_replicate_of_mem fun c hc => by simpa using List.mem_takeWhile_imp hc
    rw [← hpipes, hrun, hrest, List.takeWhile_append_dropWhile]
  have hskip : (s ++ '|' :: r).dropWhile (fun c => c ≠ '|') = '|' :: r := by
    have hnone : ∀ c ∈ s, decide (c ≠ '|') = true := by
      intro c hc
      rw [decide_eq_true_iff]
      rintro rfl
      exact hs hc
    rw [List.dropWhile_append_of_pos hnone, List.dropWhile_cons_of_neg (by simp)]
  refine ⟨s, run.length, rest, ?_, hs, ?_, ?_⟩
  · rw [List.replicate_succ, List.append_assoc, List.cons_append, ← hr]
  · intro hhead
    have hstop := List.head?_dropWhile_not (fun c => decide (c = '|')) r
    rw [← hrest, hhead] at hstop
    simp at hstop
  · rw [hskip, List.takeWhile_cons_of_pos (by simp), List.length_cons]

/-- A text with a pipe has a last run of them. -/
lemma exists_lastRun {t : Text} (h : '|' ∈ t) :
    ∃ p s k, t = p ++ List.replicate (k + 1) '|' ++ s ∧ p.getLast? ≠ some '|' ∧ '|' ∉ s ∧
      lastRun t = k + 1 := by
  obtain ⟨s, k, p, hreverse, hs, hp, hrun⟩ := exists_firstRun (List.mem_reverse.2 h)
  refine ⟨p.reverse, s.reverse, k, ?_, ?_, by simpa using hs, hrun⟩
  · rw [← List.reverse_reverse t, hreverse]
    simp
  · rwa [List.getLast?_reverse]

/-- A row with a pipe is closed by its last run of pipes. -/
lemma tableRow_of_mem {cells : Text} (h : '|' ∈ dropEscapedPipe cells) :
    tableRow cells =
      .ok (cells ++ delimiter (lastRun (dropEscapedPipe cells) = 2) ++ ['\n']) := by
  obtain ⟨p, s, k, hcells, hp, hs, hrun⟩ := exists_lastRun h
  have htwo : decide (lastRun (dropEscapedPipe cells) = 2) = decide (k = 1) :=
    decide_eq_decide.2 (by omega)
  rw [tableRow_of_run hcells hp hs, htwo]

/-! ### Escaped pipes -/

lemma dropEscapedPipe_cons {c : Char} {t : Text} (h : c = '\\' → t.head? ≠ some '|') :
    dropEscapedPipe (c :: t) = c :: dropEscapedPipe t := by
  rw [dropEscapedPipe]
  rintro r hc rfl
  exact h hc rfl

lemma dropEscapedPipe_pipe (t : Text) : dropEscapedPipe ('|' :: t) = '|' :: dropEscapedPipe t :=
  dropEscapedPipe_cons (by simp)

/-- A text without pipes that does not end in a backslash is left alone, whatever follows it. -/
lemma dropEscapedPipe_append {s : Text} (hs : '|' ∉ s) (hlast : s.getLast? ≠ some '\\') (t : Text) :
    dropEscapedPipe (s ++ t) = s ++ dropEscapedPipe t := by
  induction s with
  | nil => rfl
  | cons c s ih =>
    rw [List.mem_cons, not_or] at hs
    cases s with
    | nil =>
      refine dropEscapedPipe_cons fun hc => ?_
      exact absurd (by rw [hc]; rfl) hlast
    | cons d s =>
      rw [List.getLast?_cons_cons] at hlast
      have hnext : (d :: s ++ t).head? ≠ some '|' := by
        intro hd
        cases hd
        exact hs.2 List.mem_cons_self
      rw [List.cons_append, dropEscapedPipe_cons fun _ => hnext, ih hs.2 hlast]
      rfl

lemma dropEscapedPipe_of_notMem {s : Text} (hs : '|' ∉ s) : dropEscapedPipe s = s := by
  induction s with
  | nil => rfl
  | cons c s ih =>
    rw [List.mem_cons, not_or] at hs
    rw [dropEscapedPipe_cons fun _ hd => hs.2 (List.mem_of_mem_head? hd), ih hs.2]

/-- The one escaped pipe that is dropped stands in the first of two texts, or that text stays as it
is, unless the first text ends in a backslash. -/
lemma dropEscapedPipe_append_cases {s : Text} (hlast : s.getLast? ≠ some '\\') (t : Text) :
    dropEscapedPipe (s ++ t) = dropEscapedPipe s ++ t ∨
      dropEscapedPipe s = s ∧ dropEscapedPipe (s ++ t) = s ++ dropEscapedPipe t := by
  induction s using dropEscapedPipe.induct with
  | case1 r => exact .inl rfl
  | case2 c r hne ih =>
    cases r with
    | nil =>
      have hc : c ≠ '\\' := fun hc => hlast (by rw [hc]; rfl)
      exact .inr ⟨dropEscapedPipe_cons fun h => absurd h hc,
        dropEscapedPipe_cons fun h => absurd h hc⟩
    | cons d r =>
      rw [List.getLast?_cons_cons] at hlast
      have hd : c = '\\' → (d :: r).head? ≠ some '|' := by
        rintro hc hhead
        obtain rfl := Option.some.inj hhead
        exact hne r hc rfl
      have hskip : dropEscapedPipe (c :: (d :: r ++ t)) = c :: dropEscapedPipe (d :: r ++ t) :=
        dropEscapedPipe_cons hd
      rw [List.cons_append, hskip, dropEscapedPipe_cons hd]
      rcases ih hlast with h | ⟨hsame, h⟩
      · exact .inl (congrArg _ h)
      · exact .inr ⟨congrArg _ hsame, congrArg _ h⟩
  | case3 => exact .inr ⟨rfl, rfl⟩

/-- A text that does not end in a pipe ends as before when an escaped pipe is dropped. -/
lemma getLast?_dropEscapedPipe {s : Text} (h : s.getLast? ≠ some '|') :
    (dropEscapedPipe s).getLast? = s.getLast? := by
  induction s using dropEscapedPipe.induct with
  | case1 r =>
    cases r with
    | nil => exact absurd rfl h
    | cons c r => rw [dropEscapedPipe, List.getLast?_cons_cons, List.getLast?_cons_cons]
  | case2 c r hne ih =>
    have hskip : dropEscapedPipe (c :: r) = c :: dropEscapedPipe r := by
      rw [dropEscapedPipe]
      exact hne
    rw [hskip]
    cases r with
    | nil => rfl
    | cons d r =>
      rw [List.getLast?_cons_cons] at h
      rw [List.getLast?_cons, List.getLast?_cons, ih h]
  | case3 => rfl

end WikiMarkup.Wiki
