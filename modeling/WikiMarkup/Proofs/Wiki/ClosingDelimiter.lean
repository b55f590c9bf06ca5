import Mathlib.Data.List.Infix
import WikiMarkup.Proofs.Text.Bytes
import WikiMarkup.Proofs.Wiki.Row
/-!
# The delimiter that closes a row

Which delimiter closes a row is read off its last run of pipes, once the first escaped pipe has been
dropped, and a row is refused only if no pipe is left then (`tableRow_closed_by_lastRun`).

The two searches behind this can as well be done by positions in bytes. `closingDelimiterByBytes`
goes through the bytes of a row, takes the rest of the row behind each double pipe, and subtracts
the position of the last double pipe from that of the last pipe. Each of these steps could fail,
since not every number is a position between two characters, but none does, and the result is the
same (`closingDelimiterByBytes_eq`). The reason is that the byte of a pipe is part of no other
character.
-/

namespace WikiMarkup.Wiki

/-! ### The escaped pipe that is dropped -/

/-- A text without the first occurrence of a piece of text, or as it is if the piece does not occur.
An occurrence is the first one if no other one begins before it. -/
inductive FirstRemoved (piece : Text) : Text → Text → Prop where
  | absent {t : Text} (h : ¬piece <:+: t) : FirstRemoved piece t t
  | removed {s t : Text} (h : ¬piece <:+: s ++ piece.dropLast) :
    FirstRemoved piece (s ++ piece ++ t) (s ++ t)

/-- A character in front of a text makes an escaped pipe only if it is a backslash before a pipe. -/
lemma not_escapedPipe_infix_cons {c : Char} {t : Text} (hc : c = '\\' → t.head? ≠ some '|')
    (ht : ¬"\\|".toList <:+: t) : ¬"\\|".toList <:+: c :: t := by
  rw [List.infix_cons_iff]
  rintro (⟨u, hu⟩ | hwithin)
  · obtain ⟨rfl, rfl⟩ := List.cons.inj hu
    exact hc rfl rfl
  · exact ht hwithin

lemma firstRemoved_dropEscapedPipe (cells : Text) :
    FirstRemoved "\\|".toList cells (dropEscapedPipe cells) := by
  induction cells using dropEscapedPipe.induct with
  | case1 r => exact .removed (s := []) (t := r) (by decide)
  | case2 c r hne ih =>
    have hc : c = '\\' → r.head? ≠ some '|' := by
      intro hc hhead
      obtain ⟨rest, rfl⟩ := List.head?_eq_some_iff.1 hhead
      exact hne rest hc rfl
    rw [dropEscapedPipe_cons hc]
    generalize dropEscapedPipe r = dropped at ih
    cases ih with
    | absent h => exact .absent (not_escapedPipe_infix_cons hc h)
    | @removed s t h =>
      refine .removed (s := c :: s) (t := t) (not_escapedPipe_infix_cons ?_ h)
      intro hslash hhead
      cases s with
      | nil => cases hhead
      | cons d s => exact hc hslash hhead
  | case3 => exact .absent (by decide)

/-- No pipe is left if there was none or if the only one was escaped. -/
lemma pipe_notMem_dropEscapedPipe_iff (cells : Text) :
    '|' ∉ dropEscapedPipe cells ↔
      '|' ∉ cells ∨ cells.count '|' = 1 ∧ "\\|".toList <:+: cells := by
  have hremoved := firstRemoved_dropEscapedPipe cells
  generalize dropEscapedPipe cells = r at hremoved
  cases hremoved with
  | absent h =>
    constructor
    · exact .inl
    · rintro (hno | ⟨-, hinfix⟩)
      · exact hno
      · exact absurd hinfix h
  | @removed s t _ =>
    have hinfix : "\\|".toList <:+: s ++ "\\|".toList ++ t := ⟨s, t, rfl⟩
    have hcount : (s ++ "\\|".toList ++ t).count '|' = (s ++ t).count '|' + 1 := by
      simp only [List.count_append]
      have hpipe : "\\|".toList.count '|' = 1 := by decide
      omega
    have hmem : '|' ∈ s ++ "\\|".toList ++ t := hinfix.subset (by decide)
    rw [← List.count_eq_zero, hcount]
    constructor
    · intro hzero
      exact .inr ⟨by omega, hinfix⟩
    · rintro (hno | ⟨hone, -⟩)
      · exact absurd hmem hno
      · omega

/-! ### The searches by bytes -/

/-- The byte of a pipe. -/
def pipeByte : UInt8 := 0x7C

/-- The position of the last pipe. -/
def lastPipeByte? (t : Text) : Option Nat :=
  (t.bytes.reverse.idxOf? pipeByte).map fun i => t.bytes.length - 1 - i

/-- A double pipe begins at a byte and no other double pipe stands behind it. -/
def isLastDoublePipe (t : Text) (i : Nat) : Except PositionError Bool := do
  let first ← t.byteAt i
  if first = pipeByte then
    let second ← t.byteAt (i + 1)
    if second = pipeByte then
      let rest ← t.fromByte (i + 2)
      return !Text.contains rest "||".toList
    else return false
  else return false

/-- The position of the first double pipe behind which no other one stands. -/
def lastDoublePipeByte (t : Text) : Except PositionError (Option Nat) :=
  (List.range (t.bytes.length - 1)).findM? (isLastDoublePipe t)

/-- The delimiter that closes a row, found by positions in bytes. -/
def closingDelimiterByBytes (cells : Text) : Except PositionError (Option Text) := do
  let row := dropEscapedPipe cells
  match lastPipeByte? row with
  | none => return none
  | some last =>
    match ← lastDoublePipeByte row with
    | none => return some (delimiter false)
    | some i =>
      let n ← Text.distance i last
      return some (delimiter (n = 1))

lemma pipeByte_mem_bytes {t : Text} : pipeByte ∈ t.bytes ↔ '|' ∈ t :=
  Text.asciiByte_mem_bytes (a := '|') (by decide)

lemma eq_pipe_of_pipeByte_mem {c : Char} (h : pipeByte ∈ String.utf8EncodeChar c) : c = '|' :=
  Text.eq_of_asciiByte_mem (a := '|') (by decide) h

lemma idxOf?_append_cons {b : UInt8} {l : List UInt8} (hl : b ∉ l) (r : List UInt8) :
    (l ++ b :: r).idxOf? b = some l.length := by
  rw [List.idxOf?, List.findIdx?_append, List.findIdx?_eq_none_iff.2, List.findIdx?_cons]
  · simp
  · intro x hx
    rw [beq_eq_false_iff_ne]
    rintro rfl
    exact hl hx

/-- The last pipe is found behind the bytes of what stands before it. -/
lemma lastPipeByte?_append (p : Text) {s : Text} (hs : '|' ∉ s) :
    lastPipeByte? (p ++ '|' :: s) = some p.bytes.length := by
  have hbytes : (Text.bytes (p ++ '|' :: s)).reverse =
      s.bytes.reverse ++ pipeByte :: p.bytes.reverse := by
    simp only [Text.bytes_append, Text.bytes_cons, List.reverse_append, List.append_assoc]
    rfl
  have hnone : pipeByte ∉ s.bytes.reverse := by rwa [List.mem_reverse, pipeByte_mem_bytes]
  have hlength : (Text.bytes (p ++ '|' :: s)).length = p.bytes.length + (1 + s.bytes.length) := by
    simp only [Text.bytes_append, Text.bytes_cons, List.length_append]
    rfl
  rw [lastPipeByte?, hbytes, idxOf?_append_cons hnone, hlength, Option.map_some,
    List.length_reverse]
  congr 1
  omega

lemma lastPipeByte?_of_notMem {t : Text} (ht : '|' ∉ t) : lastPipeByte? t = none := by
  rw [lastPipeByte?, List.idxOf?_eq_none_iff.2, Option.map_none]
  rwa [List.mem_reverse, pipeByte_mem_bytes]

/-- No double pipe begins inside a character other than a pipe. -/
lemma isLastDoublePipe_of_ne (p u : Text) {c : Char} (hc : c ≠ '|') {j : Nat}
    (hj : j < c.utf8Size) :
    isLastDoublePipe (p ++ c :: u) (p.bytes.length + j) = .ok false := by
  have hlength : j < (String.utf8EncodeChar c).length := by rwa [String.length_utf8EncodeChar]
  have hbyte : (p ++ c :: u).byteAt (p.bytes.length + j) = .ok (String.utf8EncodeChar c)[j] := by
    rw [Text.byteAt_append, Text.bytes_cons, List.getElem?_append_left hlength,
      List.getElem?_eq_getElem hlength]
  have hne : (String.utf8EncodeChar c)[j] ≠ pipeByte := by
    intro hpipe
    exact hc (eq_pipe_of_pipeByte_mem (hpipe ▸ List.getElem_mem hlength))
  rw [isLastDoublePipe, hbyte]
  exact if_neg hne

lemma byteAt_pipe (p t : Text) : (p ++ '|' :: t).byteAt p.bytes.length = .ok pipeByte :=
  Text.byteAt_append p _ 0

/-- No double pipe begins at a pipe with another character behind it. -/
lemma isLastDoublePipe_single (p u : Text) {d : Char} (hd : d ≠ '|') :
    isLastDoublePipe (p ++ '|' :: d :: u) p.bytes.length = .ok false := by
  obtain ⟨b, bs, hbytes⟩ := List.exists_cons_of_ne_nil (String.utf8EncodeChar_ne_nil (c := d))
  have hsecond : (p ++ '|' :: d :: u).byteAt (p.bytes.length + 1) = .ok b := by
    rw [Text.byteAt_append, Text.bytes_cons, Text.bytes_cons, hbytes]
    rfl
  have hb : b ≠ pipeByte := by
    rintro rfl
    exact hd (eq_pipe_of_pipeByte_mem (by rw [hbytes]; exact List.mem_cons_self))
  rw [isLastDoublePipe, byteAt_pipe, hsecond]
  exact if_neg hb

/-- At a double pipe the search takes what stands behind it. -/
lemma isLastDoublePipe_double (p u : Text) :
    isLastDoublePipe (p ++ '|' :: '|' :: u) p.bytes.length =
      .ok (!Text.contains u "||".toList) := by
  have hsecond : (p ++ '|' :: '|' :: u).byteAt (p.bytes.length + 1) = .ok pipeByte :=
    Text.byteAt_append p _ 1
  have hrest : (p ++ '|' :: '|' :: u).fromByte (p.bytes.length + 2) = .ok u := by
    have hsplit := Text.fromByte_append (p ++ "||".toList) u
    rwa [Text.bytes_append, List.length_append, List.append_assoc] at hsplit
  rw [isLastDoublePipe, byteAt_pipe, hsecond, hrest]
  rfl

/-- Where the search by characters goes on, the search by bytes finds nothing in the character. -/
lemma isLastDoublePipe_of_move (p : Text) {c : Char} {u : Text} (hu : u ≠ [])
    (hmove : ¬(c = '|' ∧ u.head? = some '|' ∧ Text.contains u.tail "||".toList = false)) {j : Nat}
    (hj : j < c.utf8Size) :
    isLastDoublePipe (p ++ c :: u) (p.bytes.length + j) = .ok false := by
  by_cases hc : c = '|'
  · subst hc
    obtain rfl : j = 0 := Nat.lt_one_iff.1 hj
    obtain ⟨d, u, rfl⟩ := List.exists_cons_of_ne_nil hu
    by_cases hd : d = '|'
    · subst hd
      have hbehind : Text.contains u "||".toList = true := by
        rw [← Bool.not_eq_false]
        exact fun hno => hmove ⟨rfl, rfl, hno⟩
      exact (isLastDoublePipe_double p u).trans (by rw [hbehind]; rfl)
    · exact isLastDoublePipe_single p u hd
  · exact isLastDoublePipe_of_ne p u hc hj

/-- A search over positions goes on behind those that do not answer. -/
lemma findM?_range'_of_false {f : Nat → Except PositionError Bool} {start m : Nat}
    (h : ∀ j < m, f (start + j) = .ok false) (n : Nat) :
    (List.range' start (m + n)).findM? f = (List.range' (start + m) n).findM? f := by
  induction m generalizing start with
  | zero => rw [Nat.zero_add, Nat.add_zero]
  | succ m ih =>
    have hfirst : f start = .ok false := h 0 (Nat.succ_pos m)
    have hrest : ∀ j < m, f (start + 1 + j) = .ok false := by
      intro j hj
      rw [Nat.add_assoc, Nat.add_comm 1 j]
      exact h (j + 1) (by omega)
    have hstart : start + (m + 1) = start + 1 + m := by omega
    rw [Nat.succ_add_eq_add_succ, Nat.add_succ, List.range'_succ, List.findM?, hfirst, hstart]
    exact ih hrest

/-- The search goes from character to character: the bytes behind `p` are searched as the characters
behind `p` are. -/
lemma findM?_isLastDoublePipe (p u : Text) :
    (List.range' p.bytes.length (u.bytes.length - 1)).findM? (isLastDoublePipe (p ++ u)) =
      .ok ((lastDoublePipe? u).map fun i => (Text.bytes (p ++ u.take i)).length) := by
  induction u generalizing p with
  | nil => rfl
  | cons c u ih =>
    have hlength : (Text.bytes (c :: u)).length = c.utf8Size + (Text.bytes u).length := by
      rw [Text.bytes_cons, List.length_append, String.length_utf8EncodeChar]
    rw [hlength, lastDoublePipe?]
    split
    · -- The double pipe that is meant begins at `c`.
      rename_i hfound
      obtain ⟨rfl, hhead, hbehind⟩ := hfound
      obtain ⟨u, rfl⟩ := List.head?_eq_some_iff.1 hhead
      rw [List.tail_cons] at hbehind
      have hfirst : isLastDoublePipe (p ++ '|' :: '|' :: u) p.bytes.length = .ok true := by
        rw [isLastDoublePipe_double, hbehind]
        rfl
      have hpositions : '|'.utf8Size + (Text.bytes ('|' :: u)).length - 1 =
          (Text.bytes u).length + 1 := by
        rw [Text.bytes_cons, List.length_append, String.length_utf8EncodeChar]
        have hpipe : '|'.utf8Size = 1 := rfl
        omega
      rw [hpositions, List.range'_succ, List.findM?, hfirst, Option.map_some, List.take_zero,
        List.append_nil]
      rfl
    · rename_i hmove
      rcases eq_or_ne u [] with rfl | hu
      · -- The last byte is no place for a double pipe, and a pipe has no other byte.
        have hno : ∀ j < c.utf8Size - 1,
            isLastDoublePipe (p ++ [c]) (p.bytes.length + j) = .ok false := by
          intro j hj
          refine isLastDoublePipe_of_ne p [] ?_ (by omega)
          rintro rfl
          exact absurd hj (Nat.not_lt_zero j)
        exact findM?_range'_of_false hno 0
      · have hafter := ih (p ++ [c])
        have hstart : (Text.bytes (p ++ [c])).length = (Text.bytes p).length + c.utf8Size := by
          simp
        rw [hstart, List.append_assoc] at hafter
        rw [Nat.add_sub_assoc (Text.length_bytes_pos hu),
          findM?_range'_of_false fun j hj => isLastDoublePipe_of_move p hu hmove hj]
        refine hafter.trans ?_
        simp [Function.comp_def]

lemma lastDoublePipeByte_eq (t : Text) :
    lastDoublePipeByte t =
      .ok ((lastDoublePipe? t).map fun i => (Text.bytes (t.take i)).length) := by
  rw [lastDoublePipeByte, List.range_eq_range']
  exact findM?_isLastDoublePipe [] t

/-- A text with a pipe has a last one. -/
lemma exists_eq_append_pipe {t : Text} (h : '|' ∈ t) : ∃ p s, t = p ++ '|' :: s ∧ '|' ∉ s := by
  obtain ⟨s, p, hreverse, hs⟩ := List.eq_append_cons_of_mem (List.mem_reverse.2 h)
  refine ⟨p.reverse, s.reverse, ?_, by rwa [List.mem_reverse]⟩
  rw [← List.reverse_reverse t, hreverse]
  simp

/-- The searches by bytes lead to the same delimiter, and each number they use is a position. -/
lemma closingDelimiterByBytes_eq (cells : Text) :
    closingDelimiterByBytes cells = .ok (closingDelimiter? cells) := by
  simp only [closingDelimiterByBytes, closingDelimiter?]
  generalize dropEscapedPipe cells = row
  rw [lastDoublePipeByte_eq]
  cases hdouble : lastDoublePipe? row with
  | none =>
    by_cases hmem : '|' ∈ row
    · obtain ⟨p, s, rfl, hs⟩ := exists_eq_append_pipe hmem
      rw [lastPipeByte?_append p hs, lastPipe?_append p hs]
      rfl
    · rw [lastPipeByte?_of_notMem hmem, lastPipe?_of_notMem hmem]
      rfl
  | some i =>
    -- The last pipe of the row is the last one behind the first pipe of the double pipe.
    obtain ⟨p, u, rfl, rfl⟩ := eq_append_of_lastDoublePipe? hdouble
    obtain ⟨m, s, hbehind, hs⟩ := exists_eq_append_pipe (List.mem_cons_self (a := '|') (l := u))
    have hrow : p ++ '|' :: '|' :: u = p ++ '|' :: m ++ '|' :: s := by
      rw [hbehind]
      simp
    have hbytes : (Text.bytes (p ++ '|' :: m)).length = p.bytes.length + (1 + m.bytes.length) := by
      simp only [Text.bytes_append, Text.bytes_cons, List.length_append]
      rfl
    have hdistance : Text.distance p.bytes.length (p.bytes.length + (1 + m.bytes.length)) =
        .ok (1 + m.bytes.length) := by
      rw [Text.distance, if_pos (Nat.le_add_right _ _), Nat.add_sub_cancel_left]
    have hone : decide (1 + m.bytes.length = 1) =
        decide ((p ++ '|' :: m).length - p.length = 1) := by
      rw [decide_eq_decide, List.length_append, List.length_cons, Nat.add_sub_cancel_left]
      have hempty := Text.length_bytes_eq_zero (t := m)
      rw [← List.length_eq_zero_iff] at hempty
      omega
    rw [hrow, lastPipeByte?_append _ hs, lastPipe?_append _ hs, hbytes]
    simp only [Option.map_some, List.append_assoc, List.take_left]
    rw [← hone]
    exact congrArg (· >>= fun n => .ok (some (delimiter (n = 1)))) hdistance

/-- A row without a pipe, once an escaped one has been dropped, is refused as it is. -/
lemma tableRow_of_notMem {cells : Text} (h : '|' ∉ dropEscapedPipe cells) :
    tableRow cells = .error (.malformedTableRow cells) := by
  rw [tableRow, closingDelimiter?, lastPipe?_of_notMem h]

/-- **The delimiter that closes a row.** A row is refused, and named as it is, if it has no pipe or
none but one that is escaped. Otherwise it is kept as it is and closed by `||` if its last run of
pipes has length two once the first escaped pipe is dropped, and by `|` if that run has any other
length. Positions in bytes lead to the same delimiter, and each of them lies between characters. -/
theorem tableRow_closed_by_lastRun (cells : Text) :
    FirstRemoved "\\|".toList cells (dropEscapedPipe cells) ∧
      tableRow cells =
        (if '|' ∉ cells ∨ cells.count '|' = 1 ∧ "\\|".toList <:+: cells then
          .error (.malformedTableRow cells)
        else
          .ok (cells ++
            (if lastRun (dropEscapedPipe cells) = 2 then "||".toList else "|".toList) ++
            ['\n'])) ∧
      closingDelimiterByBytes cells = .ok (closingDelimiter? cells) := by
  refine ⟨firstRemoved_dropEscapedPipe cells, ?_, closingDelimiterByBytes_eq cells⟩
  have hrefused := pipe_notMem_dropEscapedPipe_iff cells
  by_cases h : '|' ∈ dropEscapedPipe cells
  · rw [tableRow_of_mem h, if_neg (fun hno => hrefused.2 hno h)]
    simp [delimiter, headerDelimiter, bodyDelimiter]
  · rw [tableRow_of_notMem h, if_pos (hrefused.1 h)]

example : tableRow "|é|||".toList = .ok "|é||||\n".toList := by decide

end WikiMarkup.Wiki
