import Mathlib.Data.List.Basic
import WikiMarkup.Proofs.Render.Evaluation
import WikiMarkup.Proofs.Text.Pieces
import WikiMarkup.Proofs.Wiki.Row
/-!
# Tables can be read back

If the cells of a table show no pipes and no newlines and do not end in a backslash, the output for
the table says what its cells show (`render_plainTable`): its lines are the rows, and between the
pipes of a line stand the cells. An empty cell is the one exception, since it is shown as a space.

That a row is closed by the delimiter of its own cells needs that the last run of pipes in it is the
last delimiter. No cell begins or ends a run, as each shows at least one character, none of them a
pipe, and no delimiter looks escaped, as no backslash stands before it.
-/

namespace WikiMarkup.Wiki

/-! ### The text of a row -/

/-- A content of a cell that leaves the delimiters of its table alone. -/
@[mk_iff]
structure PlainContent (content : Text) : Prop where
  pipe_notMem : '|' ∉ content
  newline_notMem : '\n' ∉ content
  not_escaping : content.getLast? ≠ some '\\'

instance (content : Text) : Decidable (PlainContent content) :=
  decidable_of_iff' _ (plainContent_iff content)

/-- What a cell shows if its content is plain: an empty content is shown as a space. -/
structure PlainCell (shown : Text) : Prop extends PlainContent shown where
  ne_nil : shown ≠ []

/-- What is shown of a content. -/
def shownCell (content : Text) : Text := if content.isEmpty then [' '] else content

/-- The cells of a row, each behind its delimiter. -/
def cellsText (header : Bool) (cells : List Text) : Text :=
  cells.flatMap fun cell => delimiter header ++ cell

/-- The line of a row: its cells and the closing delimiter. -/
def rowLine (header : Bool) (cells : List Text) : Text :=
  cellsText header cells ++ delimiter header

lemma PlainContent.shownCell {content : Text} (h : PlainContent content) :
    PlainCell (shownCell content) := by
  rw [Wiki.shownCell]
  cases content with
  | nil => exact ⟨⟨by decide, by decide, by decide⟩, by decide⟩
  | cons c content => exact ⟨h, by simp⟩

lemma shownCell_ne_nil (content : Text) : shownCell content ≠ [] := by
  cases content <;> simp [shownCell]

lemma delimiter_eq_replicate (header : Bool) :
    delimiter header = List.replicate ((if header then 1 else 0) + 1) '|' := by
  cases header <;> rfl

section Row

variable (header : Bool) {cells : List Text}

lemma cellsText_cons (cell : Text) (cells : List Text) :
    cellsText header (cell :: cells) = delimiter header ++ cell ++ cellsText header cells := rfl

lemma cellsText_concat (cells : List Text) (cell : Text) :
    cellsText header (cells ++ [cell]) = cellsText header cells ++ delimiter header ++ cell := by
  simp [cellsText]

lemma rowLine_cons (cell : Text) (cells : List Text) :
    rowLine header (cell :: cells) = delimiter header ++ (cell ++ rowLine header cells) := by
  simp [rowLine, cellsText_cons]

lemma exists_rowLine_eq (cells : List Text) : ∃ t, rowLine header cells = '|' :: t := by
  have hdelimiter : ∃ t, delimiter header = '|' :: t := by cases header <;> exact ⟨_, rfl⟩
  obtain ⟨t, ht⟩ := hdelimiter
  cases cells with
  | nil => exact ⟨t, ht⟩
  | cons cell cells =>
    rw [rowLine_cons, ht]
    exact ⟨_, rfl⟩

lemma rowLine_concat (cells : List Text) : ∃ t, rowLine header cells = t ++ ['|'] := by
  cases header with
  | false => exact ⟨cellsText false cells, rfl⟩
  | true => exact ⟨cellsText true cells ++ ['|'], by simp [rowLine, delimiter, headerDelimiter]⟩

lemma newline_notMem_rowLine (h : ∀ cell ∈ cells, PlainCell cell) :
    '\n' ∉ rowLine header cells := by
  have hdelimiter : '\n' ∉ delimiter header := by cases header <;> decide
  rw [rowLine, List.mem_append, not_or]
  refine ⟨fun hmem => ?_, hdelimiter⟩
  obtain ⟨cell, hcell, hmem⟩ := List.mem_flatMap.1 hmem
  rcases List.mem_append.1 hmem with hmem | hmem
  · exact hdelimiter hmem
  · exact (h cell hcell).newline_notMem hmem

/-! ### How a row is closed -/

lemma dropEscapedPipe_delimiter_append (t : Text) :
    dropEscapedPipe (delimiter header ++ t) = delimiter header ++ dropEscapedPipe t := by
  cases header with
  | false => exact dropEscapedPipe_pipe t
  | true => exact (dropEscapedPipe_pipe _).trans (congrArg _ (dropEscapedPipe_pipe t))

/-- No delimiter of a row looks escaped. -/
lemma dropEscapedPipe_cellsText (h : ∀ cell ∈ cells, PlainCell cell) :
    dropEscapedPipe (cellsText header cells) = cellsText header cells := by
  induction cells with
  | nil => rfl
  | cons cell cells ih =>
    have hcell := h cell (by simp)
    rw [cellsText_cons, List.append_assoc, dropEscapedPipe_delimiter_append,
      dropEscapedPipe_append hcell.pipe_notMem hcell.not_escaping,
      ih fun c hc => h c (by simp [hc])]

lemma getLast?_cellsText (h : ∀ cell ∈ cells, PlainCell cell) :
    (cellsText header cells).getLast? ≠ some '|' := by
  rcases List.eq_nil_or_concat cells with rfl | ⟨cells, cell, rfl⟩
  · simp [cellsText]
  · have hcell := h cell (by simp)
    rw [List.concat_eq_append, cellsText_concat, List.getLast?_append_of_ne_nil _ hcell.ne_nil]
    exact fun hlast => hcell.pipe_notMem (List.mem_of_getLast? hlast)

/-- A row is closed by the delimiter of its cells. -/
lemma tableRow_cellsText (hne : cells ≠ []) (h : ∀ cell ∈ cells, PlainCell cell) :
    tableRow (cellsText header cells) = .ok (rowLine header cells ++ ['\n']) := by
  obtain ⟨init, last, rfl⟩ := (List.eq_nil_or_concat cells).resolve_left hne
  rw [List.concat_eq_append] at h ⊢
  have hlast := h last (by simp)
  -- The last delimiter stands between a character of a cell and the last cell.
  have hrun : dropEscapedPipe (cellsText header (init ++ [last])) =
      cellsText header init ++ List.replicate ((if header then 1 else 0) + 1) '|' ++ last := by
    rw [dropEscapedPipe_cellsText header h, cellsText_concat, delimiter_eq_replicate]
  rw [tableRow_of_run hrun (getLast?_cellsText header fun c hc => h c (by simp [hc]))
    hlast.pipe_notMem, rowLine]
  cases header <;> rfl

/-! ### How a row is read back -/

lemma pieces_delimiter_append (t : Text) :
    Text.pieces '|' (delimiter header ++ t) = Text.pieces '|' t := by
  cases header with
  | false => exact Text.pieces_cons_sep t
  | true => exact (Text.pieces_cons_sep _).trans (Text.pieces_cons_sep t)

/-- Between the pipes of a row stand its cells. -/
lemma pieces_rowLine (h : ∀ cell ∈ cells, PlainCell cell) :
    Text.pieces '|' (rowLine header cells) = cells := by
  induction cells with
  | nil => cases header <;> rfl
  | cons cell cells ih =>
    have hcell := h cell (by simp)
    rw [rowLine_cons, pieces_delimiter_append,
      Text.pieces_append_of_start (.inr (exists_rowLine_eq header cells)),
      Text.pieces_of_notMem hcell.ne_nil hcell.pipe_notMem,
      ih fun c hc => h c (by simp [hc])]
    rfl

end Row

/-! ### Plain tables -/

/-- What a cell holds, as it is rendered. -/
def cellContent (o : Options) (cell : List Tree) : Text :=
  match (backend o).render (Tree.eventsOfList cell) with
  | .ok content => content
  | .error _ => []

/-- A row of a table with at least one cell. Its cells hold no tables, and their contents leave the
delimiters alone. -/
structure PlainRow (o : Options) where
  cells : List (List Tree)
  cells_ne_nil : cells ≠ []
  cells_shaped : ∀ cell ∈ cells, ∀ t ∈ cell, t.Shaped false
  cells_plain : ∀ cell ∈ cells, PlainContent (cellContent o cell)

/-- A table with a header row and any number of body rows, each of any length. -/
structure PlainTable (o : Options) where
  alignments : List Alignment
  header : PlainRow o
  rows : List (PlainRow o)

section

variable {o : Options}

/-- What the cells of a row show. -/
def PlainRow.shown (r : PlainRow o) : List Text := r.cells.map fun c => shownCell (cellContent o c)

/-- The table in a document. -/
def PlainTable.tree (T : PlainTable o) : Tree :=
  Tree.table T.alignments T.header.cells (T.rows.map PlainRow.cells)

/-- The lines of the table: the header row and the body rows. -/
def PlainTable.lines (T : PlainTable o) : List Text :=
  rowLine true T.header.shown :: T.rows.map fun r => rowLine false r.shown

lemma PlainRow.shown_plain (r : PlainRow o) : ∀ cell ∈ r.shown, PlainCell cell := by
  intro cell hcell
  obtain ⟨c, hc, rfl⟩ := List.mem_map.1 hcell
  exact (r.cells_plain c hc).shownCell

lemma PlainRow.shown_ne_nil (r : PlainRow o) : r.shown ≠ [] :=
  List.map_eq_nil_iff.not.2 r.cells_ne_nil

/-! ### Rendering -/

lemma exists_answer_ok (o : Options) (c : Call) (hc : ∀ row, c ≠ .tableRow row) :
    ∃ x, (backend o).answer c = .ok x := by
  cases c with
  | tableRow row => exact absurd rfl (hc row)
  | _ => exact ⟨_, rfl⟩

/-- A cell without tables is rendered, whatever it holds. -/
lemma meaningOfList_cell {cell : List Tree} (h : ∀ t ∈ cell, t.Shaped false) :
    Tree.meaningOfList (backend o).answer .flow cell = .ok (cellContent o cell) := by
  obtain ⟨x, hx⟩ := Tree.exists_meaningOfList_ok fun t ht =>
    (h t ht).exists_meaning_ok (exists_answer_ok o) .flow
  rw [cellContent, render_eq_meaningOfList _ fun t ht => (h t ht).toTrue, hx]

lemma meaningOfCells_plain (header : Bool) (alignments : List Alignment)
    {cells : List (List Tree)} (h : ∀ cell ∈ cells, ∀ t ∈ cell, t.Shaped false) (column : Nat) :
    Tree.meaningOfCells (backend o).answer header alignments column
        (cells.map (.node .tableCell)) =
      .ok (cellsText header (cells.map fun c => shownCell (cellContent o c))) := by
  induction cells generalizing column with
  | nil => rfl
  | cons cell cells ih =>
    rw [List.map_cons, Tree.meaningOfCells, meaningOfList_cell (h cell (by simp)),
      ih fun c hc => h c (by simp [hc])]
    rfl

/-- What is rendered for the cells of a row. -/
def rowMeaning (o : Options) (header : Bool) (alignments : List Alignment)
    (cells : List (List Tree)) : Except RenderError Text :=
  Tree.meaningOfCells (backend o).answer header alignments 0 (cells.map (.node .tableCell)) >>=
    fun row => (backend o).answer (.tableRow row)

lemma rowMeaning_eq (header : Bool) (alignments : List Alignment) {cells : List (List Tree)}
    (h : ∀ cell ∈ cells, ∀ t ∈ cell, t.Shaped false) :
    rowMeaning o header alignments cells =
      tableRow (cellsText header (cells.map fun c => shownCell (cellContent o c))) := by
  rw [rowMeaning, meaningOfCells_plain header alignments h]
  rfl

section

variable {α : Type} {rows : List α} {cells : α → List (List Tree)} {out : α → Text}

lemma meaningOfRows_ok {alignments : List Alignment}
    (h : ∀ r ∈ rows, rowMeaning o false alignments (cells r) = .ok (out r)) :
    Tree.meaningOfRows (backend o).answer alignments
        ((rows.map cells).map (Tree.row .tableRow)) = .ok (rows.flatMap out) := by
  induction rows with
  | nil => rfl
  | cons r rows ih =>
    have hrow : rowMeaning o false alignments (cells r) = .ok (out r) := h r (by simp)
    rw [rowMeaning] at hrow
    rw [List.map_cons, List.map_cons, Tree.row, Tree.meaningOfRows,
      ih fun r' hr' => h r' (by simp [hr']), ← bind_assoc, hrow]
    rfl

/-- A table is rendered if its rows are. -/
lemma render_table {alignments : List Alignment} {header : List (List Tree)} {top : Text}
    (hheader : ∀ cell ∈ header, ∀ t ∈ cell, t.Shaped false)
    (hrows : ∀ r ∈ rows, ∀ cell ∈ cells r, ∀ t ∈ cell, t.Shaped false)
    (htop : rowMeaning o true alignments header = .ok top)
    (hbody : ∀ r ∈ rows, rowMeaning o false alignments (cells r) = .ok (out r)) :
    (backend o).render (Tree.table alignments header (rows.map cells)).events =
      .ok (table top (rows.flatMap out)) := by
  have hshaped : (Tree.table alignments header (rows.map cells)).Shaped true := by
    refine .table hheader fun row hrow => ?_
    obtain ⟨r, hr, rfl⟩ := List.mem_map.1 hrow
    exact hrows r hr
  refine render_events_ok (backend o) hshaped ?_
  rw [rowMeaning] at htop
  rw [Tree.meaning_table _ Place.flow_ne_image, ← bind_assoc, htop, meaningOfRows_ok hbody]
  rfl

end

/-- A row is rendered as its line. -/
lemma PlainRow.rowMeaning_cells (r : PlainRow o) (header : Bool) (alignments : List Alignment) :
    rowMeaning o header alignments r.cells = .ok (rowLine header r.shown ++ ['\n']) :=
  (rowMeaning_eq header alignments r.cells_shaped).trans
    (tableRow_cellsText header r.shown_ne_nil r.shown_plain)

/-- The final newline of the rows is all that trimming takes away. -/
lemma trim_rows {rows : Text} (hstart : ∃ t, rows = '|' :: t) (hend : ∃ t, rows = t ++ ['|']) :
    Text.trim (rows ++ ['\n']) = rows := by
  have hfirst : Text.trimStart (rows ++ ['\n']) = rows ++ ['\n'] := by
    obtain ⟨t, rfl⟩ := hstart
    exact Text.trimStart_cons_of_not_isSpace (by decide) _
  have hlast : Text.trimEnd rows = rows := by
    obtain ⟨t, rfl⟩ := hend
    exact Text.trimEnd_append (by simp) (by decide) t
  rw [Text.trim, hfirst, Text.trimEnd_append_of_isSpace (by decide), hlast]

lemma exists_join_lines_eq (T : PlainTable o) : ∃ t, Text.join ['\n'] T.lines = '|' :: t := by
  obtain ⟨t, ht⟩ := exists_rowLine_eq true T.header.shown
  obtain ⟨u, hu⟩ := Text.prefix_join_cons ['\n'] (rowLine true T.header.shown)
    (T.rows.map fun r => rowLine false r.shown)
  exact ⟨t ++ u, by rw [PlainTable.lines, ← hu, ht]; rfl⟩

lemma join_lines_concat (T : PlainTable o) : ∃ t, Text.join ['\n'] T.lines = t ++ ['|'] := by
  obtain ⟨ls, l, hl⟩ := (List.eq_nil_or_concat T.lines).resolve_left (by simp [PlainTable.lines])
  rw [List.concat_eq_append] at hl
  have hpipe : ∃ t, l = t ++ ['|'] := by
    have hmem : l ∈ T.lines := by simp [hl]
    rcases List.mem_cons.1 hmem with rfl | hmem
    · exact rowLine_concat true _
    · obtain ⟨r, -, rfl⟩ := List.mem_map.1 hmem
      exact rowLine_concat false _
  obtain ⟨t, rfl⟩ := hpipe
  obtain ⟨u, hu⟩ := Text.suffix_join_concat ['\n'] ls (t ++ ['|'])
  exact ⟨u ++ t, by rw [hl, ← hu, List.append_assoc]⟩

/-- A plain table is rendered as its lines. -/
lemma PlainTable.render_tree (T : PlainTable o) :
    (backend o).render T.tree.events =
      .ok ("\n".toList ++ Text.join ['\n'] T.lines ++ "\n".toList) := by
  have hrows : (rowLine true T.header.shown ++ ['\n']) ++
      (T.rows.flatMap fun r => rowLine false r.shown ++ ['\n']) =
        Text.join ['\n'] T.lines ++ ['\n'] := by
    rw [Text.join_append_sep _ (by simp [lines]), lines, List.flatMap_cons, List.flatMap_map]
  rw [tree, render_table T.header.cells_shaped (fun r _ => r.cells_shaped)
    (T.header.rowMeaning_cells true T.alignments)
    fun r _ => r.rowMeaning_cells false T.alignments]
  rw [table, hrows, trim_rows (exists_join_lines_eq T) (join_lines_concat T)]

/-! ### Reading a table back -/

lemma PlainTable.newline_notMem (T : PlainTable o) : ∀ l ∈ T.lines, '\n' ∉ l := by
  intro l hl
  rcases List.mem_cons.1 hl with rfl | hl
  · exact newline_notMem_rowLine true T.header.shown_plain
  · obtain ⟨r, -, rfl⟩ := List.mem_map.1 hl
    exact newline_notMem_rowLine false r.shown_plain

/-- The cells are the pieces between the pipes, line by line. -/
lemma PlainTable.pieces_lines (T : PlainTable o) :
    T.lines.map (Text.pieces '|') = T.header.shown :: T.rows.map PlainRow.shown := by
  rw [lines, List.map_cons, pieces_rowLine true T.header.shown_plain, List.map_map]
  refine congrArg _ (List.map_congr_left fun r _ => ?_)
  exact pieces_rowLine false r.shown_plain

lemma PlainTable.lines_eq (T : PlainTable o) :
    T.lines = rowLine true T.header.shown :: (T.rows.map PlainRow.shown).map (rowLine false) := by
  rw [lines, List.map_map]
  rfl

/-- **Tables.** A table with plain cells is rendered as one line for each of its rows: the cells of
the header row stand between double pipes, those of a body row between single ones. Two such tables
have the same output, under any options, if and only if their cells show the same. -/
theorem render_plainTable (T : PlainTable o) :
    (backend o).render T.tree.events =
        .ok ("\n".toList ++ Text.join ['\n'] T.lines ++ "\n".toList) ∧
      ∀ {o' : Options} (T' : PlainTable o'),
        (backend o).render T.tree.events = (backend o').render T'.tree.events ↔
          T.header.shown = T'.header.shown ∧
            T.rows.map PlainRow.shown = T'.rows.map PlainRow.shown := by
  refine ⟨T.render_tree, fun {o'} T' => ?_⟩
  rw [T.render_tree, T'.render_tree]
  constructor
  · intro h
    have hjoin : Text.join ['\n'] T.lines = Text.join ['\n'] T'.lines :=
      List.append_cancel_left (List.append_cancel_right (Except.ok.inj h))
    -- A line holds no newline, so the lines are read back, and from them the cells.
    have hlines : T.lines = T'.lines := by
      rw [← Text.split_join (by simp [PlainTable.lines]) T.newline_notMem, hjoin,
        Text.split_join (by simp [PlainTable.lines]) T'.newline_notMem]
    have hcells := congrArg (List.map (Text.pieces '|')) hlines
    rw [T.pieces_lines, T'.pieces_lines] at hcells
    exact List.cons.inj hcells
  · rintro ⟨hheader, hrows⟩
    rw [T.lines_eq, T'.lines_eq, hheader, hrows]

end

/-- A table with an empty cell and with rows of different lengths. -/
def unevenTable : PlainTable {} where
  alignments := [.left]
  header :=
    { cells := [[.text "a".toList], []]
      cells_ne_nil := by simp
      cells_shaped := by simp [Tree.text, Tree.Shaped.leaf]
      cells_plain := by decide }
  rows :=
    [{ cells := [[.leaf (.code "b".toList)]]
       cells_ne_nil := by simp
       cells_shaped := by simp [Tree.Shaped.leaf]
       cells_plain := by decide }]

example : (backend {}).render unevenTable.tree.events =
    .ok "\n||a|| ||\n|\x7b\x7bb\x7d\x7d|\n".toList := rfl

end WikiMarkup.Wiki
