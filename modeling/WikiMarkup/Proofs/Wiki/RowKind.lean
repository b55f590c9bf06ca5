import WikiMarkup.Proofs.Wiki.Table
/-!
# How rows are closed

A row does not say whether it is the header row. Its last run of pipes does, after one escaped pipe
has been dropped: a row is closed as a header row if and only if that run is a double pipe. As long
as the run is the delimiter of the last cell, this is the kind of the row (`render_filledTable`).
But cells hold pipes of their own, for links and images are written with them, and these can be in
the last run: a header row that ends with a link is closed as a body row.
-/

namespace WikiMarkup.Wiki

/-- A row with the delimiter that its last run of pipes asks for. -/
def closedRow (cells : Text) : Text :=
  cells ++ delimiter (lastRun (dropEscapedPipe cells) = 2) ++ ['\n']

/-! ### The last delimiter -/

section

variable (header : Bool) {cells : List Text}

lemma pipe_mem_dropEscapedPipe (hne : cells ≠ []) :
    '|' ∈ dropEscapedPipe (cellsText header cells) := by
  obtain ⟨cell, cells, rfl⟩ := List.exists_cons_of_ne_nil hne
  rw [cellsText_cons, List.append_assoc, dropEscapedPipe_delimiter_append]
  cases header <;> exact List.mem_cons_self

/-- A row with a cell is closed by its last run of pipes. -/
lemma tableRow_eq_closedRow (hne : cells ≠ []) :
    tableRow (cellsText header cells) = .ok (closedRow (cellsText header cells)) :=
  tableRow_of_mem (pipe_mem_dropEscapedPipe header hne)

lemma delimiter_injective : Function.Injective delimiter := by
  intro header header' h
  revert h
  cases header <;> cases header' <;> decide

lemma closedRow_eq_iff (cells : Text) :
    closedRow cells = cells ++ delimiter header ++ ['\n'] ↔
      (lastRun (dropEscapedPipe cells) = 2 ↔ header = true) := by
  rw [closedRow, List.append_cancel_right_eq, List.append_cancel_left_eq,
    delimiter_injective.eq_iff]
  cases header <;> simp

/-- The delimiter of the last cell is the last run of pipes, if the last cell shows none and the
cell before it ends neither in a pipe nor in a backslash. -/
lemma tableRow_of_last {init : List Text} {last : Text} (hlast : '|' ∉ last)
    (hpipe : (cellsText header init).getLast? ≠ some '|')
    (hescape : (cellsText header init).getLast? ≠ some '\\') :
    tableRow (cellsText header (init ++ [last])) =
      .ok (cellsText header (init ++ [last]) ++ delimiter header ++ ['\n']) := by
  have hkind : decide ((if header then 1 else 0) = 1) = header := by cases header <;> rfl
  -- Whether or not a pipe was dropped, what stands before the last delimiter ends in no pipe.
  have hrun : ∃ p, p.getLast? ≠ some '|' ∧ dropEscapedPipe (cellsText header (init ++ [last])) =
      p ++ List.replicate ((if header then 1 else 0) + 1) '|' ++ last := by
    rw [cellsText_concat, List.append_assoc, ← delimiter_eq_replicate]
    rcases dropEscapedPipe_append_cases hescape (delimiter header ++ last) with h | ⟨-, h⟩
    · refine ⟨dropEscapedPipe (cellsText header init), ?_, by rw [h, List.append_assoc]⟩
      rwa [getLast?_dropEscapedPipe hpipe]
    · refine ⟨cellsText header init, hpipe, ?_⟩
      rw [h, dropEscapedPipe_delimiter_append, dropEscapedPipe_of_notMem hlast, List.append_assoc]
  obtain ⟨p, hp, hcells⟩ := hrun
  rw [tableRow_of_run hcells hp hlast, hkind]

end

/-! ### Tables -/

/-- A row of a table with at least one cell. No cell holds a table. -/
structure FilledRow where
  cells : List (List Tree)
  cells_ne_nil : cells ≠ []
  cells_shaped : ∀ cell ∈ cells, ∀ t ∈ cell, t.Shaped false

/-- A table with a header row and any number of body rows, whatever their cells hold. -/
structure FilledTable where
  alignments : List Alignment
  header : FilledRow
  rows : List FilledRow

/-- The table in a document. -/
def FilledTable.tree (T : FilledTable) : Tree :=
  Tree.table T.alignments T.header.cells (T.rows.map FilledRow.cells)

namespace FilledRow

variable (o : Options) (r : FilledRow) (header : Bool)

/-- What the cells of a row show. -/
def shown : List Text := r.cells.map fun c => shownCell (cellContent o c)

/-- The text of a row before it is closed. -/
def text : Text := cellsText header (r.shown o)

/-- The last cell shows no pipe, and the cell before it, if there is one, ends neither in a pipe nor
in a backslash. -/
def LastDelimiterStands : Prop :=
  ∃ init last, r.shown o = init ++ [last] ∧ '|' ∉ last ∧
    ∀ cell ∈ init.getLast?, cell.getLast? ≠ some '|' ∧ cell.getLast? ≠ some '\\'

lemma shown_ne_nil : r.shown o ≠ [] := List.map_eq_nil_iff.not.2 r.cells_ne_nil

lemma ne_nil_of_mem_shown {cell : Text} (h : cell ∈ r.shown o) : cell ≠ [] := by
  obtain ⟨c, -, rfl⟩ := List.mem_map.1 h
  exact shownCell_ne_nil _

/-- A row is rendered, whatever its cells hold. -/
lemma rowMeaning_cells (alignments : List Alignment) :
    rowMeaning o header alignments r.cells = .ok (closedRow (r.text o header)) :=
  (rowMeaning_eq header alignments r.cells_shaped).trans
    (tableRow_eq_closedRow header (r.shown_ne_nil o))

variable {o} {r} in
/-- A row is closed by its own delimiter if its last delimiter stands. -/
lemma LastDelimiterStands.closedRow_eq (h : r.LastDelimiterStands o) :
    closedRow (r.text o header) = r.text o header ++ delimiter header ++ ['\n'] := by
  obtain ⟨init, last, hshown, hlast, hbefore⟩ := h
  have hends : (cellsText header init).getLast? ≠ some '|' ∧
      (cellsText header init).getLast? ≠ some '\\' := by
    rcases List.eq_nil_or_concat init with rfl | ⟨front, cell, rfl⟩
    · simp [cellsText]
    · -- What is before the last delimiter ends as the cell there does.
      rw [List.concat_eq_append] at hshown hbefore ⊢
      have hne : cell ≠ [] := r.ne_nil_of_mem_shown o (by simp [hshown])
      rw [cellsText_concat, List.getLast?_append_of_ne_nil _ hne]
      exact hbefore cell (by simp)
  have hrow := tableRow_of_last header hlast hends.1 hends.2
  rw [← hshown, tableRow_eq_closedRow header (r.shown_ne_nil o)] at hrow
  exact Except.ok.inj hrow

end FilledRow

section

variable (o : Options) (T : FilledTable)

/-- The output for the table: its rows, as they are closed. -/
def FilledTable.output : Text :=
  table (closedRow (T.header.text o true)) (T.rows.flatMap fun r => closedRow (r.text o false))

lemma FilledTable.render_tree : (backend o).render T.tree.events = .ok (T.output o) :=
  render_table T.header.cells_shaped (fun r _ => r.cells_shaped)
    (T.header.rowMeaning_cells o true T.alignments)
    fun r _ => r.rowMeaning_cells o false T.alignments

/-- **Closing delimiters.** A table is rendered, whatever its cells hold, as its rows, each of them
closed by a delimiter. This is the delimiter of its own cells if and only if the last run of pipes,
once an escaped one is dropped, has length two in the header row and another length in a body row.
So it is if the last delimiter of the row stands: no pipe is shown behind it, and neither a pipe nor
a backslash right before it. -/
theorem render_filledTable :
    (backend o).render T.tree.events = .ok (T.output o) ∧
      ∀ (r : FilledRow) (header : Bool),
        (closedRow (r.text o header) = r.text o header ++ delimiter header ++ ['\n'] ↔
            (lastRun (dropEscapedPipe (r.text o header)) = 2 ↔ header = true)) ∧
          (r.LastDelimiterStands o →
            closedRow (r.text o header) = r.text o header ++ delimiter header ++ ['\n']) := by
  refine ⟨T.render_tree o, fun r header => ⟨closedRow_eq_iff header _, fun hstands => ?_⟩⟩
  exact hstands.closedRow_eq header

end

/-- A cell that holds a link. -/
def linkCell : List Tree := [.node (.link "b".toList []) [.text "a".toList]]

lemma linkCell_shaped : ∀ t ∈ linkCell, t.Shaped false :=
  List.forall_mem_singleton.2 (.node rfl (List.forall_mem_singleton.2 (.leaf _)))

/-- A table whose header row ends with a link and in whose body row a cell ends with a pipe. -/
def pipedTable : FilledTable where
  alignments := [.unspecified, .unspecified]
  header :=
    { cells := [[.text "h".toList], linkCell]
      cells_ne_nil := by simp
      cells_shaped := by simpa [Tree.text, Tree.Shaped.leaf] using linkCell_shaped }
  rows :=
    [{ cells := [[.text "x|".toList], [.text "y".toList]]
       cells_ne_nil := by simp
       cells_shaped := by simp [Tree.text, Tree.Shaped.leaf] }]

/-- A row that holds a link, but not in its last cell. -/
def linkedRow : FilledRow where
  cells := [linkCell, [.text "h".toList]]
  cells_ne_nil := by simp
  cells_shaped := by simpa [Tree.text, Tree.Shaped.leaf] using linkCell_shaped

theorem closedRow_linkedRow :
    (backend {}).render pipedTable.tree.events = .ok (pipedTable.output {}) ∧
      linkedRow.LastDelimiterStands {} ∧
      closedRow (linkedRow.text {} true) = "||[a|b]||h||\n".toList := by
  have hstands : linkedRow.LastDelimiterStands {} := by
    refine ⟨["[a|b]".toList], "h".toList, rfl, by decide, ?_⟩
    rintro cell ⟨⟩
    decide
  have htable := render_filledTable {} pipedTable
  exact ⟨htable.1, hstands, (htable.2 linkedRow true).2 hstands⟩

/-- A header row that ends with a link is closed as a body row, and a body row with a pipe before
its last delimiter as a header row. -/
theorem closedRow_pipedTable :
    (backend {}).render pipedTable.tree.events = .ok "\n||h||[a|b]|\n|x||y||\n".toList ∧
      closedRow (pipedTable.header.text {} true) ≠
        pipedTable.header.text {} true ++ delimiter true ++ ['\n'] ∧
      ∀ r ∈ pipedTable.rows,
        closedRow (r.text {} false) ≠ r.text {} false ++ delimiter false ++ ['\n'] := by
  refine ⟨rfl, by decide, ?_⟩
  simp only [pipedTable, List.forall_mem_singleton]
  decide

end WikiMarkup.Wiki
