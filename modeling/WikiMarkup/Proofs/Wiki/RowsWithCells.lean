import WikiMarkup.Convert
import WikiMarkup.Markdown.Reader
import WikiMarkup.Proofs.Render.OpenTags
import WikiMarkup.Proofs.Wiki.Row
/-!
# Rows with cells are rendered

The only thing that cannot be rendered in wiki markup is a row of a table in whose text no pipe is
left once an escaped one has been dropped. A row that begins with a cell begins with a pipe, and a
pipe at the very beginning is never an escaped one. So every sequence of events is rendered in which
each row begins with a cell, whatever the cells hold, and balanced or not (`exists_render_ok`).

The invariant of the walk is that each open row has a first pipe already, or has none yet because
its first cell is still open or is about to begin (`RowsFilled`).
-/

namespace WikiMarkup

/-- A row of a table, be it the header row or one of the body. -/
def Construct.isRow : Construct → Bool
  | .tableHead | .tableRow => true
  | _ => false

/-- A cell of a table rather than any other construct. -/
def Construct.isCell : Construct → Bool
  | .tableCell _ _ => true
  | _ => false

/-- Outside images a tag opens a row if it is one, and a cell if it is one. Inside images it opens
neither. -/
lemma Walk.openNodes_start (w : Walk) (tag : Tag) :
    ∃ c, (w.start tag).openNodes = ⟨c, []⟩ :: w.openNodes ∧
      c.isRow = (tag.isRow && !w.inImage) ∧ c.isCell = (tag = .tableCell && !w.inImage) := by
  cases himage : w.inImage with
  | true => exact ⟨.unmarked, by simp [start, himage, push], by simp [Construct.isRow],
      by simp [Construct.isCell]⟩
  | false => cases tag <;> exact ⟨_, by simp only [start, himage]; rfl, rfl, rfl⟩

namespace Wiki

/-! ### Rows that begin with a pipe -/

/-- Each open row begins with a pipe, or it is still empty and its first cell stands directly inside
of it. Inside the innermost open construct such a cell is to be expected if `cell` holds. -/
def RowsFilled : (cell : Prop) → List Node → Prop
  | _, [] => True
  | cell, node :: rest =>
    (node.construct.isRow = true → node.content.head? = some '|' ∨ node.content = [] ∧ cell) ∧
      RowsFilled (node.construct.isCell = true) rest

namespace RowsFilled

variable {p q : Prop} {nodes : List Node} {w : Walk} {t : Text}

lemma mono (h : RowsFilled p nodes) (hpq : p → q) : RowsFilled q nodes := by
  cases nodes with
  | nil => trivial
  | cons node rest => exact ⟨fun hrow => (h.1 hrow).imp_right (And.imp_right hpq), h.2⟩

/-- A row that is not waiting for its first cell can take any text. -/
lemma append (h : RowsFilled False w.openNodes) : RowsFilled False (w.append t).openNodes := by
  obtain ⟨output, _ | ⟨node, rest⟩, images, table⟩ := w
  · trivial
  · refine ⟨fun hrow => .inl ?_, h.2⟩
    have hhead : node.content.head? = some '|' := by simpa using h.1 hrow
    change (node.content ++ t).head? = some '|'
    rw [List.head?_append, hhead]
    rfl

/-- Behind a cell no row is empty any more. -/
lemma append_cell (h : RowsFilled True w.openNodes) (ht : t.head? = some '|') :
    RowsFilled False (w.append t).openNodes := by
  obtain ⟨output, _ | ⟨node, rest⟩, images, table⟩ := w
  · trivial
  · refine ⟨fun hrow => .inl ?_, h.2⟩
    change (node.content ++ t).head? = some '|'
    rcases h.1 hrow with hhead | ⟨hnil, -⟩
    · rw [List.head?_append, hhead]
      rfl
    · rw [hnil]
      exact ht

lemma deliver (h : RowsFilled False w.openNodes) (r : Request) :
    RowsFilled False (w.deliver r t).openNodes := by
  rcases w.deliver_cases r t with happend | ⟨header, content, rest, hopen, hheader⟩
  · rw [happend]
    exact h.append
  · -- A header row goes to the header of a table, and a table is no row itself.
    rw [hopen] at h
    rw [hheader]
    exact ⟨by simp [Construct.isRow], h.2⟩

end RowsFilled

/-! ### One event -/

/-- The next event opens a cell. -/
def AwaitsCell (opened : List Tag) (es : List Event) : Prop :=
  inOpenImage opened = false ∧ BeginWithCell es

lemma head?_tableCell (content : Text) (header : Bool) (alignment : Alignment) :
    (tableCell content header alignment).head? = some '|' := by
  cases header <;> rfl

/-- A row that begins with a pipe is rendered. -/
lemma exists_tableRow_ok {cells : Text} (h : cells.head? = some '|') :
    ∃ row, tableRow cells = .ok row := by
  obtain ⟨rest, rfl⟩ := List.head?_eq_some_iff.1 h
  refine ⟨_, tableRow_of_mem ?_⟩
  rw [dropEscapedPipe_pipe]
  exact List.mem_cons_self

section

variable {o : Options} {w : Walk} {opened : List Tag}

/-- A part without parts of its own is rendered, and no row waits for a cell behind it. -/
lemma exists_answer_leaf {l : Leaf} {es : List Event}
    (hrows : RowsFilled (AwaitsCell opened (.leaf l :: es)) w.openNodes) :
    ∃ t, (w.requestOf l).answer (backend o) = .ok t ∧
      RowsFilled False (w.deliver (w.requestOf l) t).openNodes := by
  have hfilled : RowsFilled False w.openNodes := by
    refine hrows.mono ?_
    rintro ⟨-, hcell⟩
    simpa using hcell (.leaf l) rfl
  have hanswer : ∃ t, (w.requestOf l).answer (backend o) = .ok t := by
    cases l with
    | text t =>
      rw [Walk.requestOf]
      split <;> exact ⟨_, rfl⟩
    | code t =>
      rw [Walk.requestOf]
      split <;> exact ⟨_, rfl⟩
    | _ => exact ⟨_, rfl⟩
  obtain ⟨t, ht⟩ := hanswer
  exact ⟨t, ht, hfilled.deliver _⟩

/-- The construct that an end closes is rendered, and no row waits for a cell behind it. -/
lemma exists_answer_finish {es : List Event}
    (hrows : RowsFilled (AwaitsCell opened (.finish :: es)) w.openNodes) :
    ∃ t, w.finish.2.answer (backend o) = .ok t ∧
      RowsFilled False (w.finish.1.deliver w.finish.2 t).openNodes := by
  have hfilled : RowsFilled False w.openNodes := by
    refine hrows.mono ?_
    rintro ⟨-, hcell⟩
    simpa using hcell .finish rfl
  rw [Walk.finish]
  split
  · exact ⟨[], rfl, hfilled.deliver _⟩
  · rename_i node rest hopen
    rw [hopen] at hfilled
    obtain ⟨hrow, hrest⟩ := hfilled
    obtain ⟨c, content⟩ := node
    cases c with
    | tableHead | tableRow =>
      have hhead : content.head? = some '|' := by simpa using hrow rfl
      obtain ⟨row, hanswer⟩ := exists_tableRow_ok hhead
      exact ⟨row, hanswer, RowsFilled.deliver (hrest.mono (by simp [Construct.isCell])) _⟩
    | tableCell header alignment =>
      exact ⟨_, rfl, RowsFilled.append_cell (hrest.mono fun _ => trivial)
        (head?_tableCell content header alignment)⟩
    | _ => exact ⟨_, rfl, RowsFilled.deliver (hrest.mono (by simp [Construct.isCell])) _⟩

/-- A row that is opened waits for its first cell, and a cell that is opened is waited for. -/
lemma rowsFilled_start {tag : Tag} {es : List Event} (hw : w.Tracks opened)
    (hcells : RowsBeginWithCells opened (.start tag :: es))
    (hrows : RowsFilled (AwaitsCell opened (.start tag :: es)) w.openNodes) :
    RowsFilled (AwaitsCell (tag :: opened) es) (w.start tag).openNodes := by
  obtain ⟨c, hopen, hrow, hcell⟩ := w.openNodes_start tag
  rw [hw.inImage_eq] at hrow hcell
  rw [hopen]
  refine ⟨fun hc => .inr ⟨rfl, ?_, ?_⟩, hrows.mono ?_⟩
  · rw [hrow, Bool.and_eq_true, Bool.not_eq_true'] at hc
    rw [inOpenImage_cons, hc.2]
    cases tag <;> first | rfl | cases hc.1
  · rw [hrow, Bool.and_eq_true, Bool.not_eq_true'] at hc
    exact hcells.1 tag (by simp [Event.outerStart?, hc.2]) hc.1
  · rintro ⟨hout, hbegin⟩
    have htag : tag = .tableCell := Event.start.inj (hbegin _ rfl)
    simp [hcell, htag, hout]

/-- Each event is rendered and keeps the rows filled, if each row begins with a cell. -/
lemma exists_answer_accept {e : Event} {es : List Event} (hw : w.Tracks opened)
    (hcells : RowsBeginWithCells opened (e :: es))
    (hrows : RowsFilled (AwaitsCell opened (e :: es)) w.openNodes) :
    ∃ t, (w.accept e).2.answer (backend o) = .ok t ∧
      RowsFilled (AwaitsCell (e.opened opened) es)
        ((w.accept e).1.deliver (w.accept e).2 t).openNodes := by
  cases e with
  | start tag =>
    refine ⟨[], rfl, ?_⟩
    change RowsFilled _ ((w.start tag).append []).openNodes
    rw [Walk.append_nil]
    exact rowsFilled_start hw hcells hrows
  | finish =>
    obtain ⟨t, ht, hfilled⟩ := exists_answer_finish (o := o) hrows
    exact ⟨t, ht, hfilled.mono False.elim⟩
  | leaf l =>
    obtain ⟨t, ht, hfilled⟩ := exists_answer_leaf (o := o) hrows
    exact ⟨t, ht, hfilled.mono False.elim⟩

/-! ### Documents -/

lemma exists_run_ok {es : List Event} (hw : w.Tracks opened)
    (hcells : RowsBeginWithCells opened es)
    (hrows : RowsFilled (AwaitsCell opened es) w.openNodes) :
    ∃ v, w.run (backend o) es = (v, .ok ()) := by
  induction es generalizing w opened with
  | nil => exact ⟨w, rfl⟩
  | cons e es ih =>
    obtain ⟨t, ht, hfilled⟩ := exists_answer_accept (o := o) hw hcells hrows
    rw [Walk.run, ht]
    exact ih ((hw.accept e).deliver _ t) hcells.2 hfilled

lemma exists_render_fst_ok (w : Walk) {es : List Event} (h : RowsBeginWithCells [] es) :
    ∃ t, (w.render (backend o) es).1 = .ok t := by
  obtain ⟨v, hrun⟩ := exists_run_ok (o := o) w.tracks_restart h trivial
  exact ⟨v.output, by rw [Walk.render, hrun]⟩

end

/-- **Rows with cells are rendered.** Whatever documents a walk has rendered before, it renders
every sequence of events in which each row outside images begins with a cell. So a Markdown document
is converted, whatever reader it is parsed by, if that gives each row of a table a cell. -/
theorem exists_render_ok (o : Options) :
    (∀ (w : Walk) (es : List Event), RowsBeginWithCells [] es →
        ∃ t, (w.render (backend o) es).1 = .ok t) ∧
      ∀ (parse : Text → List Event) (markdown : Text), RowsBeginWithCells [] (parse markdown) →
        ∃ t, convert parse o markdown = .ok t :=
  ⟨fun w _ h => exists_render_fst_ok w h, fun _ _ h => exists_render_fst_ok {} h⟩

/-- A row in no table. The backslash at the end of its first cell makes the delimiter behind it look
escaped, and its second cell is an escaped pipe. A header row begins behind it and is never closed. -/
def escapedRow : List Event :=
  [.start .tableRow, .start .tableCell, .leaf (.text "a\\".toList), .finish,
    .start .tableCell, .leaf (.text "\\|".toList), .finish, .finish, .finish, .start .tableHead]

/-- A Markdown table with an escaped pipe. -/
def escapedTable : Text := "|a|\n|-|\n|\\||".toList

/-- The row is rendered by a walk that has left a header row open, and the table is converted. -/
theorem exists_render_escapedRow :
    (∃ t, ((({} : Walk).render (backend {}) [.start (.table []), .start .tableHead]).2.render
        (backend {}) escapedRow).1 = .ok t) ∧
      ∃ t, convert Markdown.events {} escapedTable = .ok t := by
  refine ⟨(exists_render_ok {}).1 _ escapedRow ?_,
    (exists_render_ok {}).2 Markdown.events escapedTable ?_⟩
  · decide
  · decide +kernel

end Wiki

end WikiMarkup
