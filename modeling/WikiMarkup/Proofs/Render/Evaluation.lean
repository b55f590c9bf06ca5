import WikiMarkup.Proofs.Render.Traversal
import WikiMarkup.Wiki.Backend
/-!
# Rendering evaluates a document

A walk over the events of a document keeps a stack of open constructs, a count of open images and
one place inside a table, which is not stacked. The meaning of a document is a recursion on its
trees. The two agree on every document whose tables have their shape (`render_eventsOfList`): the
rendered document or the first error is the same, and so are the questions put to the backend and
their order.

The proof follows the trees. `Walk.Writes` says what a piece of the events does to a walk, and each
construct puts together the pieces for its children. Only tables touch the place inside a table, and
since a cell holds no table, nothing changes it between two cells of a row.
-/

namespace WikiMarkup

variable {m : Type → Type} [Monad m] [LawfulMonad m] (ask : Call → m Text)

namespace Walk

/-! ### One event -/

lemma traverse_start (w : Walk) (tag : Tag) (es : List Event) :
    w.traverse ask (.start tag :: es) = (w.start tag).traverse ask es := by
  simp [traverse, accept, Request.piece, deliver]

lemma traverse_leaf (w : Walk) (l : Leaf) (es : List Event) :
    w.traverse ask (.leaf l :: es) =
      l.meaning ask w.place >>= fun t => (w.append t).traverse ask es := by
  rw [traverse]
  cases l with
  | text t =>
    cases hi : w.inImage <;> cases hc : w.inCodeBlock <;>
      simp [accept, requestOf, Request.piece, deliver, Leaf.meaning, place, hi, hc]
  | code t =>
    cases hi : w.inImage <;> cases hc : w.inCodeBlock <;>
      simp [accept, requestOf, Request.piece, deliver, Leaf.meaning, place, hi, hc]
  | _ => rfl

omit [LawfulMonad m] in
lemma traverse_finish (w : Walk) (c : Construct) (content : Text) (s : TableState)
    (es : List Event) :
    (((w.push c).append content).withTable s).traverse ask (.finish :: es) =
      (closing ⟨c, content⟩).piece ask >>= fun t =>
        ((w.withTable (tableAfter s c)).deliver (closing ⟨c, content⟩) t).traverse ask es := by
  rw [traverse, accept, finish_push]

lemma start_of_image {w : Walk} (hw : w.place = .image) (tag : Tag) :
    w.start tag = w.push .unmarked := by
  have himage : w.inImage = true := by
    simpa [inImage, Nat.pos_iff_ne_zero] using w.place_eq_image_iff.1 hw
  simp [start, himage]

lemma images_of_place {w : Walk} (hw : w.place ≠ .image) : w.images = 0 := by
  by_contra hne
  exact hw (w.place_eq_image_iff.2 hne)

/-! Outside images a table and its parts also move the place inside a table. -/

section

variable {w : Walk} (hw : w.images = 0)

include hw

lemma inImage_of_images : w.inImage = false := by
  simp [inImage, hw]

lemma start_table (alignments : List Alignment) :
    w.start (.table alignments) = (w.withTable ⟨false, alignments, 0⟩).push (.table []) := by
  simp only [start, inImage_of_images hw]
  rfl

lemma start_tableHead :
    w.start .tableHead = (w.withTable ⟨true, w.table.alignments, 0⟩).push .tableHead := by
  simp only [start, inImage_of_images hw]
  rfl

lemma start_tableRow :
    w.start .tableRow =
      (w.withTable ⟨w.table.inHead, w.table.alignments, 0⟩).push .tableRow := by
  simp only [start, inImage_of_images hw]
  rfl

lemma start_tableCell :
    w.start .tableCell =
      (w.withTable w.table).push (.tableCell w.table.inHead w.table.alignment) := by
  simp only [start, inImage_of_images hw]
  rfl

lemma place_push {c : Construct} (himage : c.isImage = false)
    (hcode : ∀ hint, c ≠ .codeBlock hint) : (w.push c).place = .flow := by
  have hno : (w.push c).inImage = false := by simp [push, inImage, himage, hw]
  have hnot : (w.push c).inCodeBlock = false := by
    cases c <;> first | rfl | exact absurd rfl (hcode _)
  simp [place, hno, hnot]

end

omit [LawfulMonad m] in
/-- Outside images a construct that is no part of a table is opened as itself. -/
lemma start_of_flow {w : Walk} (hw : w.place ≠ .image) {tag : Tag}
    (htag : tag.isTablePart = false) :
    ∃ c, w.start tag = w.push c ∧ (w.push c).place = tag.place ∧ c ≠ .tableHead ∧
      (∀ header, c ≠ .table header) ∧ (∀ s, tableAfter s c = s) ∧
      ∀ content, (closing ⟨c, content⟩).piece ask = tag.meaning ask content := by
  have hzero := images_of_place hw
  have himage := inImage_of_images hzero
  cases tag with
  | table | tableHead | tableRow | tableCell => simp [Tag.isTablePart] at htag
  | _ =>
    refine ⟨_, by simp only [start, himage]; rfl, ?_, by simp, by simp, fun s => rfl,
      fun content => ?_⟩
    · simp [place, push, Construct.isImage, inImage, inCodeBlock, Tag.place, hzero]
    · simp only [Tag.meaning, Tag.call?_codeBlock, Tag.call?_link, Tag.call?_image]
      rfl

/-! ### A piece of the events -/

/-- From `w` on, the events `es` write the output `x` to the innermost open construct and move the
place inside a table to `s`. Nothing else of the walk changes. -/
def Writes (w : Walk) (es : List Event) (x : m Text) (s : TableState) : Prop :=
  ∀ rest, w.traverse ask (es ++ rest) =
    x >>= fun t => ((w.append t).withTable s).traverse ask rest

namespace Writes

variable {ask}

lemma nil (w : Walk) : w.Writes ask [] (pure []) w.table := by
  intro rest
  simp

lemma append {w : Walk} {es es' : List Event} {x x' : m Text} {s s' : TableState}
    (h : w.Writes ask es x s) (h' : ∀ t, ((w.append t).withTable s).Writes ask es' x' s') :
    w.Writes ask (es ++ es') (x >>= fun t => x' >>= fun t' => pure (t ++ t')) s' := by
  intro rest
  rw [List.append_assoc, h (es' ++ rest)]
  simp [h' _ rest]

lemma leaf (w : Walk) (l : Leaf) :
    w.Writes ask [.leaf l] (l.meaning ask w.place) w.table := by
  intro rest
  rw [List.singleton_append, traverse_leaf]
  refine bind_congr fun t => ?_
  rw [← table_append w t, withTable_table]

/-- A construct writes its children to itself and is then asked for. The header row of a table is
the one construct that writes elsewhere. -/
lemma node {w : Walk} {tag : Tag} {c : Construct} {es : List Event} {x : m Text}
    {s₀ s : TableState} (hstart : w.start tag = (w.withTable s₀).push c) (hc : c ≠ .tableHead)
    (h : ((w.withTable s₀).push c).Writes ask es x s) :
    w.Writes ask (.start tag :: (es ++ [.finish]))
      (x >>= fun content => (closing ⟨c, content⟩).piece ask) (tableAfter s c) := by
  have hdeliver : ∀ (v : Walk) (content t : Text),
      v.deliver (closing ⟨c, content⟩) t = v.append t := by
    intro v content t
    cases c <;> first | rfl | exact absurd rfl hc
  intro rest
  rw [List.cons_append, traverse_start, hstart, List.append_assoc, h, List.singleton_append,
    bind_assoc]
  refine bind_congr fun content => ?_
  rw [traverse_finish]
  simp [hdeliver]

end Writes

end Walk

/-! ### Trees -/

/-- The events `es` of a part of a document stand for its meaning `x`: at a given place every walk
writes `x` for them. If `tables` is `false`, the place inside a table stays as it is. -/
def Evaluates (tables : Bool) (place : Place) (es : List Event) (x : m Text) : Prop :=
  ∀ s, ∃ s', (tables = false → s' = s) ∧
    ∀ w : Walk, w.place = place → w.table = s → w.Writes ask es x s'

namespace Evaluates

variable {ask} {tables : Bool} {place : Place}

lemma leaf (l : Leaf) : Evaluates ask tables place [.leaf l] (l.meaning ask place) := by
  intro s
  refine ⟨s, fun _ => rfl, ?_⟩
  rintro w rfl rfl
  exact Walk.Writes.leaf w l

lemma list {ts : List Tree}
    (h : ∀ t ∈ ts, Evaluates ask tables place t.events (t.meaning ask place)) :
    Evaluates ask tables place (Tree.eventsOfList ts) (Tree.meaningOfList ask place ts) := by
  induction ts with
  | nil =>
    intro s
    refine ⟨s, fun _ => rfl, ?_⟩
    rintro w - rfl
    rw [Tree.meaningOfList]
    exact Walk.Writes.nil w
  | cons t ts ih =>
    intro s
    obtain ⟨s₁, hs₁, h₁⟩ := h t (by simp) s
    obtain ⟨s₂, hs₂, h₂⟩ := ih (fun u hu => h u (by simp [hu])) s₁
    refine ⟨s₂, fun hnone => (hs₂ hnone).trans (hs₁ hnone), fun w hplace hw => ?_⟩
    rw [Tree.meaningOfList, Tree.eventsOfList]
    exact (h₁ w hplace hw).append fun t => h₂ _ (by simpa using hplace) rfl

/-- In an image every construct only stands for what it holds. -/
lemma image_node (tag : Tag) {ts : List Tree}
    (h : Evaluates ask tables .image (Tree.eventsOfList ts) (Tree.meaningOfList ask .image ts)) :
    Evaluates ask tables .image (Tree.node tag ts).events
      ((Tree.node tag ts).meaning ask .image) := by
  intro s
  obtain ⟨s', hs', h⟩ := h s
  refine ⟨s', hs', ?_⟩
  rintro w hplace rfl
  have himage : (w.push .unmarked).place = .image := by
    rw [Walk.place_eq_image_iff] at hplace ⊢
    exact hplace
  have hstart : w.start tag = (w.withTable w.table).push .unmarked :=
    Walk.start_of_image hplace tag
  have hnode := Walk.Writes.node hstart (by simp) (h (w.push .unmarked) himage rfl)
  rw [Tree.meaning, Tree.events]
  simpa [Walk.closing, Request.piece, Walk.tableAfter] using hnode

/-- Outside images a construct that is no part of a table is asked for once, with what it holds. -/
lemma flow_node (hplace : place ≠ .image) {tag : Tag} (htag : tag.isTablePart = false)
    {ts : List Tree}
    (h : Evaluates ask tables tag.place (Tree.eventsOfList ts)
      (Tree.meaningOfList ask tag.place ts)) :
    Evaluates ask tables place (Tree.node tag ts).events
      ((Tree.node tag ts).meaning ask place) := by
  intro s
  obtain ⟨s', hs', h⟩ := h s
  refine ⟨s', hs', ?_⟩
  rintro w rfl rfl
  obtain ⟨c, hstart, hc, hhead, -, hafter, hclosing⟩ := Walk.start_of_flow ask hplace htag
  have hopen : w.start tag = (w.withTable w.table).push c := hstart
  have hnode := Walk.Writes.node hopen hhead (h (w.push c) hc rfl)
  rw [Tree.meaning_node ask hplace htag, Tree.events]
  simpa only [hclosing, hafter] using hnode

end Evaluates

/-! ### Tables -/

section Tables

variable {ask} (alignments : List Alignment)

variable (ask) in
/-- What a cell holds is evaluated and leaves the place inside the table alone. -/
def EvaluatesCell (cell : List Tree) : Prop :=
  ∀ t ∈ cell, Evaluates ask false .flow t.events (t.meaning ask .flow)

/-- The cells of a row take the columns from left to right. -/
lemma writes_cells (header : Bool) {cells : List (List Tree)}
    (hcells : ∀ cell ∈ cells, EvaluatesCell ask cell)
    (column : Nat) {w : Walk} (hplace : w.place = .flow)
    (hw : w.table = ⟨header, alignments, column⟩) :
    w.Writes ask (Tree.eventsOfList (cells.map (.node .tableCell)))
      (Tree.meaningOfCells ask header alignments column (cells.map (.node .tableCell)))
      ⟨header, alignments, column + cells.length⟩ := by
  induction cells generalizing column w with
  | nil =>
    have hnil : w.Writes ask [] (pure []) w.table := Walk.Writes.nil w
    rw [hw] at hnil
    exact hnil
  | cons cell cells ih =>
    have hzero := Walk.images_of_place (w := w) (by simp [hplace])
    -- What the cell holds is written with the place inside the table as it is.
    obtain ⟨s, hs, hcell⟩ := Evaluates.list (hcells cell (by simp)) w.table
    obtain rfl : s = w.table := hs rfl
    have hnode := Walk.Writes.node (Walk.start_tableCell hzero) (by simp)
      (hcell _ (Walk.place_push hzero rfl (by simp)) rfl)
    rw [hw] at hnode
    have hrest := fun t => ih (fun c hc => hcells c (by simp [hc])) (column + 1)
      (w := (w.append t).withTable ⟨header, alignments, column + 1⟩) (by simpa using hplace) rfl
    have happend := hnode.append hrest
    have hlength : column + 1 + cells.length = column + (cell :: cells).length := by
      rw [List.length_cons]
      omega
    rw [hlength] at happend
    rw [List.map_cons, Tree.eventsOfList, Tree.events, Tree.meaningOfCells]
    simpa [Walk.closing, Request.piece, TableState.alignment] using happend

/-- The body rows each begin again at the first column. -/
lemma writes_rows {rows : List (List (List Tree))}
    (hrows : ∀ cells ∈ rows, ∀ cell ∈ cells, EvaluatesCell ask cell) (column : Nat) :
    ∃ column', ∀ w : Walk, w.place = .flow → w.table = ⟨false, alignments, column⟩ →
      w.Writes ask (Tree.eventsOfList (rows.map (Tree.row .tableRow)))
        (Tree.meaningOfRows ask alignments (rows.map (Tree.row .tableRow)))
        ⟨false, alignments, column'⟩ := by
  induction rows generalizing column with
  | nil =>
    refine ⟨column, fun w _ hw => ?_⟩
    rw [← hw]
    exact Walk.Writes.nil w
  | cons cells rows ih =>
    obtain ⟨column', hrest⟩ := ih (fun c hc => hrows c (by simp [hc])) cells.length
    refine ⟨column', fun w hplace hw => ?_⟩
    have hzero := Walk.images_of_place (w := w) (by simp [hplace])
    have hstart := Walk.start_tableRow hzero
    rw [hw] at hstart
    have hcells := writes_cells alignments false (hrows cells (by simp)) 0
      (w := (w.withTable ⟨false, alignments, 0⟩).push .tableRow)
      (Walk.place_push hzero rfl (by simp)) rfl
    have hrow := Walk.Writes.node hstart (by simp) hcells
    rw [Nat.zero_add] at hrow
    have happend := hrow.append fun t =>
      hrest ((w.append t).withTable ⟨false, alignments, cells.length⟩) (by simpa using hplace) rfl
    rw [List.map_cons, Tree.eventsOfList, Tree.row, Tree.events, Tree.meaningOfRows]
    simpa [Walk.closing, Request.piece] using happend

/-- The header row goes to the header of the table that it stands in. -/
lemma traverse_header {header : List (List Tree)}
    (hheader : ∀ cell ∈ header, EvaluatesCell ask cell)
    {w : Walk} (hw : w.images = 0) (es : List Event) :
    ((w.push (.table [])).withTable ⟨false, alignments, 0⟩).traverse ask
        ((Tree.row .tableHead header).events ++ es) =
      Tree.meaningOfCells ask true alignments 0 (header.map (.node .tableCell)) >>= fun cells =>
        ask (.tableRow cells) >>= fun row =>
          ((w.push (.table row)).withTable ⟨false, alignments, header.length⟩).traverse ask es := by
  have hcells := writes_cells alignments true hheader 0
    (w := ((w.push (.table [])).withTable ⟨true, alignments, 0⟩).push .tableHead)
    (Walk.place_push hw rfl (by simp)) rfl
  rw [Tree.row, Tree.events, List.cons_append, List.append_assoc, Walk.traverse_start,
    Walk.start_tableHead (w := (w.push (.table [])).withTable ⟨false, alignments, 0⟩) hw]
  refine (hcells ([.finish] ++ es)).trans (bind_congr fun cells => ?_)
  rw [List.singleton_append, Walk.traverse_finish, Nat.zero_add]
  rfl

/-- A table is asked for with its header row and its body rows. -/
lemma evaluates_table {place : Place} (hplace : place ≠ .image) {header : List (List Tree)}
    {rows : List (List (List Tree))}
    (hheader : ∀ cell ∈ header, EvaluatesCell ask cell)
    (hrows : ∀ cells ∈ rows, ∀ cell ∈ cells, EvaluatesCell ask cell) :
    Evaluates ask true place (Tree.table alignments header rows).events
      ((Tree.table alignments header rows).meaning ask place) := by
  intro s
  obtain ⟨column, hbody⟩ := writes_rows alignments hrows header.length
  refine ⟨⟨false, alignments, column⟩, by simp, ?_⟩
  rintro w rfl rfl rest
  have hw := Walk.images_of_place hplace
  rw [Tree.meaning_table ask hplace, Tree.table, Tree.events, Tree.eventsOfList,
    List.cons_append, Walk.traverse_start, Walk.start_table hw, Walk.push_withTable,
    List.append_assoc, List.append_assoc, traverse_header alignments hheader hw]
  simp only [bind_assoc]
  refine bind_congr fun cells => bind_congr fun row => ?_
  have hrow : ((w.push (.table row)).withTable ⟨false, alignments, header.length⟩).place =
      .flow := by
    rw [Walk.place_withTable]
    exact Walk.place_push hw rfl (by simp)
  refine (hbody _ hrow rfl _).trans (bind_congr fun body => ?_)
  rw [List.singleton_append, Walk.append_withTable, Walk.withTable_withTable, Walk.traverse_finish]
  refine bind_congr fun t => ?_
  exact congrArg (fun v => v.traverse ask rest) (Walk.append_withTable w _ t)

end Tables

/-! ### Documents -/

lemma Place.flow_ne_image : Place.flow ≠ .image := by simp

lemma Tree.Shaped.evaluates {tables : Bool} {t : Tree} (h : t.Shaped tables) (place : Place) :
    Evaluates ask tables place t.events (t.meaning ask place) := by
  refine Tree.Shaped.inductionOnPlace
    (motive := fun tables place t => Evaluates ask tables place t.events (t.meaning ask place))
    ?leaf ?image ?node ?table h place
  case leaf =>
    intro tables place l
    rw [Tree.events, Tree.meaning]
    exact Evaluates.leaf l
  case image =>
    intro tables tag ts ih
    exact Evaluates.image_node tag (Evaluates.list ih)
  case node =>
    intro tables place tag ts hplace htag ih
    exact Evaluates.flow_node hplace htag (Evaluates.list ih)
  case table =>
    intro place alignments header rows hplace hheader hrows
    exact evaluates_table alignments hplace hheader hrows

/-- A walk over a document whose tables have their shape appends what the document means. -/
lemma traverse_eventsOfList {ts : List Tree} (h : ∀ t ∈ ts, t.Shaped true) :
    ∃ s, Walk.traverse ask {} (Tree.eventsOfList ts) =
      Tree.meaningOfList ask .flow ts >>= fun t => pure { output := t, table := s } := by
  obtain ⟨s, -, hs⟩ :=
    Evaluates.list (fun t ht => (h t ht).evaluates ask .flow) {}
  refine ⟨s, ?_⟩
  have hrun := hs {} rfl rfl []
  rw [List.append_nil] at hrun
  exact hrun

lemma render_eq_output (b : Backend) (es : List Event) :
    b.render es = (Walk.traverse b.answer {} es).map Walk.output :=
  Walk.render_fst b {} es

/-- A document whose tables have their shape is rendered as what it means. -/
lemma render_eq_meaningOfList (b : Backend) {ts : List Tree} (h : ∀ t ∈ ts, t.Shaped true) :
    b.render (Tree.eventsOfList ts) = Tree.meaningOfList b.answer .flow ts := by
  obtain ⟨s, hs⟩ := traverse_eventsOfList b.answer h
  rw [render_eq_output, hs]
  cases Tree.meaningOfList b.answer .flow ts <;> rfl

/-- A document of one tree that means something is rendered as that. -/
lemma render_events_ok (b : Backend) {t : Tree} (h : t.Shaped true) {x : Text}
    (ht : t.meaning b.answer .flow = .ok x) : b.render t.events = .ok x := by
  have hevents : Tree.eventsOfList [t] = t.events := List.append_nil _
  rw [← hevents, render_eq_meaningOfList b (List.forall_mem_singleton.2 h)]
  exact Tree.meaningOfList_singleton_ok ht

/-- The questions put to the backend are those of the evaluation. -/
lemma run_meaningOfList_record (b : Backend) {ts : List Tree} (h : ∀ t ∈ ts, t.Shaped true) :
    (Tree.meaningOfList b.record .flow ts).run.run [] =
      (b.render (Tree.eventsOfList ts), Walk.calls b {} (Tree.eventsOfList ts)) := by
  obtain ⟨s, hs⟩ := traverse_eventsOfList b.record h
  have hrecord := Walk.run_traverse_record b {} (Tree.eventsOfList ts) []
  rw [hs, ExceptT.run_bind, StateT.run_bind, List.nil_append] at hrecord
  rw [render_eq_output]
  rcases hm : (Tree.meaningOfList b.record .flow ts).run.run [] with ⟨r, log⟩
  rw [hm] at hrecord
  cases r with
  | ok t =>
    obtain ⟨hok, hlog⟩ := Prod.mk.inj hrecord
    rw [← hok, ← hlog]
    rfl
  | error err =>
    obtain ⟨herror, hlog⟩ := Prod.mk.inj hrecord
    rw [← herror, ← hlog]
    rfl

/-- **Rendering evaluates a document.** If the tables of a document have their shape, then any
backend renders it as what it means, errors included, and the questions put to the backend are
those of the evaluation, in the same order and with the same answers. -/
theorem render_eventsOfList (b : Backend) {ts : List Tree} (h : ∀ t ∈ ts, t.Shaped true) :
    b.render (Tree.eventsOfList ts) = Tree.meaningOfList b.answer .flow ts ∧
      (Tree.meaningOfList b.record .flow ts).run.run [] =
        (b.render (Tree.eventsOfList ts), Walk.calls b {} (Tree.eventsOfList ts)) :=
  ⟨render_eq_meaningOfList b h, run_meaningOfList_record b h⟩

/-- A quote with a table, a fenced code block and a link. In a body cell of the table stands an
image that holds what looks like a row, and the next cell lies past the last alignment. The code ends
in two newlines, its info string has a second word, and the link has a title and nothing else to
show. -/
def quotedTable : Tree :=
  .node .blockQuote
    [.table [.left] [[.text "a".toList]]
      [[[.node (.image "i".toList []) [.node .tableRow [.leaf (.code "b".toList)]]], []]],
     .node (.codeBlock (some " js x".toList)) [.text "c\n\n".toList],
     .node (.link "u".toList "t".toList) []]

lemma quotedTable_shaped : quotedTable.Shaped true := by
  have hleaf : ∀ (tables : Bool) (s : String), ∀ t ∈ [Tree.text s.toList], t.Shaped tables :=
    fun _ _ => List.forall_mem_singleton.2 (.leaf _)
  have himage : ∀ t ∈ [Tree.node (.image "i".toList [])
      [.node .tableRow [.leaf (.code "b".toList)]]], t.Shaped false :=
    List.forall_mem_singleton.2 (.image _ _ _)
  refine .node rfl (List.forall_mem_cons.2 ⟨.table ?_ ?_, ?_⟩)
  · exact List.forall_mem_singleton.2 (hleaf false "a")
  · exact List.forall_mem_singleton.2 (List.forall_mem_cons.2 ⟨himage, by simp⟩)
  · exact List.forall_mem_cons.2
      ⟨.node rfl (hleaf true "c\n\n"), List.forall_mem_singleton.2 (.node rfl (by simp))⟩

theorem render_quotedTable :
    (∀ t ∈ [quotedTable], t.Shaped true) ∧
      (Wiki.backend {}).render (Tree.eventsOfList [quotedTable]) =
        .ok ("\x7bquote\x7d||a||\n|!i|alt=b!| |\n\x7bcode:collapse=false|language=javascript|" ++
          "linenumbers=false|theme=Confluence\x7d\nc\n\n\x7bcode\x7d\n\n" ++
            "[t|u]\x7bquote\x7d").toList := by
  have hshaped : ∀ t ∈ [quotedTable], t.Shaped true :=
    List.forall_mem_singleton.2 quotedTable_shaped
  refine ⟨hshaped, (render_eventsOfList (Wiki.backend {}) hshaped).1.trans ?_⟩
  decide +kernel

end WikiMarkup
