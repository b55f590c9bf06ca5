import WikiMarkup.Proofs.Render.Evaluation
import WikiMarkup.Proofs.Render.OpenTags
/-!
# One walk for many documents

A walk that has rendered some documents renders the next one as a new walk would. Only the place
inside a table outlasts a document, whatever the document was: unbalanced, left in the middle of a
table, or ended by an error. That place is read when a cell begins and at no other event, and a
table overwrites all of it when it begins. So nothing of the earlier documents can be seen, unless
cells of the next document begin before any table does (`render_afterDocuments`).

Two walks that differ in nothing but the place inside a table ask the same questions up to the first
table (`Walk.accept_withTable`), and behind its beginning they are one walk. Images are the
exception on the way: inside them tags count for nothing, tables and cells among them. For this the
walk's count of open images is tied to the open tags (`Walk.Tracks`).
-/

namespace WikiMarkup

/-- Up to the first table outside images no cell begins there. -/
lemma CellsFollowTables.of_cons {opened : List Tag} {e : Event} {es : List Event}
    (h : CellsFollowTables (startsOutsideImages opened (e :: es)))
    (htable : ∀ alignments, e.outerStart? opened ≠ some (.table alignments)) :
    e.outerStart? opened ≠ some .tableCell ∧
      CellsFollowTables (startsOutsideImages (e.opened opened) es) := by
  rw [startsOutsideImages] at h
  cases he : e.outerStart? opened with
  | none =>
    rw [he] at h
    exact ⟨by simp, h⟩
  | some tag =>
    have htag : tag.isTable = false := by
      cases tag with
      | table alignments => exact absurd he (htable alignments)
      | _ => rfl
    rw [he, Option.toList_some, List.singleton_append, CellsFollowTables, List.takeWhile_cons,
      htag] at h
    simpa [CellsFollowTables, eq_comm] using h

namespace Walk

/-! ### Walks that differ in the place inside a table -/

section

variable {w : Walk} {opened : List Tag} (hw : w.Tracks opened)

include hw

lemma images_withTable_of_out (hout : inOpenImage opened = false) (s : TableState) :
    (w.withTable s).images = 0 := by
  rw [images_withTable, hw.images_eq, hout]
  rfl

/-- A table that begins outside images sets the place inside a table anew. -/
lemma accept_table {alignments : List Alignment}
    {e : Event} (he : e.outerStart? opened = some (.table alignments)) (s s' : TableState) :
    (w.withTable s).accept e = (w.withTable s').accept e := by
  cases e with
  | leaf l => cases he
  | finish => cases he
  | start tag =>
    rw [Event.outerStart?] at he
    split at he
    · cases he
    · rename_i hout
      have hzero := images_withTable_of_out hw (by simpa using hout)
      obtain rfl := Option.some.inj he
      rw [accept, accept, start_table (hzero s), start_table (hzero s'), withTable_withTable,
        withTable_withTable]

omit hw in
lemma start_withTable (hzero : ∀ s, (w.withTable s).images = 0) {tag : Tag}
    (htag : tag.isTablePart = false) (s : TableState) :
    (w.withTable s).start tag = (w.start tag).withTable s := by
  have himage : w.inImage = false := inImage_of_images (hzero w.table)
  cases tag with
  | table | tableHead | tableRow | tableCell => cases htag
  | _ =>
    simp only [start, inImage_of_images (hzero s), himage]
    rfl

/-- Only the beginning of a cell outside images depends on the place inside a table. Any other event
asks for the same wherever that place is, and nothing else of the walk is changed by it. -/
lemma accept_withTable {e : Event} (hcell : e.outerStart? opened ≠ some .tableCell) :
    ∃ (v : Walk) (r : Request) (f : TableState → TableState),
      ∀ s, (w.withTable s).accept e = (v.withTable (f s), r) := by
  cases e with
  | leaf l => exact ⟨w, w.requestOf l, id, fun s => rfl⟩
  | finish =>
    cases hopen : w.openNodes with
    | nil =>
      refine ⟨w, .verbatim [], id, fun s => ?_⟩
      simp [accept, finish, Walk.withTable, hopen]
    | cons node rest =>
      refine ⟨w.finish.1, closing node, fun s => tableAfter s node.construct, fun s => ?_⟩
      simp [accept, finish, Walk.withTable, hopen]
  | start tag =>
    cases hout : inOpenImage opened with
    | true =>
      have himage : ∀ s, (w.withTable s).place = .image := by
        intro s
        rw [place_eq_image_iff, images_withTable, hw.images_eq, hout]
        simp
      refine ⟨w.push .unmarked, .verbatim [], id, fun s => ?_⟩
      rw [accept, start_of_image (himage s)]
      rfl
    | false =>
      have hzero := images_withTable_of_out hw hout
      cases tag with
      | table alignments =>
        refine ⟨w.push (.table []), .verbatim [], fun _ => ⟨false, alignments, 0⟩, fun s => ?_⟩
        rw [accept, start_table (hzero s)]
        rfl
      | tableHead =>
        refine ⟨w.push .tableHead, .verbatim [], fun s => ⟨true, s.alignments, 0⟩, fun s => ?_⟩
        rw [accept, start_tableHead (hzero s)]
        rfl
      | tableRow =>
        refine ⟨w.push .tableRow, .verbatim [], fun s => ⟨s.inHead, s.alignments, 0⟩,
          fun s => ?_⟩
        rw [accept, start_tableRow (hzero s)]
        rfl
      | tableCell =>
        refine absurd ?_ hcell
        simp [Event.outerStart?, hout]
      | _ => exact ⟨_, .verbatim [], id, fun s => congrArg (·, _) (start_withTable hzero rfl s)⟩

end

lemma deliver_withTable (w : Walk) (s : TableState) (r : Request) (t : Text) :
    (w.withTable s).deliver r t = (w.deliver r t).withTable s := by
  have hheader : (w.withTable s).appendHeader t = (w.appendHeader t).withTable s := by
    obtain ⟨output, _ | ⟨⟨c, content⟩, rest⟩, images, table⟩ := w
    · rfl
    · cases c <;> rfl
  cases r with
  | headerRow cells => exact hheader
  | _ => exact append_withTable w s t

variable {m : Type → Type} [Monad m] [LawfulMonad m] (ask : Call → m Text)

/-- Where no cell begins before a table, the place inside a table in which a walk begins makes no
difference to its output, nor to the questions on the way. -/
lemma map_output_traverse_withTable {w : Walk} {opened : List Tag} (hw : w.Tracks opened)
    {es : List Event} (h : CellsFollowTables (startsOutsideImages opened es)) (s s' : TableState) :
    output <$> (w.withTable s).traverse ask es = output <$> (w.withTable s').traverse ask es := by
  induction es generalizing w opened s s' with
  | nil =>
    rw [traverse, traverse, map_pure, map_pure]
    rfl
  | cons e es ih =>
    by_cases htable : ∃ alignments, e.outerStart? opened = some (.table alignments)
    · obtain ⟨alignments, he⟩ := htable
      rw [traverse, traverse, accept_table hw he s s']
    · obtain ⟨hcell, hrest⟩ := h.of_cons (not_exists.1 htable)
      obtain ⟨v, r, f, hv⟩ := accept_withTable hw hcell
      have htracks : v.Tracks (e.opened opened) := by
        have haccept := (hw.withTable {}).accept e
        rw [hv] at haccept
        exact haccept.withTable v.table
      rw [traverse, traverse, hv, hv, map_bind, map_bind]
      refine bind_congr fun t => ?_
      rw [deliver_withTable, deliver_withTable]
      exact ih (htracks.deliver r t) hrest (f s) (f s')

/-- What a walk renders and asks does not depend on the documents behind it. -/
lemma render_restart (b : Backend) (w : Walk) {es : List Event}
    (h : CellsFollowTables (startsOutsideImages [] es)) :
    (w.render b es).1 = b.render es ∧ w.restart.calls b es = Walk.calls b {} es := by
  have hnew : Tracks {} [] := ⟨rfl, rfl⟩
  have hmap : output <$> w.restart.traverse b.record es =
      output <$> Walk.traverse b.record {} es :=
    map_output_traverse_withTable b.record hnew h w.table {}
  have hrun : ∀ v : Walk, (output <$> v.traverse b.record es).run.run [] =
      ((v.traverse b.answer es).map output, v.calls b es) := by
    intro v
    rw [ExceptT.run_map, StateT.run_map, run_traverse_record]
    rfl
  have hboth := congrArg (fun x => x.run.run []) hmap
  simp only [hrun] at hboth
  obtain ⟨houtput, hcalls⟩ := Prod.mk.inj hboth
  rw [render_fst, render_eq_output]
  exact ⟨houtput, hcalls⟩

/-- The walk behind several documents that it has rendered in turn. -/
def afterDocuments (b : Backend) (documents : List (List Event)) : Walk :=
  documents.foldl (fun w es => (w.render b es).2) {}

/-- **One walk for many documents.** Whatever documents a walk has rendered before, it renders the
next one as a new walk does: the document or the error is the same, and so are the questions put to
the backend with their answers. In the next document no cell may begin before a table does, images
apart. -/
theorem render_afterDocuments (b : Backend) (documents : List (List Event)) {es : List Event}
    (h : CellsFollowTables (startsOutsideImages [] es)) :
    ((afterDocuments b documents).render b es).1 = b.render es ∧
      (afterDocuments b documents).restart.calls b es = Walk.calls b {} es :=
  render_restart b _ h

/-- A document that ends within the header row of a table, and one that ends with an error. -/
def brokenDocuments : List (List Event) :=
  [[.start (.table [.left]), .start .tableHead, .start .tableCell], [.start .tableRow, .finish]]

/-- A cell inside an image, a row outside of any table, and then a table. -/
def lateTable : List Event :=
  [.start (.image "i".toList []), .start .tableCell, .finish, .finish,
    .start .tableRow, .leaf (.text "|".toList), .finish,
    .start (.table [.right]), .start .tableRow, .start .tableCell, .finish, .finish, .finish]

/-- Behind the broken documents the header row still counts as open, and yet the cell of the next
document is one of a body row. -/
theorem render_lateTable_after_brokenDocuments :
    (afterDocuments (Wiki.backend {}) brokenDocuments).table = ⟨true, [.left], 0⟩ ∧
      CellsFollowTables (startsOutsideImages [] lateTable) ∧
      ((afterDocuments (Wiki.backend {}) brokenDocuments).render (Wiki.backend {}) lateTable).1 =
        .ok "!i!||\n\n| |\n".toList := by
  have hcells : CellsFollowTables (startsOutsideImages [] lateTable) := by decide
  refine ⟨rfl, hcells, (render_afterDocuments _ brokenDocuments hcells).1.trans ?_⟩
  rfl

end Walk

end WikiMarkup
