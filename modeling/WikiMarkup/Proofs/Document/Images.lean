import WikiMarkup.Document.Event
/-!
# Inside and outside of images

Whether an event stands inside an image is a matter of the events before it alone: of the tags that
are still open then, where an end closes whatever was opened last, some are images or none is. The
definitions below say so for any sequence of events, balanced or not, and know nothing of rendering.
-/

namespace WikiMarkup

/-- An image rather than any other tag. -/
def Tag.isImage : Tag → Bool
  | .image _ _ => true
  | _ => false

/-- A table as a whole rather than any other tag. -/
def Tag.isTable : Tag → Bool
  | .table _ => true
  | _ => false

/-- A row of a table, be it the header row or one of the body. -/
def Tag.isRow : Tag → Bool
  | .tableHead | .tableRow => true
  | _ => false

/-- Among the open tags, the innermost one first, is some image. -/
def inOpenImage (opened : List Tag) : Bool := opened.any Tag.isImage

/-- The tags that are open behind an event, if those of `opened` are open before it. -/
def Event.opened (opened : List Tag) : Event → List Tag
  | .start tag => tag :: opened
  | .finish => opened.tail
  | .leaf _ => opened

/-- The tags that are open behind some events, if those of `opened` are open before them. -/
def openedBehind (opened : List Tag) (es : List Event) : List Tag := es.foldl Event.opened opened

/-- The tag that an event starts, if it does so outside images. -/
def Event.outerStart? (opened : List Tag) : Event → Option Tag
  | .start tag => if inOpenImage opened then none else some tag
  | _ => none

/-- The tags that start outside images, in the order of the events, if the tags of `opened` are open
before the first of them. -/
def startsOutsideImages (opened : List Tag) : List Event → List Tag
  | [] => []
  | e :: es => (e.outerStart? opened).toList ++ startsOutsideImages (e.opened opened) es

/-- Cells begin only behind the beginning of a table. What stands in images does not count. -/
def CellsFollowTables (starts : List Tag) : Prop :=
  .tableCell ∉ starts.takeWhile fun tag => !tag.isTable

instance (starts : List Tag) : Decidable (CellsFollowTables starts) :=
  inferInstanceAs (Decidable (_ ∉ _))

/-- Some events begin with the beginning of a cell, if there are any. -/
def BeginWithCell (es : List Event) : Prop := ∀ e ∈ es.head?, e = .start .tableCell

instance (es : List Event) : Decidable (BeginWithCell es) :=
  inferInstanceAs (Decidable (∀ e ∈ es.head?, e = .start .tableCell))

/-- Directly behind the beginning of each row outside images a cell begins, if the tags of `opened`
are open before the events. -/
def RowsBeginWithCells (opened : List Tag) : List Event → Prop
  | [] => True
  | e :: es =>
    (∀ tag ∈ e.outerStart? opened, tag.isRow = true → BeginWithCell es) ∧
      RowsBeginWithCells (e.opened opened) es

instance RowsBeginWithCells.decidable (opened : List Tag) :
    ∀ es, Decidable (RowsBeginWithCells opened es)
  | [] => isTrue trivial
  | e :: es =>
    have := RowsBeginWithCells.decidable (e.opened opened) es
    inferInstanceAs (Decidable
      ((∀ tag ∈ e.outerStart? opened, tag.isRow = true → BeginWithCell es) ∧ _))

end WikiMarkup
