import WikiMarkup.Document.Tree
/-!
# The shape of tables

A reader of Markdown gives every table in one shape: the header row with its cells, and then any
number of body rows with theirs. A cell holds no table. `Tree.Shaped` says that the tables of a tree
have this shape. What stands inside an image is not looked at, for there every construct is plain.
-/

namespace WikiMarkup

/-- A table or a part of one. -/
def Tag.isTablePart : Tag → Bool
  | .table _ | .tableHead | .tableRow | .tableCell => true
  | _ => false

namespace Tree

/-- What holds of every leaf, and of every construct if it holds of each of its children, holds of
every tree. -/
@[elab_as_elim]
theorem inductionOnChildren {motive : Tree → Prop} (leaf : ∀ l, motive (.leaf l))
    (node : ∀ tag ts, (∀ t ∈ ts, motive t) → motive (.node tag ts)) (t : Tree) : motive t := by
  refine @Tree.rec motive (fun ts => ∀ t ∈ ts, motive t) leaf node ?_ ?_ t
  · intro u hu
    cases hu
  · intro t ts iht ihts u hu
    rcases List.mem_cons.1 hu with rfl | hu
    · exact iht
    · exact ihts u hu

/-- A row of a table from what its cells hold. -/
def row (tag : Tag) (cells : List (List Tree)) : Tree := .node tag (cells.map (.node .tableCell))

/-- A table in its shape, from what the cells of its header row and of its body rows hold. -/
def table (alignments : List Alignment) (header : List (List Tree))
    (rows : List (List (List Tree))) : Tree :=
  .node (.table alignments) (row .tableHead header :: rows.map (row .tableRow))

/-- A tree whose tables outside images have their shape. If `tables` is `false`, no table and no
part of one stands outside images. -/
inductive Shaped : (tables : Bool) → Tree → Prop
  | leaf {tables : Bool} (l : Leaf) : Shaped tables (.leaf l)
  | image {tables : Bool} (href title : Text) (ts : List Tree) :
      Shaped tables (.node (.image href title) ts)
  | node {tables : Bool} {tag : Tag} {ts : List Tree} (hpart : tag.isTablePart = false)
      (hts : ∀ t ∈ ts, Shaped tables t) : Shaped tables (.node tag ts)
  | table {alignments : List Alignment} {header : List (List Tree)}
      {rows : List (List (List Tree))}
      (hheader : ∀ cell ∈ header, ∀ t ∈ cell, Shaped false t)
      (hrows : ∀ cells ∈ rows, ∀ cell ∈ cells, ∀ t ∈ cell, Shaped false t) :
      Shaped true (Tree.table alignments header rows)

/-- A tree without tables has all its tables in their shape. -/
theorem Shaped.toTrue {tables : Bool} {t : Tree} (h : t.Shaped tables) : t.Shaped true := by
  induction h with
  | leaf l => exact .leaf l
  | image href title ts => exact .image href title ts
  | node hpart _ ih => exact .node hpart ih
  | table hheader hrows => exact .table hheader hrows

end Tree

end WikiMarkup
