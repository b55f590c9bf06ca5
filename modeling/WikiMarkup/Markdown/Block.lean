import WikiMarkup.Markdown.Inline
/-!
# Blocks

A Markdown document is a list of blocks. Their inline content is still source: a label in it may be
defined anywhere in the document, so it is read when all definitions are known.
-/

namespace WikiMarkup.Markdown

/-- The content of a paragraph or of a heading. -/
structure Content where
  /-- The box of a task list item that stands in front of it. -/
  task : Option Bool := none
  /-- The inline content. -/
  source : Source

/-- A block of a document. -/
inductive Block where
  | paragraph (content : Content)
  | heading (level : Nat) (content : Content)
  /-- Code with its lines, and the info string of its fence if it has one. -/
  | code (info : Option Text) (lines : List Text)
  /-- HTML with its lines. -/
  | html (lines : List Text)
  | rule
  /-- A table with the alignments of its columns and the cells of its rows. -/
  | table (alignments : List Alignment) (header : List Source) (rows : List (List Source))
  | quote (children : List Block)
  /-- A list with the number of its first item if it is ordered. In a tight list paragraphs are shown
  without space between them. -/
  | list (tight : Bool) (start : Option Nat) (items : List Block)
  | item (children : List Block)
  /-- The box of a task list item with nothing behind it on its line. -/
  | taskBox (checked : Bool)

instance : Inhabited Block := ⟨.rule⟩

/-- The trees of the content of a paragraph or of a heading. -/
def Content.trees (defs : Definitions) (c : Content) : List Tree :=
  (c.task.map fun checked => Tree.leaf (.taskMarker checked)).toList ++ c.source.trees ⟨defs, false⟩

/-- The tree of a table row, or of the header row, with its cells. -/
def rowTree (defs : Definitions) (tag : Tag) (cells : List Source) : Tree :=
  .node tag (cells.map fun cell => .node .tableCell (cell.trees ⟨defs, true⟩))

mutual

/-- The trees of a block. In a tight list the content of a paragraph stands alone. -/
def Block.trees (defs : Definitions) (tight : Bool) : Block → List Tree
  | .paragraph content =>
    if tight then content.trees defs else [.node .paragraph (content.trees defs)]
  | .heading level content => [.node (.heading level) (content.trees defs)]
  | .code info lines => [.node (.codeBlock info) (lines.map Tree.text)]
  | .html lines => [.node .unmarked (lines.map fun l => .leaf (.html l))]
  | .rule => [.leaf .rule]
  | .table alignments header rows =>
    [.node (.table alignments) (rowTree defs .tableHead header :: rows.map (rowTree defs .tableRow))]
  | .quote children => [.node .blockQuote (Block.treesOfList defs false children)]
  | .list tight start items => [.node (.list start) (Block.treesOfList defs tight items)]
  | .item children => [.node .item (Block.treesOfList defs tight children)]
  | .taskBox checked => [.leaf (.taskMarker checked)]

/-- The trees of blocks, in order. -/
def Block.treesOfList (defs : Definitions) (tight : Bool) : List Block → List Tree
  | [] => []
  | b :: bs => b.trees defs tight ++ Block.treesOfList defs tight bs

end

end WikiMarkup.Markdown
