import WikiMarkup.Backend
import WikiMarkup.Language
/-!
# Rendering a sequence of events

`Walk` is the state of a walk over the events of a document: the output so far, the constructs that
are open, each with the output of what it already holds, and the place inside a table. Each event
changes the state and asks for one piece of output (`Walk.accept`), which then goes to the innermost
open construct (`Walk.deliver`).

The description of an image is plain: inside an image every construct is opened as one without
markup, so only the text of what it holds remains.

The sequence may be unbalanced. An end with nothing open does nothing, and what is still open at the
end of the sequence is dropped.
-/

namespace WikiMarkup

/-- A construct that is open, with what its rendering will need. -/
inductive Construct where
  | paragraph
  | heading (level : Nat)
  | blockQuote
  | codeBlock (hint : Option Text)
  | list (start : Option Nat)
  | item
  /-- A table with its rendered header row. -/
  | table (header : Text)
  | tableHead
  | tableRow
  | tableCell (header : Bool) (alignment : Alignment)
  | emphasis
  | strong
  | strikethrough
  | link (href : Text) (title : Option Text)
  | image (href : Text) (title : Option Text)
  | unmarked
deriving DecidableEq, Repr

/-- An image rather than any other construct. -/
def Construct.isImage : Construct → Bool
  | .image _ _ => true
  | _ => false

/-- An open construct and the output of what it holds so far. -/
structure Node where
  /-- The construct. -/
  construct : Construct
  /-- The output of its children. -/
  content : Text := []
deriving DecidableEq, Repr

/-- The place inside a table. -/
structure TableState where
  /-- Whether the header row is open. -/
  inHead : Bool := false
  /-- The alignments of the columns. -/
  alignments : List Alignment := []
  /-- The column of the next cell, counted from zero. -/
  column : Nat := 0
deriving DecidableEq, Repr, Inhabited

/-- The alignment of the column of the next cell. -/
def TableState.alignment (s : TableState) : Alignment :=
  (s.alignments[s.column]?).getD .unspecified

/-- The state of a walk over the events of a document. -/
structure Walk where
  /-- The output outside all open constructs. -/
  output : Text := []
  /-- The open constructs, the innermost one first. -/
  openNodes : List Node := []
  /-- The number of open images. -/
  images : Nat := 0
  /-- The place inside a table. -/
  table : TableState := {}
deriving DecidableEq, Repr, Inhabited

/-- A piece of output that an event asks for. -/
inductive Request where
  /-- The given text. -/
  | verbatim (t : Text)
  /-- The answer of the backend to a question. -/
  | call (c : Call)
  /-- The answer for the header row of a table, which a table keeps apart from its body. -/
  | headerRow (cells : Text)
deriving DecidableEq, Repr

/-- The question that a request puts to the backend, if there is one. -/
def Request.call? : Request → Option Call
  | .verbatim _ => none
  | .call c => some c
  | .headerRow cells => some (.tableRow cells)

/-- The piece of output that a request asks for. -/
def Request.answer (b : Backend) : Request → Except RenderError Text
  | .verbatim t => .ok t
  | .call c => b.answer c
  | .headerRow cells => b.tableRow cells

/-- An attribute that may be empty, as one that may be absent. -/
def nonempty? : Text → Option Text
  | [] => none
  | t => some t

namespace Walk

/-- Some image is open. -/
def inImage (w : Walk) : Bool := 0 < w.images

/-- The innermost open construct is a code block. -/
def inCodeBlock (w : Walk) : Bool :=
  match w.openNodes with
  | ⟨.codeBlock _, _⟩ :: _ => true
  | _ => false

/-- Opens a construct. -/
def push (w : Walk) (c : Construct) : Walk :=
  { w with
    openNodes := ⟨c, []⟩ :: w.openNodes
    images := if c.isImage then w.images + 1 else w.images }

/-- Appends output to the innermost open construct. -/
def append (w : Walk) (t : Text) : Walk :=
  match w.openNodes with
  | [] => { w with output := w.output ++ t }
  | node :: rest => { w with openNodes := { node with content := node.content ++ t } :: rest }

/-- Appends a header row: to the header of the innermost open construct, if that is a table. -/
def appendHeader (w : Walk) (t : Text) : Walk :=
  match w.openNodes with
  | ⟨.table header, content⟩ :: rest =>
    { w with openNodes := ⟨.table (header ++ t), content⟩ :: rest }
  | _ => w.append t

/-- Opens the construct of a tag. A table part also moves the place inside the table. -/
def start (w : Walk) (tag : Tag) : Walk :=
  if w.inImage then w.push .unmarked
  else
    match tag with
    | .paragraph => w.push .paragraph
    | .heading level => w.push (.heading level)
    | .blockQuote => w.push .blockQuote
    | .codeBlock info => w.push (.codeBlock (info.bind Language.hintOfInfo?))
    | .list first => w.push (.list first)
    | .item => w.push .item
    | .table alignments => { w with table := ⟨false, alignments, 0⟩ }.push (.table [])
    | .tableHead =>
      { w with table := { w.table with inHead := true, column := 0 } }.push .tableHead
    | .tableRow => { w with table := { w.table with column := 0 } }.push .tableRow
    | .tableCell => w.push (.tableCell w.table.inHead w.table.alignment)
    | .emphasis => w.push .emphasis
    | .strong => w.push .strong
    | .strikethrough => w.push .strikethrough
    | .link href title => w.push (.link href (nonempty? title))
    | .image href title => w.push (.image href (nonempty? title))
    | .unmarked => w.push .unmarked

/-- What the end of a construct asks for. A code block loses the newline before its closing
fence. -/
def closing (node : Node) : Request :=
  match node.construct with
  | .paragraph => .call (.paragraph node.content)
  | .heading level => .call (.heading node.content level)
  | .blockQuote => .call (.blockQuote node.content)
  | .codeBlock hint => .call (.codeBlock (node.content.withoutFinal '\n') hint)
  | .list first => .call (.list node.content first.isSome first)
  | .item => .call (.listItem node.content)
  | .table header => .call (.table header node.content)
  | .tableHead => .headerRow node.content
  | .tableRow => .call (.tableRow node.content)
  | .tableCell header alignment => .call (.tableCell node.content header alignment)
  | .emphasis => .call (.emphasis node.content)
  | .strong => .call (.strong node.content)
  | .strikethrough => .call (.strikethrough node.content)
  | .link href title => .call (.link href title node.content)
  | .image href title => .call (.image href title node.content)
  | .unmarked => .verbatim node.content

/-- The place inside a table after the end of a construct. -/
def tableAfter (s : TableState) : Construct → TableState
  | .tableHead => { s with inHead := false }
  | .tableCell _ _ => { s with column := s.column + 1 }
  | _ => s

/-- Closes the innermost open construct. -/
def finish (w : Walk) : Walk × Request :=
  match w.openNodes with
  | [] => (w, .verbatim [])
  | node :: rest =>
    ({ w with
        openNodes := rest
        images := if node.construct.isImage then w.images - 1 else w.images
        table := tableAfter w.table node.construct },
      closing node)

/-- What a part without parts of its own asks for. Text inside a code block or an image, and code
inside an image, is taken as it stands. -/
def requestOf (w : Walk) : Leaf → Request
  | .text t => if w.inCodeBlock || w.inImage then .verbatim t else .call (.text t)
  | .code t => if w.inImage then .verbatim t else .call (.codeSpan t)
  | .html t => .call (.html t)
  | .inlineHtml t => .call (.inlineHtml t)
  | .softBreak => .call .softBreak
  | .hardBreak => .call .lineBreak
  | .rule => .call .horizontalRule
  | .taskMarker checked => .call (.checkbox checked)
  | .unsupported => .verbatim []

/-- The state after an event and the piece of output that the event asks for. -/
def accept (w : Walk) : Event → Walk × Request
  | .start tag => (w.start tag, .verbatim [])
  | .finish => w.finish
  | .leaf l => (w, w.requestOf l)

/-- Puts the answer to a request in its place. -/
def deliver (w : Walk) (request : Request) (t : Text) : Walk :=
  match request with
  | .headerRow _ => w.appendHeader t
  | _ => w.append t

/-- Walks over a sequence of events. The first error ends the walk; the state is then the one in
which the walk stopped. -/
def run (b : Backend) (w : Walk) : List Event → Walk × Except RenderError Unit
  | [] => (w, .ok ())
  | e :: es =>
    match (w.accept e).2.answer b with
    | .ok t => run b ((w.accept e).1.deliver (w.accept e).2 t) es
    | .error err => ((w.accept e).1, .error err)

/-- The questions that a walk over a sequence of events puts to the backend, with the answers. -/
def calls (b : Backend) (w : Walk) : List Event → List (Call × Except RenderError Text)
  | [] => []
  | e :: es =>
    let asked :=
      match (w.accept e).2.call? with
      | some c => [(c, b.answer c)]
      | none => []
    match (w.accept e).2.answer b with
    | .ok t => asked ++ calls b ((w.accept e).1.deliver (w.accept e).2 t) es
    | .error _ => asked

/-- The state for the next document. Only the place inside a table outlasts a document. -/
def restart (w : Walk) : Walk := { table := w.table }

/-- Renders a document, and gives the state in which the next document finds the walk. -/
def render (b : Backend) (w : Walk) (events : List Event) : Except RenderError Text × Walk :=
  match w.restart.run b events with
  | (w', .ok ()) => (.ok w'.output, w')
  | (w', .error err) => (.error err, w')

end Walk

/-- Renders a document. -/
def Backend.render (b : Backend) (events : List Event) : Except RenderError Text :=
  (Walk.render b {} events).1

end WikiMarkup
