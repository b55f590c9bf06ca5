import WikiMarkup.Document.Event
import WikiMarkup.Text.Quoted
/-!
# Backends

A backend says what each construct of a document looks like in some output format. It is asked once
for each construct, when the construct is closed, and by then all that the construct holds has
already been rendered. Only the rendering of a table row can fail.
-/

namespace WikiMarkup

/-- A reason why a document cannot be rendered. -/
inductive RenderError where
  /-- A table row without any delimiter of cells. -/
  | malformedTableRow (row : Text)
deriving DecidableEq, Repr

/-- What is said of a document that cannot be rendered. -/
def RenderError.message : RenderError → Text
  | .malformedTableRow row =>
    "table row expects at least one '|' in its cells: ".toList ++ row.quoted

/-- The output of each construct. -/
structure Backend where
  /-- A paragraph with its content. -/
  paragraph : Text → Text
  /-- A heading with its content and its level. -/
  heading : Text → Nat → Text
  /-- Strong text. -/
  strong : Text → Text
  /-- Emphasized text. -/
  emphasis : Text → Text
  /-- Struck-through text. -/
  strikethrough : Text → Text
  /-- A code span. -/
  codeSpan : Text → Text
  /-- A block quote with its content. -/
  blockQuote : Text → Text
  /-- A hard line break. -/
  lineBreak : Text
  /-- A horizontal rule. -/
  horizontalRule : Text
  /-- A link with its target, its title and its content, which may be empty. -/
  link : Text → Option Text → Text → Text
  /-- A list with its items, whether it is ordered, and its first number. -/
  list : Text → Bool → Option Nat → Text
  /-- An item of a list. -/
  listItem : Text → Text
  /-- The box of a task list item. -/
  checkbox : Bool → Text
  /-- An image with its source, its title and its plain description. -/
  image : Text → Option Text → Text → Text
  /-- A table with its header row and its body rows. -/
  table : Text → Text → Text
  /-- A table row with its cells. -/
  tableRow : Text → Except RenderError Text
  /-- A table cell with its content, whether it stands in the header row, and its alignment. -/
  tableCell : Text → Bool → Alignment → Text
  /-- A code block with its code and the hint at its language. -/
  codeBlock : Text → Option Text → Text
  /-- Plain text. -/
  text : Text → Text := id
  /-- A soft line break. -/
  softBreak : Text := ['\n']
  /-- HTML as a block. -/
  html : Text → Text := id
  /-- HTML between other text. -/
  inlineHtml : Text → Text := html

/-- A question to a backend. -/
inductive Call where
  | paragraph (content : Text)
  | heading (content : Text) (level : Nat)
  | strong (content : Text)
  | emphasis (content : Text)
  | strikethrough (content : Text)
  | codeSpan (code : Text)
  | blockQuote (content : Text)
  | lineBreak
  | horizontalRule
  | link (href : Text) (title : Option Text) (content : Text)
  | list (body : Text) (ordered : Bool) (start : Option Nat)
  | listItem (body : Text)
  | checkbox (checked : Bool)
  | image (href : Text) (title : Option Text) (alt : Text)
  | table (header body : Text)
  | tableRow (content : Text)
  | tableCell (content : Text) (header : Bool) (alignment : Alignment)
  | codeBlock (code : Text) (hint : Option Text)
  | text (t : Text)
  | softBreak
  | html (t : Text)
  | inlineHtml (t : Text)
deriving DecidableEq, Repr

/-- What a backend answers to a question. -/
def Backend.answer (b : Backend) : Call → Except RenderError Text
  | .paragraph content => .ok (b.paragraph content)
  | .heading content level => .ok (b.heading content level)
  | .strong content => .ok (b.strong content)
  | .emphasis content => .ok (b.emphasis content)
  | .strikethrough content => .ok (b.strikethrough content)
  | .codeSpan code => .ok (b.codeSpan code)
  | .blockQuote content => .ok (b.blockQuote content)
  | .lineBreak => .ok b.lineBreak
  | .horizontalRule => .ok b.horizontalRule
  | .link href title content => .ok (b.link href title content)
  | .list body ordered start => .ok (b.list body ordered start)
  | .listItem body => .ok (b.listItem body)
  | .checkbox checked => .ok (b.checkbox checked)
  | .image href title alt => .ok (b.image href title alt)
  | .table header body => .ok (b.table header body)
  | .tableRow content => b.tableRow content
  | .tableCell content header alignment => .ok (b.tableCell content header alignment)
  | .codeBlock code hint => .ok (b.codeBlock code hint)
  | .text t => .ok (b.text t)
  | .softBreak => .ok b.softBreak
  | .html t => .ok (b.html t)
  | .inlineHtml t => .ok (b.inlineHtml t)

end WikiMarkup
