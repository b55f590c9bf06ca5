import WikiMarkup.Text.Basic
/-!
# Events of a document

A document is a sequence of events: constructs start and end, and between a start and its end stand
the events of what the construct holds. An end carries no tag; it closes whatever was opened last.
-/

namespace WikiMarkup

/-- How the cells of a table column are aligned. -/
inductive Alignment where
  | unspecified
  | left
  | center
  | right
deriving DecidableEq, Repr, Inhabited

/-- A construct of a document with its attributes. -/
inductive Tag where
  | paragraph
  /-- A heading with its level. -/
  | heading (level : Nat)
  | blockQuote
  /-- A code block, with its info string if it is fenced. -/
  | codeBlock (info : Option Text)
  /-- A list, with the number of its first item if it is ordered. -/
  | list (start : Option Nat)
  | item
  /-- A table with the alignments of its columns. -/
  | table (alignments : List Alignment)
  | tableHead
  | tableRow
  | tableCell
  | emphasis
  | strong
  | strikethrough
  /-- A link with its target and its title, which may be empty. -/
  | link (href title : Text)
  /-- An image with its source and its title, which may be empty. -/
  | image (href title : Text)
  /-- A construct without markup of its own. -/
  | unmarked
deriving DecidableEq, Repr

/-- A part of a document that holds nothing else. -/
inductive Leaf where
  | text (t : Text)
  /-- A code span. -/
  | code (t : Text)
  /-- A line of an HTML block. -/
  | html (t : Text)
  /-- A piece of HTML between other text. -/
  | inlineHtml (t : Text)
  /-- A line break that only the source shows. -/
  | softBreak
  /-- A line break that the reader is meant to see. -/
  | hardBreak
  /-- A horizontal rule. -/
  | rule
  /-- The box of a task list item. -/
  | taskMarker (checked : Bool)
  /-- A part that has no markup at all. -/
  | unsupported
deriving DecidableEq, Repr

/-- One event of a document. -/
inductive Event where
  /-- A construct begins. -/
  | start (tag : Tag)
  /-- The construct opened last ends. -/
  | finish
  /-- A part without parts of its own. -/
  | leaf (leaf : Leaf)
deriving DecidableEq, Repr

end WikiMarkup
