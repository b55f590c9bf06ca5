import WikiMarkup.Markdown.Block
import WikiMarkup.Markdown.Cursor
/-!
# Containers

Quotes, lists and list items hold other blocks. While a document is read the open containers form a
stack, and each line shows by its first marks how many of them go on: a quote by an angle bracket, a list
item by its indentation. A list goes on as long as its items do or a next one begins.
-/

namespace WikiMarkup.Markdown

/-- A container that is open. -/
inductive Container where
  | quote
  /-- A list: whether it is tight so far, the character of its markers, and its first number. -/
  | list (tight : Bool) (marker : Char) (start : Option Nat)
  /-- A list item with the indentation of its content. -/
  | item (indent : Nat)
deriving DecidableEq, Repr

/-- An open container with the blocks it holds so far, the last one first. -/
structure Frame where
  /-- The container. -/
  container : Container
  /-- Its blocks. -/
  children : List Block := []

/-- The block that a container becomes when it is closed. -/
def Frame.block (f : Frame) : Block :=
  match f.container with
  | .quote => .quote f.children.reverse
  | .list tight _ start => .list tight start f.children.reverse
  | .item _ => .item f.children.reverse

/-- What follows the mark by which a line shows that a container goes on. -/
def Container.continued? (s : Cursor) : Container → Option Cursor
  | .quote =>
    let s' := s.skipUpTo 3
    if s'.rest.head? = some '>' then some (s'.skipChar.skipUpTo 1) else none
  | .list _ _ _ => some s
  | .item indent =>
    let s' := s.skipUpTo indent
    if s.indent indent = indent ∨ s'.atEnd then some s' else none

/-- The number of containers that a line goes on with, the outermost one first, and what follows their
marks. -/
def continuedContainers : List Container → Cursor → Nat × Cursor
  | [], s => (0, s)
  | c :: cs, s =>
    match c.continued? s with
    | some s' =>
      let (n, s'') := continuedContainers cs s'
      (n + 1, s'')
    | none => (0, s)

end WikiMarkup.Markdown
