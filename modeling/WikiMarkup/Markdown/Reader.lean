import WikiMarkup.Markdown.Container
import WikiMarkup.Markdown.Table
/-!
# Reading a document

A document is read line by line (`Reader.step`). A line first goes to the block that is open; if it does
not belong there, the block is closed and the line begins a new one (`Reader.startBlock`). Where a block
depends on the next line, as the header of a table does, the reader looks ahead and leaves out the lines
that it has used.
-/

namespace WikiMarkup.Markdown

/-- A block that holds no other blocks and is still open. Its lines are kept with the last one first. -/
inductive LeafBlock where
  | paragraph (task : Option Bool) (lines : List ContentLine)
  /-- Code in fences: the fence, its indentation and its info string. -/
  | fenced (fence : Fence) (indent : Nat) (info : Text) (lines : List Text)
  /-- Code by indentation. -/
  | indented (lines : List Text)
  | html (ending : HtmlEnd) (lines : List Text)
  | table (alignments : List Alignment) (header : List Source) (rows : List (List Source))

/-- The block that an open leaf becomes when it is closed. Indented code loses its last blank lines. -/
def LeafBlock.block : LeafBlock → Block
  | .paragraph task lines => .paragraph ⟨task, .ofLines lines.reverse⟩
  | .fenced _ _ info lines => .code (some info) lines.reverse
  | .indented lines => .code none (lines.dropWhile (·.all Text.isSpace)).reverse
  | .html _ lines => .html lines.reverse
  | .table alignments header rows => .table alignments header rows.reverse

/-- The state of reading a document. -/
structure Reader where
  /-- The blocks outside all open containers, the last one first. -/
  root : List Block := []
  /-- The open containers, the innermost one first. -/
  frames : List Frame := []
  /-- The open leaf. -/
  leaf : Option LeafBlock := none
  /-- The last line was blank. -/
  lastLineBlank : Bool := false
  /-- The innermost list item has begun with a line that holds nothing but its marker. -/
  emptyItem : Bool := false
  /-- A box of a task list item that waits for its paragraph. -/
  task : Option Bool := none
  /-- The targets that labels refer to. -/
  definitions : Definitions := []
  /-- The number of lines that have already been used. -/
  skip : Nat := 0

namespace Reader

/-! ### Opening and closing -/

/-- Appends a block to the innermost container. -/
def append (r : Reader) (b : Block) : Reader :=
  match r.frames with
  | [] => { r with root := b :: r.root }
  | f :: fs => { r with frames := { f with children := b :: f.children } :: fs }

/-- Opens a container. -/
def push (r : Reader) (c : Container) : Reader := { r with frames := ⟨c, []⟩ :: r.frames }

/-- Closes the innermost container. -/
def pop (r : Reader) : Reader :=
  match r.frames with
  | [] => r
  | f :: fs =>
    let r := { r with frames := fs }.append f.block
    match f.container with
    | .list true _ _ => { r with emptyItem := false }
    | _ => r

/-- Closes the innermost containers, so many of them. -/
def popMany : Nat → Reader → Reader
  | 0, r => r
  | n + 1, r => popMany n r.pop

/-- Closes the open leaf. -/
def closeLeaf (r : Reader) : Reader :=
  match r.leaf with
  | none => r
  | some l => { r with leaf := none }.append l.block

/-- The open containers, the outermost one first. -/
def containers (r : Reader) : List Container := (r.frames.map Frame.container).reverse

/-- The containers that a line goes on with, and what follows their marks. -/
def continued (r : Reader) (l : Line) : Nat × Cursor :=
  continuedContainers r.containers (.start l.content)

/-- What follows the marks of the containers on a line that goes on with all of them. -/
def inside? (r : Reader) (l : Line) : Option Cursor :=
  let (n, s) := r.continued l
  if n = r.frames.length then some s else none

/-! ### Lists -/

/-- A list that holds a container is no longer tight. -/
def loosen : Frame → Frame
  | ⟨.list _ marker start, children⟩ => ⟨.list false marker start, children⟩
  | f => f

/-- Ends an item that has begun with an empty line: after another blank line it can hold nothing. -/
def finishEmptyItem (r : Reader) : Reader :=
  let r :=
    if r.emptyItem && r.lastLineBlank then
      match r.frames with
      | ⟨.item _, _⟩ :: _ => r.pop
      | _ => r
    else r
  { r with emptyItem := false }

/-- Ends a list in whose item nothing is open, before a block that is no item. A blank line before a
block inside an item makes the list of the item loose. -/
def finishList (r : Reader) : Reader :=
  let r := r.finishEmptyItem
  let r :=
    match r.frames with
    | ⟨.list _ _ _, _⟩ :: _ => r.pop
    | _ => r
  if r.lastLineBlank then
    let frames :=
      match r.frames with
      | f :: g :: fs => f :: loosen g :: fs
      | fs => fs
    { r with frames := frames, lastLineBlank := false }
  else r

/-- Goes on with the innermost list if its markers are of the given kind, or begins a new one. A blank
line between two items makes their list loose. -/
def continueList (r : Reader) (marker : Char) (number : Option Nat) : Reader :=
  let r := r.finishEmptyItem
  let begin (r : Reader) : Reader :=
    { r.push (.list true marker number) with lastLineBlank := false }
  match r.frames with
  | [] => begin r
  | ⟨.list tight c start, children⟩ :: fs =>
    if c = marker then
      if r.lastLineBlank then
        { r with frames := ⟨.list false c start, children⟩ :: fs, lastLineBlank := false }
      else { r with frames := ⟨.list tight c start, children⟩ :: fs }
    else begin r.finishList
  | _ => begin r.finishList

/-! ### New containers -/

/-- Opens the containers that a line begins, and gives what follows their marks, or nothing if the line
holds nothing else. The first argument bounds their number. -/
def openContainers : Nat → Reader → Cursor → Reader × Option Cursor
  | 0, r, s => (r, some s)
  | fuel + 1, r, s =>
    let indent := s.indent 4
    let inner := s.skipUpTo 4
    if 4 ≤ indent then (r, some s)
    else
      match itemMarker? inner.rest with
      | some m =>
        let afterMarker := (inner.skipChars m.width).skipUpTo 1
        let extra := afterMarker.indent 4
        let hanging := indent + m.width + 1
        let r := r.continueList m.c m.number
        if blankText afterMarker.rest then
          ({ r.push (.item hanging) with emptyItem := true }, none)
        else
          let (hanging, content) :=
            if extra < 4 then (hanging + extra, afterMarker.skipUpTo extra)
            else (hanging, afterMarker)
          let r := r.push (.item hanging)
          match taskBox? content with
          | some (checked, afterBox) =>
            if blankText afterBox.rest then
              ({ r.append (.taskBox checked) with emptyItem := true }, none)
            else openContainers fuel { r with task := some checked } afterBox
          | none => openContainers fuel r content
      | none =>
        if inner.rest.head? = some '>' then
          openContainers fuel (r.finishList.push .quote) (inner.skipChar.skipUpTo 1)
        else (r, some s)

/-! ### Looking ahead -/

/-- The next line is blank, or there is none. -/
def nextIsBlank : List Line → Bool
  | [] => true
  | l :: _ => blankText l.content

/-- A line begins a block that ends an open paragraph or table. An item of a list ends a paragraph in the
same containers only if it is a bullet or has the number one, and if it is not empty. -/
def interrupts (inTable inside : Bool) (rest : List Line) (t : Text) : Bool :=
  t.isEmpty || isRule t || (headingLevel? t).isSome || (fence? t).isSome || t.head? = some '>' ||
    htmlInterrupts t ||
    match itemMarker? t with
    | none => false
    | some m =>
      !inside || inTable ||
        ((m.number = none || m.number = some 1) &&
          !(blankText (t.drop m.width) && nextIsBlank rest))

/-- The alignments of the table whose header row is a given text, judged by the line that follows. -/
def tableAlignments? (r : Reader) (t : Text) : List Line → Option (List Alignment)
  | [] => none
  | l :: _ => do
    let columns ← headerColumns? t
    let s ← r.inside? l
    let alignments ← delimiterRow? s
    if alignments.length = columns then some alignments else none

/-- A line ends an open paragraph. -/
def interruptsParagraph (r : Reader) (inside : Bool) (rest : List Line) (t : Text) : Bool :=
  interrupts false inside rest t || t.head? = some '|' && (r.tableAlignments? t rest).isSome

/-- A line as inline content, given what follows the marks of its containers. -/
def contentLine (l : Line) (s : Cursor) : ContentLine :=
  let content := s.skipAll.rest
  { container := l.content.take (l.content.length - s.rest.length)
    indent := s.rest.take (s.rest.length - content.length)
    content := content
    ending := l.ending }

/-- The lines that a definition can run over: those that go on with all containers and end no
paragraph. -/
def definitionLines (r : Reader) : List Line → List ContentLine
  | [] => []
  | l :: rest =>
    match r.inside? l with
    | none => []
    | some s =>
      if blankText s.rest || (s.indent 4 < 4 && r.interruptsParagraph true rest (s.skipUpTo 4).rest) then
        []
      else contentLine l s :: definitionLines r rest

/-! ### New blocks -/

/-- A line of code or of HTML. Its end is a newline, however it is written. -/
def rawLine (l : Line) (t : Text) : Text := t ++ if l.ending = ['\r', '\n'] then ['\n'] else l.ending

/-- Records a blank line. -/
def blankLine (r : Reader) : Reader :=
  match r.frames with
  | ⟨.quote, _⟩ :: _ => r
  | ⟨.item indent, children⟩ :: fs =>
    if r.emptyItem then { r with frames := ⟨.item 0, children⟩ :: fs, lastLineBlank := true }
    else { r with frames := ⟨.item indent, children⟩ :: fs, lastLineBlank := true }
  | _ => { r with lastLineBlank := true }

/-- Begins a block of HTML with its first line. -/
def startHtml (r : Reader) (ending : HtmlEnd) (l : Line) (spaces : Nat) (t : Text) : Reader :=
  let r := { r with leaf := some (.html ending [rawLine l (List.replicate spaces ' ' ++ t)]) }
  match ending with
  | .text e => if Text.contains t e then r.closeLeaf else r
  | .blankLine => r

/-- Begins a paragraph, a table or a definition. -/
def startParagraph (r : Reader) (l : Line) (rest : List Line) (s : Cursor) : Reader :=
  let t := s.rest
  let source := Source.ofLines (contentLine l s :: if t.head? = some '[' then r.definitionLines rest else [])
  match definition? source with
  | some (label, target, after) =>
    { r with
      definitions := r.definitions ++ [(label, target)]
      skip := source.seams - after.seams }
  | none =>
    match r.tableAlignments? t rest with
    | some alignments =>
      { r with
        leaf := some (.table alignments (rowCells alignments.length t) [])
        task := none
        skip := 1 }
    | none => { r with leaf := some (.paragraph r.task [contentLine l s]), task := none }

/-- Begins the leaf block of a line, given what follows the marks of its containers. -/
def startLeaf (r : Reader) (l : Line) (rest : List Line) (s : Cursor) : Reader :=
  let indent := s.indent 4
  let s' := s.skipUpTo 4
  let t := s'.rest
  let r := r.finishList
  if indent = 4 then
    { r with leaf := some (.indented [rawLine l s'.expand]), lastLineBlank := false }
  else
    match htmlEnd? t with
    | some ending => r.startHtml ending l (max s.pending indent) t
    | none =>
      if isRule t then r.append .rule
      else
        match headingLevel? t with
        | some level =>
          r.append (.heading level ⟨none, .ofText (dropClosingSigns (dropBlanks (t.drop level)))⟩)
        | none =>
          match fence? t with
          | some f => { r with leaf := some (.fenced f indent (f.info t) []) }
          | none => r.startParagraph l rest s'

/-- Begins a new block with a line. -/
def startBlock (r : Reader) (l : Line) (rest : List Line) : Reader :=
  let (n, s) := r.continued l
  let r := r.popMany (r.frames.length - n)
  match r.openContainers (l.content.length + 1) s with
  | (r, none) => r
  | (r, some s) => if blankText s.rest then r.blankLine else r.startLeaf l rest s

/-! ### Open leaves -/

/-- Takes a line into an open paragraph, if it belongs there. -/
def continueParagraph (r : Reader) (task : Option Bool) (lines : List ContentLine) (l : Line)
    (rest : List Line) : Option Reader :=
  let (n, s) := r.continued l
  let inside : Bool := n = r.frames.length
  let t := (s.skipUpTo 4).rest
  let shallow := s.indent 4 < 4
  match if shallow && inside then underlineLevel? t else none with
  | some level =>
    some ({ r with leaf := none }.append (.heading level ⟨task, .ofLines lines.reverse⟩))
  | none =>
    if (shallow && r.interruptsParagraph inside rest t) || s.skipAll.atEnd then none
    else some { r with leaf := some (.paragraph task (contentLine l s :: lines)) }

/-- Takes a line into open code in fences, if it belongs there. -/
def continueFenced (r : Reader) (fence : Fence) (indent : Nat) (info : Text) (lines : List Text)
    (l : Line) : Option Reader := do
  let s ← r.inside? l
  let s' := s.skipUpTo indent
  if s'.indent (4 - indent) < 4 - indent ∧ fence.closedBy (s'.skipUpTo 4).rest then
    return r.closeLeaf
  else return { r with leaf := some (.fenced fence indent info (rawLine l s'.expand :: lines)) }

/-- Takes a line into open indented code, if it belongs there. -/
def continueIndented (r : Reader) (lines : List Text) (l : Line) : Option Reader := do
  let s ← r.inside? l
  let s' := s.skipUpTo 4
  guard (s.indent 4 = 4 ∨ s'.atEnd)
  return { r with
    leaf := some (.indented (rawLine l s'.expand :: lines))
    lastLineBlank := blankText s'.rest }

/-- Takes a line into an open block of HTML, if it belongs there. -/
def continueHtml (r : Reader) (ending : HtmlEnd) (lines : List Text) (l : Line) : Option Reader := do
  let s ← r.inside? l
  let r := { r with leaf := some (.html ending (rawLine l s.expand :: lines)) }
  match ending with
  | .text e => return if Text.contains s.rest e then r.closeLeaf else r
  | .blankLine => if blankText s.rest then none else return r

/-- Takes a line into an open table, if it belongs there. -/
def continueTable (r : Reader) (alignments : List Alignment) (header : List Source)
    (rows : List (List Source)) (l : Line) (rest : List Line) : Option Reader := do
  let s ← r.inside? l
  let t := s.skipAll.rest
  guard (!interrupts true true rest t)
  return { r with
    leaf := some (.table alignments header (rowCells alignments.length t :: rows)) }

/-- Takes a line into the open leaf, if there is one and the line belongs there. -/
def continueLeaf (r : Reader) (l : Line) (rest : List Line) : Option Reader :=
  match r.leaf with
  | none => none
  | some (.paragraph task lines) => r.continueParagraph task lines l rest
  | some (.fenced fence indent info lines) => r.continueFenced fence indent info lines l
  | some (.indented lines) => r.continueIndented lines l
  | some (.html ending lines) => r.continueHtml ending lines l
  | some (.table alignments header rows) => r.continueTable alignments header rows l rest

/-- Reads a line, given the lines that follow it. -/
def step (r : Reader) (l : Line) (rest : List Line) : Reader :=
  match r.skip with
  | n + 1 => { r with skip := n }
  | 0 =>
    match r.continueLeaf l rest with
    | some r' => r'
    | none => r.closeLeaf.startBlock l rest

/-- Reads lines. -/
def run (r : Reader) : List Line → Reader
  | [] => r
  | l :: rest => run (r.step l rest) rest

/-- The blocks that have been read; what is still open is closed. -/
def blocks (r : Reader) : List Block :=
  let r := r.closeLeaf
  (r.popMany r.frames.length).root.reverse

end Reader

/-- The trees of a Markdown document. -/
def read (t : Text) : List Tree :=
  let r := Reader.run {} (Line.ofText t)
  Block.treesOfList r.definitions false r.blocks

/-- The events of a Markdown document. -/
def events (t : Text) : List Event := Tree.eventsOfList (read t)

end WikiMarkup.Markdown
