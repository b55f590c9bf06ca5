import WikiMarkup.Markdown.Emphasis
import WikiMarkup.Markdown.Html
import WikiMarkup.Markdown.Link
/-!
# Inline content

Inline content is read from left to right. Code spans, HTML, addresses and entities are recognized where
they begin; links and images are recognized at their closing bracket; runs of emphasis are matched when
all of the content that they can stand in has been read.
-/

namespace WikiMarkup.Markdown

/-- What the reading of inline content depends on. -/
structure Context where
  /-- The targets that labels refer to. -/
  definitions : Definitions
  /-- Whether the content stands in a table cell. -/
  inTable : Bool

/-- An open bracket that may begin a link or an image. -/
structure Bracket where
  /-- Whether an exclamation mark stands before it. -/
  image : Bool
  /-- Whether it can still begin a link: no link may hold another one. -/
  live : Bool
  /-- What stands before the bracket, the last piece first. -/
  outer : List Piece
  /-- What follows the bracket. -/
  after : Source

/-- The state of reading inline content. -/
structure Reading where
  /-- The open brackets, the innermost one first. -/
  brackets : List Bracket := []
  /-- What follows the innermost open bracket, the last piece first. -/
  pieces : List Piece := []

namespace Reading

/-- Appends a piece. -/
def push (s : Reading) (p : Piece) : Reading := { s with pieces := p :: s.pieces }

/-- Appends characters. -/
def pushText (s : Reading) (t : Text) : Reading := t.foldl (fun s c => s.push (.char c)) s

/-- Appends a part without parts of its own. -/
def pushLeaf (s : Reading) (l : Leaf) : Reading := s.push (.tree (.leaf l))

/-- A bracket as it is written. -/
def bracketText (b : Bracket) : List Piece := if b.image then [.char '[', .char '!'] else [.char '[']

/-- Gives up the innermost open bracket, which becomes text. -/
def giveUp (s : Reading) : Reading :=
  match s.brackets with
  | [] => s
  | b :: bs => ⟨bs, s.pieces ++ bracketText b ++ b.outer⟩

/-- All pieces; the open brackets become text. -/
def allPieces (s : Reading) : List Piece :=
  s.brackets.foldl (fun ps b => ps ++ bracketText b ++ b.outer) s.pieces

/-- Opens a bracket. -/
def openBracket (s : Reading) (image : Bool) (after : Source) : Reading :=
  ⟨⟨image, true, s.pieces, after⟩ :: s.brackets, []⟩

/-! ### Code spans -/

/-- The position after the next run of exactly so many backticks, given the length of the run that has
been read and the position. -/
def afterTicks? (n run position : Nat) : Source → Option Nat
  | [] => if run = n then some position else none
  | g :: r =>
    if g.is '\x60' then afterTicks? n (run + 1) (position + 1) r
    else if run = n then some position
    else afterTicks? n 0 (position + 1) r

/-- The code in a source. A line end becomes a space. In a table a pipe is written with a backslash. -/
def codeText (inTable : Bool) : Source → Text
  | [] => []
  | .seam s :: r => s.blanks ++ ' ' :: s.indent ++ codeText inTable r
  | .char c :: r =>
    if inTable ∧ c = '\\' ∧ r.head? = some (.char '|') then codeText inTable r
    else c :: codeText inTable r

/-- Code without one space on each side, unless it is all spaces. -/
def stripCode (t : Text) : Text :=
  if t.head? = some ' ' ∧ t.getLast? = some ' ' ∧ t.any (· ≠ ' ') then t.tail.dropLast else t

/-- The code span that a run of so many backticks opens, with the number of glyphs up to its end. -/
def codeSpan? (inTable : Bool) (ticks : Nat) (s : Source) : Option (Text × Nat) :=
  if ticks = 0 then none
  else
    (afterTicks? ticks 0 0 s).map fun n => (stripCode (codeText inTable (s.take (n - ticks))), n)

/-- The number of glyphs at the beginning of a source that are a given character. -/
def glyphRun (c : Char) (s : Source) : Nat := (s.takeWhile (Glyph.is c)).length

/-- Reads a run of backticks, given what follows its first one. -/
def readTicks (inTable : Bool) (s : Reading) (rest : Source) : Reading × Nat :=
  let extra := glyphRun '\x60' rest
  match codeSpan? inTable (extra + 1) (rest.drop extra) with
  | some (code, n) => (s.pushLeaf (.code code), extra + n)
  | none => (s.pushText (List.replicate (extra + 1) '\x60'), extra)

/-! ### Links and images -/

/-- No open bracket can begin a link any longer. -/
def disableLinks (bs : List Bracket) : List Bracket :=
  bs.map fun b => if b.image then b else { b with live := false }

/-- The label between the innermost open bracket and the closing one that stands before a rest of the
source. -/
def shortcutLabel? (b : Bracket) (rest : Source) : Option Text :=
  match label? (.char '[' :: b.after) with
  | some (label, rest') => if rest'.length = rest.length then some label else none
  | none => none

/-- The label that a closing bracket refers to, and what follows the reference. -/
def reference? (b : Bracket) (rest : Source) : Option (Text × Source) :=
  match rest with
  | .char '[' :: .char ']' :: r => (shortcutLabel? b rest).map fun label => (label, r)
  | _ => (label? rest).orElse fun _ => (shortcutLabel? b rest).map fun label => (label, rest)

/-- The target of a closing bracket, and what follows the link. -/
def linkTarget? (ctx : Context) (b : Bracket) (rest : Source) : Option (Target × Source) :=
  (target? ctx.inTable rest).orElse fun _ => do
    let (label, rest) ← reference? b rest
    let target ← ctx.definitions.find? label
    return (target, rest)

/-- Reads a closing bracket. -/
def readClosing (ctx : Context) (s : Reading) (rest : Source) : Reading × Nat :=
  match s.brackets with
  | [] => (s.push (.char ']'), 0)
  | b :: bs =>
    match if b.live then linkTarget? ctx b rest else none with
    | none => (s.giveUp.push (.char ']'), 0)
    | some (target, rest') =>
      let tag := if b.image then Tag.image target.href target.title
        else Tag.link target.href target.title
      let tree := Tree.node tag (matchRuns s.pieces.reverse)
      let bs := if b.image then bs else disableLinks bs
      (⟨bs, .tree tree :: b.outer⟩, rest.length - rest'.length)

/-! ### Everything else -/

/-- Reads what follows a backslash. -/
def readEscape (ctx : Context) (s : Reading) (rest : Source) : Reading × Nat :=
  match rest with
  | .seam seam :: _ =>
    if seam.blanks.isEmpty then (s.pushLeaf .hardBreak, 1) else (s.push (.char '\\'), 0)
  | .char d :: r =>
    if d = '\x60' then
      let extra := glyphRun '\x60' r
      match codeSpan? ctx.inTable extra (r.drop extra) with
      | some (code, n) => ((s.push (.char d)).pushLeaf (.code code), 1 + extra + n)
      | none => (s.pushText (List.replicate (extra + 1) d), 1 + extra)
    else if ctx.inTable ∧ d = '\\' ∧ r.head? = some (.char '|') then (s.push (.char '|'), 2)
    else if Unicode.isAsciiPunctuation d then (s.push (.char d), 1)
    else (s.push (.char '\\'), 0)
  | [] => (s.push (.char '\\'), 0)

/-- Reads what follows an ampersand. -/
def readEntity (s : Reading) (rest : Source) : Reading × Nat :=
  match entity? rest.line with
  | some (t, n) => (s.pushText t, n)
  | none => (s.push (.char '&'), 0)

/-- Reads what follows an angle bracket. -/
def readAngle (s : Reading) (rest : Source) : Reading × Nat :=
  match address? rest.line with
  | some address => (s.push (.tree (.node (.link address []) [.text address])), address.length + 1)
  | none =>
    match inlineHtml? rest with
    | some (html, rest') => (s.pushLeaf (.inlineHtml html), rest.length - rest'.length)
    | none => (s.push (.char '<'), 0)

/-- The character on the side of a run that a glyph shows. -/
def sideOf : Glyph → Char
  | .char c => c
  | .seam _ => '\n'

/-- Reads a run of delimiters, given the character before it and what follows its first one. More than
two tildes are text. -/
def readRun (s : Reading) (before : Option Char) (c : Char) (rest : Source) : Reading × Nat :=
  let extra := glyphRun c rest
  let after := ((rest.drop extra).head?).map sideOf
  if c = '~' ∧ 1 < extra then (s.pushText (List.replicate (extra + 1) c), extra)
  else
    (s.push (.run c (extra + 1) (canOpen c (extra + 1) before after)
      (canClose c (extra + 1) before after)), extra)

/-- Reads what begins with a glyph: the state after it, and the number of further glyphs that have been
read with it. -/
def step (ctx : Context) (s : Reading) (before : Option Char) (g : Glyph) (rest : Source) :
    Reading × Nat :=
  match g with
  | .seam seam =>
    (s.pushLeaf (if 2 ≤ seam.blanks.length then .hardBreak else .softBreak), 0)
  | .char '\\' => readEscape ctx s rest
  | .char '\x60' => readTicks ctx.inTable s rest
  | .char '&' => readEntity s rest
  | .char '<' => readAngle s rest
  | .char '*' => readRun s before '*' rest
  | .char '_' => readRun s before '_' rest
  | .char '~' => readRun s before '~' rest
  | .char '[' => (s.openBracket false rest, 0)
  | .char ']' => readClosing ctx s rest
  | .char '!' =>
    match rest with
    | .char '[' :: r => (s.openBracket true r, 1)
    | _ => (s.push (.char '!'), 0)
  | .char c => (s.push (.char c), 0)

/-- Reads a source after leaving out its first glyphs. -/
def run (ctx : Context) : Nat → Option Char → Reading → Source → Reading
  | _, _, s, [] => s
  | skip + 1, _, s, g :: r => run ctx skip (some (sideOf g)) s r
  | 0, before, s, g :: r =>
    run ctx (s.step ctx before g r).2 (some (sideOf g)) (s.step ctx before g r).1 r

end Reading

/-- The trees of inline content. -/
def Source.trees (ctx : Context) (s : Source) : List Tree :=
  matchRuns (Reading.run ctx 0 none {} s).allPieces.reverse

end WikiMarkup.Markdown
