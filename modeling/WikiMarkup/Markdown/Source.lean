import WikiMarkup.Markdown.Line
/-!
# The source of inline content

The inline content of a block runs over several lines, and between two of its lines stand things that
are not content: blank characters, the end of the line, the marks of the containers on the next line
and the indentation there. A source keeps all this as one glyph, a seam, because what is left of it
depends on the construct that runs over the seam.
-/

namespace WikiMarkup.Markdown

/-- What stands between the contents of two lines. -/
structure Seam where
  /-- The blank characters at the end of the first line. -/
  blanks : Text
  /-- The end of the first line. -/
  ending : Text
  /-- The marks of the containers on the second line. -/
  container : Text
  /-- The white space before the content of the second line. -/
  indent : Text
deriving DecidableEq, Repr

/-- A character of inline content, or the seam between two of its lines. -/
inductive Glyph where
  | char (c : Char)
  | seam (s : Seam)
deriving DecidableEq, Repr

/-- Inline content as it is written. -/
abbrev Source := List Glyph

namespace Glyph

/-- A character that satisfies a test. -/
def test (p : Char → Bool) : Glyph → Bool
  | .char c => p c
  | .seam _ => false

/-- A given character. -/
def is (c : Char) : Glyph → Bool := test (· = c)

/-- All characters of a glyph. -/
def raw : Glyph → Text
  | .char c => [c]
  | .seam s => s.blanks ++ s.ending ++ s.container ++ s.indent

/-- The characters of a glyph without the marks of containers. -/
def withoutContainer : Glyph → Text
  | .char c => [c]
  | .seam s => s.blanks ++ s.ending ++ s.indent

end Glyph

namespace Source

/-- The source of a text on one line. -/
def ofText (t : Text) : Source := t.map .char

/-- All characters of a source. -/
def raw (s : Source) : Text := s.flatMap Glyph.raw

/-- The characters of a source without the marks of containers. -/
def withoutContainers (s : Source) : Text := s.flatMap Glyph.withoutContainer

/-- The characters before the first seam. -/
def line : Source → Text
  | .char c :: r => c :: line r
  | _ => []

/-- The number of seams. -/
def seams : Source → Nat
  | [] => 0
  | .char _ :: r => seams r
  | .seam _ :: r => seams r + 1

/-- The source without the blank characters at its beginning. -/
def dropBlanks (s : Source) : Source := s.dropWhile (Glyph.test isBlankChar)

/-- The source without the white space at its beginning, which may run over one seam. -/
def dropSpace (s : Source) : Source :=
  match dropBlanks s with
  | .seam _ :: r => dropBlanks r
  | r => r

/-- What is left of a source after the first occurrence of a sequence of characters. -/
def afterText? (t : Text) : Source → Option Source
  | [] => if t.isEmpty then some [] else none
  | g :: r =>
    if (ofText t).isPrefixOf (g :: r) then some ((g :: r).drop t.length) else afterText? t r

/-- The beginning of a source that a rest of it leaves. -/
def before (whole rest : Source) : Source := whole.take (whole.length - rest.length)

end Source

/-- A line of inline content with what stands before it. -/
structure ContentLine where
  /-- The marks of the containers. -/
  container : Text
  /-- The white space between the marks and the content. -/
  indent : Text
  /-- The content, up to the end of the line. -/
  content : Text
  /-- The end of the line. -/
  ending : Text
deriving Repr

/-- The source made of a line and the lines that follow it. -/
def Source.ofLines : List ContentLine → Source
  | [] => []
  | [l] => .ofText (dropTrailingBlanks l.content)
  | l :: m :: ls =>
    Source.ofText (dropTrailingBlanks l.content) ++
      .seam ⟨trailingBlanks l.content, l.ending, m.container, m.indent⟩ :: ofLines (m :: ls)

end WikiMarkup.Markdown
