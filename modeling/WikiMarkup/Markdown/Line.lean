import WikiMarkup.Text.Basic
/-!
# Lines of Markdown

Markdown is read line by line. A line ends at a newline, at a carriage return, or at both in this order; the
last line of a document may lack an end. Blank characters are those ASCII characters that separate words
within a line.
-/

namespace WikiMarkup.Markdown

/-- An ASCII character that separates words within a line. -/
def isBlankChar (c : Char) : Bool :=
  c = ' ' || c = '\t' || c = '\x0b' || c = '\x0c'

/-- A text of blank characters only. -/
def blankText (t : Text) : Bool := t.all isBlankChar

/-- A text without the blank characters at its beginning. -/
def dropBlanks (t : Text) : Text := t.dropWhile isBlankChar

/-- The blank characters at the end of a text. -/
def trailingBlanks (t : Text) : Text := (t.reverse.takeWhile isBlankChar).reverse

/-- A text without the blank characters at its end. -/
def dropTrailingBlanks (t : Text) : Text := (t.reverse.dropWhile isBlankChar).reverse

/-- An ASCII letter. -/
def isLetter (c : Char) : Bool := c.isAlpha

/-- An ASCII letter or digit. -/
def isLetterOrDigit (c : Char) : Bool := c.isAlphanum

/-- The number of times that a text begins with a character. -/
def runLength (c : Char) (t : Text) : Nat := (t.takeWhile (· = c)).length

/-- One line of a document. -/
structure Line where
  /-- What the line holds. -/
  content : Text
  /-- The characters that end the line; none at the end of the document. -/
  ending : Text
deriving DecidableEq, Repr, Inhabited

namespace Line

/-- A character more at the beginning of the first line. -/
def consChar (c : Char) : List Line → List Line
  | [] => [⟨[c], []⟩]
  | l :: ls => { l with content := c :: l.content } :: ls

/-- The lines of a text. -/
def ofText : Text → List Line
  | [] => []
  | '\r' :: '\n' :: r => ⟨[], ['\r', '\n']⟩ :: ofText r
  | c :: r =>
    if c = '\n' ∨ c = '\r' then ⟨[], [c]⟩ :: ofText r
    else consChar c (ofText r)

end Line

end WikiMarkup.Markdown
