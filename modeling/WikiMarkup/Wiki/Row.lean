import WikiMarkup.Backend
/-!
# Table rows

The cells of a row each begin with their delimiter, `||` in the header row and `|` in any other, and
the row is closed by the delimiter of its last cell. The kind of the row is read off its text: by the
last pipes in it.
-/

namespace WikiMarkup.Wiki

/-- A text without the first backslash that a pipe follows and without that pipe. -/
def dropEscapedPipe : Text → Text
  | '\\' :: '|' :: r => r
  | c :: r => c :: dropEscapedPipe r
  | [] => []

/-- The position of the last pipe of a text. -/
def lastPipe? : Text → Option Nat
  | [] => none
  | c :: r =>
    match lastPipe? r with
    | some i => some (i + 1)
    | none => if c = '|' then some 0 else none

/-- The position of the first double pipe that no other double pipe follows. In a run of three the
pair that begins second is meant. -/
def lastDoublePipe? : Text → Option Nat
  | [] => none
  | c :: r =>
    if c = '|' ∧ r.head? = some '|' ∧ Text.contains r.tail "||".toList = false then some 0
    else (lastDoublePipe? r).map (· + 1)

/-- The delimiter of the cells of a header row. -/
def headerDelimiter : Text := "||".toList

/-- The delimiter of the cells of a body row. -/
def bodyDelimiter : Text := "|".toList

/-- The delimiter of cells by the kind of their row. -/
def delimiter (header : Bool) : Text := if header then headerDelimiter else bodyDelimiter

/-- The delimiter that closes a row: that of a header row if the last double pipe sits directly
before the last pipe. A row without any pipe has none. -/
def closingDelimiter? (cells : Text) : Option Text :=
  match lastPipe? (dropEscapedPipe cells) with
  | none => none
  | some last =>
    match lastDoublePipe? (dropEscapedPipe cells) with
    | some i => some (delimiter (last - i = 1))
    | none => some (delimiter false)

/-- A row with its closing delimiter. -/
def tableRow (cells : Text) : Except RenderError Text :=
  match closingDelimiter? cells with
  | some close => .ok (cells ++ close ++ ['\n'])
  | none => .error (.malformedTableRow cells)

/-- A cell behind its delimiter. An empty cell is shown as a space. -/
def tableCell (content : Text) (header : Bool) (_alignment : Alignment) : Text :=
  delimiter header ++ if content.isEmpty then [' '] else content

end WikiMarkup.Wiki
