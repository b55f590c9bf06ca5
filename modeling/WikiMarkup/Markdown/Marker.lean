import WikiMarkup.Document.Event
import WikiMarkup.Markdown.Cursor
import WikiMarkup.Markdown.Entity
/-!
# Marks at the beginning of a line

What a line begins with decides which block it belongs to: a rule, a heading, a fence, the marker of a
list item, or the delimiter row of a table. Each reader here looks at what a line holds behind the marks
of its containers and its indentation.
-/

namespace WikiMarkup.Markdown

/-- A rule: at least three equal marks and nothing else but spaces and tabs. -/
def isRule (t : Text) : Bool :=
  match t with
  | c :: _ =>
    (c = '*' || c = '-' || c = '_') && t.all (fun d => d = c || d = ' ' || d = '\t') &&
      2 < t.count c
  | [] => false

/-- The level of the heading that a line is: one to six number signs before white space. -/
def headingLevel? (t : Text) : Option Nat :=
  let n := runLength '#' t
  if 1 ≤ n ∧ n ≤ 6 ∧ blankText ((t.drop n).take 1) then some n else none

/-- The content of a heading without its closing number signs, which stand behind a space. -/
def dropClosingSigns (t : Text) : Text :=
  let t := (t.reverse.dropWhile (· = ' ')).reverse
  let body := (t.reverse.dropWhile (· = '#')).reverse
  match body.getLast? with
  | none => []
  | some ' ' => (body.reverse.dropWhile (· = ' ')).reverse
  | some _ => t

/-- The level of the heading that a line below a paragraph makes of it. -/
def underlineLevel? (t : Text) : Option Nat :=
  match t with
  | c :: _ =>
    if (c = '=' ∨ c = '-') ∧ blankText (t.dropWhile (· = c)) then
      some (if c = '=' then 1 else 2)
    else none
  | [] => none

/-- A fence around code. -/
structure Fence where
  /-- The character of the fence. -/
  c : Char
  /-- The number of characters. -/
  length : Nat
deriving DecidableEq, Repr

/-- The fence that a line begins with. Behind backticks there must be no other backtick. -/
def fence? (t : Text) : Option Fence :=
  match t with
  | c :: _ =>
    let n := runLength c t
    if (c = '\x60' ∨ c = '~') ∧ 3 ≤ n ∧ (c = '~' ∨ (t.drop n).contains c = false) then
      some ⟨c, n⟩
    else none
  | [] => none

/-- The info string behind a fence. -/
def Fence.info (f : Fence) (t : Text) : Text :=
  unescape false (dropTrailingBlanks (dropBlanks (t.drop f.length)))

/-- A line closes a fence: with at least as many of its characters and nothing else but spaces. -/
def Fence.closedBy (f : Fence) (t : Text) : Bool :=
  f.length ≤ runLength f.c t && (t.dropWhile (· = f.c)).all (· = ' ')

/-- The marker of a list item. -/
structure ItemMarker where
  /-- The bullet, or the character after the number. -/
  c : Char
  /-- The number, if there is one. -/
  number : Option Nat
  /-- The number of characters. -/
  width : Nat
deriving DecidableEq, Repr

/-- The value of a run of decimal digits. -/
def decimalValue (digits : Text) : Nat :=
  digits.foldl (fun n d => 10 * n + (d.toNat - '0'.toNat)) 0

/-- The most digits that the number of a list item can have. -/
def maxItemDigits : Nat := 9

/-- The marker of a list item at the beginning of a text: a bullet, or a number with a full stop or a
parenthesis. White space or the end of the line follows, and the line is not a rule. -/
def itemMarker? (t : Text) : Option ItemMarker :=
  let marker : Option ItemMarker :=
    match t with
    | c :: _ =>
      if c = '-' ∨ c = '+' ∨ c = '*' then if isRule t then none else some ⟨c, none, 1⟩
      else
        let digits := t.takeWhile Char.isDigit
        match t.drop digits.length with
        | d :: _ =>
          if digits ≠ [] ∧ digits.length ≤ maxItemDigits ∧ (d = '.' ∨ d = ')') then
            some ⟨d, some (decimalValue digits), digits.length + 1⟩
          else none
        | [] => none
    | [] => none
  marker.filter fun m =>
    match t.drop m.width with
    | [] => true
    | c :: _ => c = ' ' || c = '\t'

/-- The box of a task list item at the beginning of a line, with what follows it. White space stands
behind it. -/
def taskBox? (s : Cursor) : Option (Bool × Cursor) :=
  let s := s.skipUpTo 3
  match s.rest with
  | '[' :: c :: ']' :: d :: _ =>
    if !isBlankChar d then none
    else if isBlankChar c then some (false, s.skipChars 3)
    else if c = 'x' ∨ c = 'X' then some (true, s.skipChars 3)
    else none
  | _ => none

/-! ### The delimiter row of a table -/

/-- The alignment that colons at the sides of a column's dashes express. The first colon of a column
aligns it to the left if no dash stands before it. -/
def alignWithColon (fresh : Bool) : Alignment → Alignment
  | .unspecified => if fresh then .left else .right
  | .left => if fresh then .left else .center
  | a => a

/-- The reading of a delimiter row. -/
structure DelimiterRow where
  /-- The columns that are complete, the last one first. -/
  columns : List Alignment := []
  /-- The alignment of the current column. -/
  current : Alignment := .unspecified
  /-- Nothing but spaces has been read of the current column. -/
  fresh : Bool := true
  /-- The current column has a dash. -/
  dash : Bool := false
  /-- Some column has a dash. -/
  anyDash : Bool := false

/-- Reads a character of a delimiter row. -/
def DelimiterRow.step? (r : DelimiterRow) (c : Char) : Option DelimiterRow :=
  if c = ' ' then some r
  else if c = ':' then
    some { r with current := alignWithColon r.fresh r.current, fresh := false }
  else if c = '-' then some { r with fresh := false, dash := true, anyDash := true }
  else if c = '|' then
    if r.dash then some { columns := r.current :: r.columns, anyDash := r.anyDash } else none
  else none

/-- The alignments of the columns that a delimiter row describes. The row holds a pipe and a dash, and
is indented by at most three columns. -/
def delimiterRow? (s : Cursor) : Option (List Alignment) :=
  if 4 ≤ s.indent 4 then none
  else
    let t := (s.skipUpTo 4).rest
    match (if t.head? = some '|' then t.tail else t).foldlM DelimiterRow.step? {} with
    | none => none
    | some r =>
      let columns := if r.fresh then r.columns else r.current :: r.columns
      if '|' ∈ t ∧ r.anyDash then some columns.reverse else none

end WikiMarkup.Markdown
