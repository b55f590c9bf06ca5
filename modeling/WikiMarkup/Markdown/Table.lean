import WikiMarkup.Markdown.Marker
import WikiMarkup.Markdown.Source
/-!
# Rows of Markdown tables

A row is split into cells at its pipes. A pipe behind a backslash belongs to its cell, and so does a
pipe behind two backslashes.
-/

namespace WikiMarkup.Markdown

/-! ### The columns of a header row -/

/-- The positions of the pipes of a line that no backslash escapes, after leaving out its first
characters. -/
def pipesFrom : Nat → Nat → Text → List Nat
  | _, _, [] => []
  | skip + 1, i, _ :: r => pipesFrom skip (i + 1) r
  | 0, i, c :: r =>
    if c = '\\' then pipesFrom 1 (i + 1) r
    else if c = '|' then i :: pipesFrom 0 (i + 1) r
    else pipesFrom 0 (i + 1) r

/-- The number of columns of a header row with pipes at the given positions. -/
def columnCount (t : Text) (pipes : List Nat) : Nat :=
  let inner := if (dropBlanks t).head? = some '|' then pipes.length - 1 else pipes.length
  match pipes.getLast? with
  | some last => if blankText (t.drop (last + 1)) then inner else inner + 1
  | none => inner

/-- The number of columns of a line, if it can be the header row of a table. -/
def headerColumns? (t : Text) : Option Nat :=
  match pipesFrom 0 0 t with
  | [] => none
  | pipes =>
    if runLength '\\' t.reverse % 2 = 1 then none else some (columnCount t pipes)

/-! ### Cells -/

/-- The cells of a line, given how many further characters belong to the current cell. -/
def splitCells : Nat → Text → List Text
  | _, [] => [[]]
  | skip, c :: r =>
    let (here, next) :=
      match skip with
      | k + 1 => (true, k)
      | 0 =>
        if c = '\\' then
          match r with
          | '\\' :: '|' :: _ => (true, 2)
          | d :: _ => (true, if Unicode.isAsciiPunctuation d then 1 else 0)
          | [] => (true, 0)
        else (c ≠ '|', 0)
    if here then
      match splitCells next r with
      | [] => [[c]]
      | p :: ps => (c :: p) :: ps
    else [] :: splitCells 0 r

/-- The cells of a row, as many as the table has columns. What stands before the first pipe or behind
the last one is a cell unless it is blank. -/
def rowCells (columns : Nat) (t : Text) : List Source :=
  let t := dropBlanks t
  let cells := (splitCells 0 (if t.head? = some '|' then t.tail else t)).map fun p =>
    dropTrailingBlanks (dropBlanks p)
  let cells := if cells.getLast? = some [] then cells.dropLast else cells
  ((cells ++ List.replicate columns []).take columns).map Source.ofText

end WikiMarkup.Markdown
