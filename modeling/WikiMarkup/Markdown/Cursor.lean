import WikiMarkup.Markdown.Line
/-!
# Columns of a line

Indentation is counted in columns, and a tab reaches to the next column that is a multiple of four. So
a tab may be used up in part: a cursor remembers the columns of it that are left.
-/

namespace WikiMarkup.Markdown

/-- A place in a line. -/
structure Cursor where
  /-- What follows. -/
  rest : Text
  /-- The column, counted from the last tab. -/
  column : Nat := 0
  /-- The columns of the last tab that are not yet used up. -/
  pending : Nat := 0
deriving Repr

namespace Cursor

/-- The beginning of a text. -/
def start (t : Text) : Cursor := ⟨t, 0, 0⟩

/-- Nothing follows but perhaps columns of a tab. -/
def atEnd (s : Cursor) : Bool := s.rest.isEmpty

/-- Skips at most so many columns of white space; gives the place reached and the columns that were
missing. -/
def skip : Nat → Text → Nat → Nat → Cursor × Nat
  | 0, t, column, pending => (⟨t, column, pending⟩, 0)
  | n + 1, t, column, p + 1 => skip n t column p
  | n + 1, [], column, 0 => (⟨[], column, 0⟩, n + 1)
  | n + 1, c :: r, column, 0 =>
    if c = ' ' then skip n r (column + 1) 0
    else if c = '\t' then skip n r 0 (3 - column % 4)
    else (⟨c :: r, column, 0⟩, n + 1)

/-- Skips at most so many columns of white space. -/
def skipUpTo (s : Cursor) (n : Nat) : Cursor := (skip n s.rest s.column s.pending).1

/-- The columns of white space at a place, as far as they are asked for. -/
def indent (s : Cursor) (limit : Nat) : Nat :=
  limit - (skip limit s.rest s.column s.pending).2

/-- Skips all spaces and tabs. -/
def skipAll (s : Cursor) : Cursor :=
  ⟨s.rest.dropWhile fun c => c = ' ' || c = '\t', s.column, 0⟩

/-- Moves past a character other than white space. -/
def skipChar (s : Cursor) : Cursor := { s with rest := s.rest.tail, column := s.column + 1 }

/-- Moves past so many characters other than white space. -/
def skipChars (s : Cursor) (n : Nat) : Cursor :=
  { s with rest := s.rest.drop n, column := s.column + n }

/-- What follows, with the columns of a tab that are left as spaces. -/
def expand (s : Cursor) : Text := List.replicate s.pending ' ' ++ s.rest

end Cursor

end WikiMarkup.Markdown
