/-!
# Text

All content that the library reads or writes is `Text`: a list of characters. A list is what
recursive definitions and proofs want, and every operation below is structural. This file holds
the operations that are used throughout: splitting at a character, joining, testing for a piece of
text inside another one, and writing numbers.
-/

namespace WikiMarkup

/-- A piece of text, character by character. -/
abbrev Text := List Char

namespace Text

/-- The pieces of a text between the occurrences of a separating character. There is always one
piece more than there are separators. -/
def split (sep : Char) : Text → List Text
  | [] => [[]]
  | c :: r =>
    if c = sep then [] :: split sep r
    else
      match split sep r with
      | [] => [[c]]
      | p :: ps => (c :: p) :: ps

theorem split_ne_nil (sep : Char) (t : Text) : split sep t ≠ [] := by
  cases t with
  | nil => simp [split]
  | cons c r =>
    rw [split]
    split
    · simp
    · cases split sep r <;> simp

/-- Pieces of text with a separator between each two neighbours. -/
def join (sep : Text) : List Text → Text
  | [] => []
  | [p] => p
  | p :: q :: ps => p ++ sep ++ join sep (q :: ps)

/-- What follows a given beginning, if the text has that beginning. -/
def dropStart? : Text → Text → Option Text
  | [], t => some t
  | _ :: _, [] => none
  | p :: ps, c :: t => if p = c then dropStart? ps t else none

/-- A text has another one as a contiguous piece. -/
def contains : Text → Text → Bool
  | [], piece => piece.isEmpty
  | c :: r, piece => piece.isPrefixOf (c :: r) || contains r piece

/-- A text without its last character, if that is the given one. -/
def withoutFinal (c : Char) (t : Text) : Text :=
  if t.getLast? = some c then t.dropLast else t

/-- A text filled with spaces on its right up to a width. -/
def padRight (width : Nat) (t : Text) : Text :=
  t ++ List.replicate (width - t.length) ' '

/-- The decimal digits of a number. -/
def ofNat (n : Nat) : Text := (toString n).toList

/-- The words for the two truth values. -/
def ofBool : Bool → Text
  | true => "true".toList
  | false => "false".toList

/-- ASCII letters in lowercase, everything else as it is. -/
def asciiLowercase (t : Text) : Text := t.map Char.toLower

end Text

end WikiMarkup
