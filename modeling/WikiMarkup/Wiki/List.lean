import WikiMarkup.Text.Space
/-!
# Lists

A list is written as one line for each item, and the line begins with one marker for each list that
the item stands in. The items of a list reach it as lines: a line that already begins with a marker
comes from a list inside and gets one marker more, and any other line gets a marker and a space.
-/

namespace WikiMarkup.Wiki

/-- The marker of a list. -/
def listMarker (ordered : Bool) : Char := if ordered then '#' else '*'

/-- A line that begins with the marker of some list. -/
def startsWithMarker : Text → Bool
  | c :: _ => c = '#' || c = '*'
  | [] => false

/-- A line of a list behind the marker of the list. -/
def markLine (marker : Char) (line : Text) : Text :=
  if startsWithMarker line then marker :: line else marker :: ' ' :: line

/-- The lines of a list's body that are not empty. -/
def listLines (body : Text) : List Text :=
  (body.trim.split '\n').filter fun line => !line.isEmpty

/-- A list. -/
def list (body : Text) (ordered : Bool) (_start : Option Nat) : Text :=
  "\n".toList ++ Text.join ['\n'] ((listLines body).map (markLine (listMarker ordered))) ++
    "\n\n".toList

/-- An item of a list. -/
def listItem (body : Text) : Text := body ++ ['\n']

end WikiMarkup.Wiki
