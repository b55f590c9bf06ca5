import WikiMarkup.Text.Space
/-!
# Lines

A line ends at a newline; a carriage return directly before the newline belongs to the line's end.
-/

namespace WikiMarkup

namespace Text

/-- Replaces each line end of a text by another text, which is taken as it stands. -/
def substituteNewlines (replacement : Text) : Text → Text
  | '\r' :: '\n' :: r => replacement ++ substituteNewlines replacement r
  | '\n' :: r => replacement ++ substituteNewlines replacement r
  | c :: r => c :: substituteNewlines replacement r
  | [] => []

/-- Replaces each line end of a text and trims the result. -/
def replaceNewlines (t replacement : Text) : Text :=
  trim (substituteNewlines replacement t)

end Text

end WikiMarkup
