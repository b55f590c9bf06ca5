import WikiMarkup.Text.Basic
import WikiMarkup.Unicode.Printable
/-!
# Quoted text

A quoted text stands in double quotes and shows every character that could be mistaken or overlooked
as an escape, so that an error message can carry any text on one line.
-/

namespace WikiMarkup

namespace Text

/-- The digits of a number in lowercase hexadecimal. -/
def hexDigits (n : Nat) : Text := Nat.toDigits 16 n

/-- How one character is written inside a quoted text. -/
def escapeChar (c : Char) : Text :=
  if c = '"' then "\\\"".toList
  else if c = '\\' then "\\\\".toList
  else if c = '\n' then "\\n".toList
  else if c = '\r' then "\\r".toList
  else if c = '\t' then "\\t".toList
  else if c.toNat = 0 then "\\0".toList
  else if Unicode.isPrintable c then [c]
  else "\\u\x7b".toList ++ hexDigits c.toNat ++ "\x7d".toList

/-- A text in double quotes, with escapes. -/
def quoted (t : Text) : Text := ['"'] ++ t.flatMap escapeChar ++ ['"']

end Text

end WikiMarkup
