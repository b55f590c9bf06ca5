import WikiMarkup.Text.Basic
/-!
# White space

White space is the set of characters with the Unicode property of that name. Trimming and the
first word of a text are defined by it; no other notion of blank takes part in rendering.
-/

namespace WikiMarkup

namespace Text

/-- The characters with the Unicode property White_Space. -/
def isSpace (c : Char) : Bool :=
  let n := c.toNat
  (9 ≤ n && n ≤ 13) || n = 32 || n = 0x85 || n = 0xA0 || n = 0x1680 ||
    (0x2000 ≤ n && n ≤ 0x200A) || n = 0x2028 || n = 0x2029 || n = 0x202F || n = 0x205F ||
    n = 0x3000

/-- A text without the white space at its beginning. -/
def trimStart (t : Text) : Text := t.dropWhile isSpace

/-- A text without the white space at its end. -/
def trimEnd (t : Text) : Text := (t.reverse.dropWhile isSpace).reverse

/-- A text without the white space at its beginning and at its end. -/
def trim (t : Text) : Text := trimEnd (trimStart t)

/-- Only white space, or nothing at all. -/
def isBlank (t : Text) : Bool := t.all isSpace

/-- The first word of a text: the characters from the first one that is not white space up to the
next white space. A blank text has none. -/
def firstWord? (t : Text) : Option Text :=
  match (trimStart t).takeWhile (fun c => !isSpace c) with
  | [] => none
  | w => some w

end Text

end WikiMarkup
