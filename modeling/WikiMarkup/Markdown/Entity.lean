import WikiMarkup.CharacterReference
import WikiMarkup.Markdown.Line
import WikiMarkup.Unicode.Punctuation
/-!
# Entities and escapes

In Markdown an entity ends in a semicolon and is limited in length: seven decimal digits, six
hexadecimal ones, or one of a list of names. A backslash takes its meaning from any ASCII punctuation
that follows it.
-/

namespace WikiMarkup.Markdown

open CharacterReference (isHexDigit valueOf ofCodePoint?)

/-- The entities that have names. -/
def namedEntities : List (Text × Text) :=
  [("amp".toList, ['&']), ("lt".toList, ['<']), ("gt".toList, ['>']), ("quot".toList, ['"']),
   ("copy".toList, ['\u00a9']), ("nbsp".toList, ['\u00a0']), ("colon".toList, [':']),
   ("Colon".toList, ['\u2237'])]

/-- The character with a code point. The code point zero stands for the replacement character. -/
def codePoint? (n : Nat) : Option Char := if n = 0 then some '\ufffd' else ofCodePoint? n

/-- A numeric entity: its digits, which must end in a semicolon, its base, and the number of
characters before the digits. -/
def numericEntity? (base limit offset : Nat) (digits rest : Text) : Option (Text × Nat) :=
  if digits.isEmpty ∨ limit < digits.length ∨ rest.head? ≠ some ';' then none
  else (codePoint? (valueOf base digits)).map fun c => ([c], offset + digits.length + 1)

/-- The entity at the beginning of a text that follows an ampersand: the text that it stands for and
the number of characters that it takes. -/
def entity? (t : Text) : Option (Text × Nat) :=
  match t with
  | '#' :: x :: r =>
    if x = 'x' ∨ x = 'X' then
      numericEntity? 16 6 2 (r.takeWhile isHexDigit) (r.dropWhile isHexDigit)
    else numericEntity? 10 7 1 ((x :: r).takeWhile Char.isDigit) ((x :: r).dropWhile Char.isDigit)
  | _ =>
    let name := t.takeWhile isLetterOrDigit
    if (t.drop name.length).head? = some ';' then
      (namedEntities.find? fun e => e.1 = name).map fun e => (e.2, name.length + 1)
    else none

/-- A text with its entities and its backslash escapes replaced, after leaving out its first
characters. Inside a table a pipe may carry two backslashes. -/
def unescapeFrom (inTable : Bool) : Nat → Text → Text
  | _, [] => []
  | skip + 1, _ :: r => unescapeFrom inTable skip r
  | 0, c :: r =>
    if c = '\\' then
      match r with
      | d :: e :: _ =>
        if inTable ∧ d = '\\' ∧ e = '|' then e :: unescapeFrom inTable 2 r
        else if Unicode.isAsciiPunctuation d then d :: unescapeFrom inTable 1 r
        else c :: unescapeFrom inTable 0 r
      | [d] =>
        if Unicode.isAsciiPunctuation d then [d] else c :: unescapeFrom inTable 0 r
      | [] => [c]
    else if c = '&' then
      match entity? r with
      | some (t, n) => t ++ unescapeFrom inTable n r
      | none => c :: unescapeFrom inTable 0 r
    else c :: unescapeFrom inTable 0 r

/-- A text with its entities and its backslash escapes replaced. -/
def unescape (inTable : Bool) (t : Text) : Text := unescapeFrom inTable 0 t

end WikiMarkup.Markdown
