import WikiMarkup.CharacterReference
/-!
# Strings of TOML documents

A string stands in single or in double quotes; in three of them it may run over several lines. Only in
double quotes a backslash begins an escape.
-/

namespace WikiMarkup.Toml

open CharacterReference (isHexDigit valueOf ofCodePoint?)

/-- A space or a tab. -/
def isBlank (c : Char) : Bool := c = ' ' || c = '\t'

/-- A character that may stand in a comment or in a string. -/
def isTextChar (c : Char) : Bool := c = '\t' || (0x20 ≤ c.toNat && c.toNat ≠ 0x7F)

/-- What follows the end of a line at the beginning of a text. -/
def afterNewline? : Text → Option Text
  | '\n' :: r => some r
  | '\r' :: '\n' :: r => some r
  | _ => none

/-- The characters that one letter after a backslash stands for. -/
def letterEscape? (c : Char) : Option Char :=
  if c = 'b' then some '\x08'
  else if c = 't' then some '\t'
  else if c = 'n' then some '\n'
  else if c = 'f' then some '\x0c'
  else if c = 'r' then some '\r'
  else if c = 'e' then some '\x1b'
  else if c = '"' then some '"'
  else if c = '\\' then some '\\'
  else none

/-- The number of digits behind a letter that escapes a code point. -/
def codePointDigits? (c : Char) : Option Nat :=
  if c = 'x' then some 2 else if c = 'u' then some 4 else if c = 'U' then some 8 else none

/-- The character that an escape stands for, given what follows the backslash, with the number of
characters of the escape. -/
def escape? : Text → Option (Char × Nat)
  | [] => none
  | c :: r =>
    match letterEscape? c with
    | some d => some (d, 1)
    | none => do
      let n ← codePointDigits? c
      let digits := r.take n
      guard (digits.length = n ∧ digits.all isHexDigit)
      let d ← ofCodePoint? (valueOf 16 digits)
      return (d, n + 1)

/-- The number of characters of white space and line ends at the beginning of a text. -/
def spaceLength (t : Text) : Nat :=
  (t.takeWhile fun c => isBlank c || c = '\n' || c = '\r').length

/-- A backslash before this text ends its line: only white space stands between it and the newline. -/
def endsLine (t : Text) : Bool := (afterNewline? (t.dropWhile isBlank)).isSome

/-- The content of a string on one line up to its closing quote, after leaving out some characters. -/
def lineString? (quote : Char) : Nat → Text → Option (Text × Text)
  | _, [] => none
  | skip + 1, _ :: r => lineString? quote skip r
  | 0, c :: r =>
    if c = quote then some ([], r)
    else if !isTextChar c then none
    else if c = '\\' ∧ quote = '"' then
      match escape? r with
      | some (d, n) => (lineString? quote n r).map fun p => (d :: p.1, p.2)
      | none => none
    else (lineString? quote 0 r).map fun p => (c :: p.1, p.2)

/-- The content of a string in three quotes up to its closing quotes, after leaving out some characters.
Up to two quotes may stand directly before the closing ones. -/
def longString? (quote : Char) : Nat → Text → Option (Text × Text)
  | _, [] => none
  | skip + 1, _ :: r => longString? quote skip r
  | 0, c :: r =>
    if c = quote then
      let more := (r.takeWhile (· = quote)).length
      if 2 ≤ more then
        let extra := min (more - 2) 2
        some (List.replicate extra quote, r.drop (2 + extra))
      else (longString? quote 0 r).map fun p => (c :: p.1, p.2)
    else if c = '\\' ∧ quote = '"' then
      if endsLine r then longString? quote (spaceLength r) r
      else
        match escape? r with
        | some (d, n) => (longString? quote n r).map fun p => (d :: p.1, p.2)
        | none => none
    else if isTextChar c || c = '\n' || (c = '\r' && r.head? = some '\n') then
      (longString? quote 0 r).map fun p => (c :: p.1, p.2)
    else none

/-- The string at the beginning of a text, with what follows it. A newline directly behind three opening
quotes does not belong to the string. -/
def string? (t : Text) : Option (Text × Text) :=
  match t with
  | c :: r =>
    if c ≠ '"' ∧ c ≠ '\'' then none
    else if r.take 2 = [c, c] then
      let content := r.drop 2
      longString? c 0 ((afterNewline? content).getD content)
    else lineString? c 0 r
  | [] => none

end WikiMarkup.Toml
