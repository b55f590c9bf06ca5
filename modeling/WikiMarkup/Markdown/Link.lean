import WikiMarkup.Markdown.Entity
import WikiMarkup.Markdown.Source
import WikiMarkup.Unicode.CaseFold
/-!
# Links

The parts that links are written with: destinations, titles and labels, the addresses that stand in
angle brackets, and the definitions that labels refer to. Each reader takes a source and gives what it
has read together with the rest of the source.
-/

namespace WikiMarkup.Markdown

/-- Where a link leads: its destination and its title, which may be empty. -/
structure Target where
  /-- The destination. -/
  href : Text
  /-- The title. -/
  title : Text
deriving DecidableEq, Repr

/-! ### Destinations -/

/-- The raw destination at the beginning of a text that follows an opening angle bracket. -/
def pointyDestination? : Text → Option Text
  | [] => none
  | '\\' :: d :: r =>
    if Unicode.isAsciiPunctuation d then (pointyDestination? r).map fun t => '\\' :: d :: t
    else (pointyDestination? (d :: r)).map ('\\' :: ·)
  | c :: r =>
    if c = '>' then some [] else if c = '<' then none else (pointyDestination? r).map (c :: ·)

/-- The greatest depth of parentheses in a destination. -/
def maxNesting : Nat := 32

/-- The raw destination at the beginning of a text: it ends at a space, at a control character or at
a parenthesis that it did not open. -/
def plainDestination? (depth : Nat) : Text → Option Text
  | [] => if depth = 0 then some [] else none
  | '\\' :: d :: r =>
    if Unicode.isAsciiPunctuation d then (plainDestination? depth r).map fun t => '\\' :: d :: t
    else (plainDestination? depth (d :: r)).map ('\\' :: ·)
  | c :: r =>
    if c.toNat ≤ 0x20 then if depth = 0 then some [] else none
    else if c = '(' then
      if maxNesting < depth then none else (plainDestination? (depth + 1) r).map (c :: ·)
    else if c = ')' then
      if depth = 0 then some [] else (plainDestination? (depth - 1) r).map (c :: ·)
    else (plainDestination? depth r).map (c :: ·)

/-- The raw destination at the beginning of a source. -/
def destination? (s : Source) : Option (Text × Source) :=
  match s with
  | .char '<' :: r => (pointyDestination? (Source.line r)).map fun t => (t, r.drop (t.length + 1))
  | _ => (plainDestination? 0 s.line).map fun t => (t, s.drop t.length)

/-! ### Titles -/

/-- The character that closes what another one opens, if that can open a title. -/
def titleClosing? (c : Char) : Option Char :=
  if c = '"' ∨ c = '\'' then some c else if c = '(' then some ')' else none

/-- The title up to its closing mark, after leaving out some glyphs. A seam leaves a newline. -/
def titleRest? (inTable : Bool) (opening closing : Char) : Nat → Source → Option (Text × Source)
  | _, [] => none
  | skip + 1, _ :: r => titleRest? inTable opening closing skip r
  | 0, .seam s :: r =>
    (titleRest? inTable opening closing 0 r).map fun p => (s.blanks ++ '\n' :: p.1, p.2)
  | 0, .char c :: r =>
    if c = closing then some ([], r)
    else if c = opening then none
    else if c = '&' then
      match entity? (Source.line r) with
      | some (t, n) => (titleRest? inTable opening closing n r).map fun p => (t ++ p.1, p.2)
      | none => (titleRest? inTable opening closing 0 r).map fun p => (c :: p.1, p.2)
    else if c = '\\' then
      match Source.line r with
      | d :: rest =>
        if inTable ∧ d = '\\' ∧ rest.head? = some '|' then
          (titleRest? inTable opening closing 2 r).map fun p => ('|' :: p.1, p.2)
        else if Unicode.isAsciiPunctuation d then
          (titleRest? inTable opening closing 1 r).map fun p => (d :: p.1, p.2)
        else (titleRest? inTable opening closing 0 r).map fun p => (c :: p.1, p.2)
      | [] => (titleRest? inTable opening closing 0 r).map fun p => (c :: p.1, p.2)
    else (titleRest? inTable opening closing 0 r).map fun p => (c :: p.1, p.2)

/-- The title at the beginning of a source. -/
def title? (inTable : Bool) : Source → Option (Text × Source)
  | .char c :: r =>
    match titleClosing? c with
    | some closing => titleRest? inTable c closing 0 r
    | none => none
  | _ => none

/-! ### Targets in parentheses -/

/-- The target in parentheses at the beginning of a source. -/
def target? (inTable : Bool) (s : Source) : Option (Target × Source) :=
  match s with
  | .char '(' :: r =>
    match destination? (Source.dropSpace r) with
    | none => none
    | some (href, r) =>
      let r := r.dropSpace
      let (title, r) :=
        match title? inTable r with
        | some (title, r') => (title, r'.dropSpace)
        | none => ([], r)
      match r with
      | .char ')' :: r => some (⟨unescape inTable href, title⟩, r)
      | _ => none
  | _ => none

/-! ### Labels -/

/-- The longest label, in characters. -/
def maxLabelLength : Nat := 1000

/-- White space inside a label. -/
def isLabelSpace : Glyph → Bool
  | .char c => isBlankChar c
  | .seam _ => true

/-- The text of a label up to its closing bracket, at most so many characters long. A backslash takes
the character after it into the label. -/
def labelRest? : Nat → Source → Option (Source × Source)
  | 0, _ => none
  | _, [] => none
  | n + 1, g :: r =>
    if g.is '[' then none
    else if g.is ']' then some ([], r)
    else if g.is '\\' then
      match n, r with
      | m + 1, h :: r' => (labelRest? m r').map fun p => (g :: h :: p.1, p.2)
      | _, _ => none
    else (labelRest? n r).map fun p => (g :: p.1, p.2)

/-- A label with its white space collapsed. -/
def collapseSpace : Source → Text
  | [] => []
  | .char c :: r =>
    if isBlankChar c then
      match collapseSpace r with
      | ' ' :: t => ' ' :: t
      | t => ' ' :: t
    else c :: collapseSpace r
  | .seam _ :: r =>
    match collapseSpace r with
    | ' ' :: t => ' ' :: t
    | t => ' ' :: t

/-- The form of a label in which labels are compared: without white space at its ends, with its white
space collapsed, and up to case. -/
def normalizeLabel (s : Source) : Text :=
  let t := collapseSpace s
  let t := if t.head? = some ' ' then t.tail else t
  Text.caseFold (Text.withoutFinal ' ' t)

/-- The label in brackets at the beginning of a source. It is not blank and holds no bracket and at
most one seam in a row. -/
def label? : Source → Option (Text × Source)
  | .char '[' :: r =>
    match labelRest? maxLabelLength r with
    | some (label, rest) =>
      if label.all isLabelSpace then none else some (normalizeLabel label, rest)
    | none => none
  | _ => none

/-! ### Addresses in angle brackets -/

/-- A character of a scheme after its first one. -/
def isSchemeChar (c : Char) : Bool := isLetterOrDigit c || c = '.' || c = '-' || c = '+'

/-- The address with a scheme at the beginning of a text that follows an angle bracket. -/
def uri? (t : Text) : Option Text :=
  match t.takeWhile isSchemeChar, t.dropWhile isSchemeChar with
  | first :: scheme, ':' :: rest =>
    let path := rest.takeWhile fun c => c ≠ '>' && c ≠ '<' && 0x20 < c.toNat
    if isLetter first ∧ 1 ≤ scheme.length ∧ scheme.length ≤ 31 ∧
        (rest.drop path.length).head? = some '>' then
      some (first :: scheme ++ ':' :: path)
    else none
  | _, _ => none

/-- A character of the part of a mail address before the at sign. -/
def isMailboxChar (c : Char) : Bool :=
  isLetterOrDigit c || ".!#$%&'*+/=?^_\x60\x7b|\x7d~-".toList.contains c

/-- One of the names between the dots of a mail address's domain. -/
def isDomainLabel (t : Text) : Bool :=
  t ≠ [] && t.length ≤ 63 && t.head? ≠ some '-' && t.getLast? ≠ some '-' &&
    t.all fun c => isLetterOrDigit c || c = '-'

/-- The mail address at the beginning of a text that follows an angle bracket. -/
def mailAddress? (t : Text) : Option Text :=
  match t.takeWhile isMailboxChar, t.dropWhile isMailboxChar with
  | c :: mailbox, '@' :: rest =>
    let domain := rest.takeWhile fun c => c ≠ '>'
    if (rest.drop domain.length).head? = some '>' ∧ (Text.split '.' domain).all isDomainLabel then
      some (c :: mailbox ++ '@' :: domain)
    else none
  | _, _ => none

/-- The address at the beginning of a text that follows an angle bracket. -/
def address? (t : Text) : Option Text := (uri? t).orElse fun _ => mailAddress? t

/-! ### Definitions -/

/-- The targets that labels refer to. -/
abbrev Definitions := List (Text × Target)

/-- The target of a label: the one that was defined first. -/
def Definitions.find? (defs : Definitions) (label : Text) : Option Target :=
  (List.find? (fun d => d.1 = label) defs).map Prod.snd

/-- Nothing follows on the line. -/
def atLineEnd (s : Source) : Bool :=
  match s.dropBlanks with
  | [] => true
  | .seam _ :: _ => true
  | _ => false

/-- The title of a definition with what follows it, given what follows the destination. White space
stands before the title and nothing else on the line after it. Without such a title the definition
ends with the line of the destination. -/
def definitionTitle? (s : Source) : Option (Text × Source) :=
  let withoutTitle := if atLineEnd s then some ([], s.dropBlanks) else none
  if s.dropSpace.length = s.length then withoutTitle
  else
    match title? false s.dropSpace with
    | some (title, rest) => if atLineEnd rest then some (title, rest.dropBlanks) else withoutTitle
    | none => withoutTitle

/-- The definition at the beginning of a source: its label, its target and what follows it. The
destination must not be missing. -/
def definition? (s : Source) : Option (Text × Target × Source) := do
  let (label, afterLabel) ← label? s
  let afterColon ←
    match afterLabel with
    | .char ':' :: r => some (Source.dropSpace r)
    | _ => none
  let (href, afterHref) ← destination? afterColon
  guard (afterHref.length < afterColon.length)
  let (title, rest) ← definitionTitle? afterHref
  return (label, ⟨unescape false href, title⟩, rest)

end WikiMarkup.Markdown
