import WikiMarkup.Markdown.Source
/-!
# HTML in Markdown

A tag, a comment, a processing instruction, a declaration or a section of character data that stands
in inline content is taken over as it is. A line that begins with certain tags begins a block of HTML.
-/

namespace WikiMarkup.Markdown

/-! ### Tags -/

/-- How far the reading of a tag has come. -/
inductive TagState where
  /-- In the name of an opening tag. -/
  | name
  /-- After white space, where an attribute may begin. -/
  | gap
  /-- In the name of an attribute. -/
  | attribute
  /-- After white space that follows the name of an attribute. -/
  | afterAttribute
  /-- After an equals sign. -/
  | beforeValue
  /-- In a value without quotes. -/
  | unquoted
  /-- In a value with the given quotes. -/
  | quoted (quote : Char)
  /-- After a value in quotes. -/
  | afterValue
  /-- After a slash. -/
  | slash
  /-- In the name of a closing tag. -/
  | closingName
  /-- After white space in a closing tag. -/
  | closingGap
deriving DecidableEq, Repr

/-- A character that an attribute's name can begin with. -/
def isAttributeStart (c : Char) : Bool := isLetter c || c = '_' || c = ':'

/-- A character of an attribute's name. -/
def isAttributeChar (c : Char) : Bool :=
  isLetterOrDigit c || c = '.' || c = '-' || c = ':' || c = '_'

/-- A character of a value without quotes. -/
def isUnquotedChar (c : Char) : Bool :=
  !(c = '\'' || c = '"' || c = ' ' || c = '=' || c = '>' || c = '<' || c = '\x60')

/-- The state after a character that is neither white space nor the end of the tag. -/
def TagState.next? (c : Char) : TagState → Option TagState
  | .name =>
    if isLetterOrDigit c || c = '-' then some .name else if c = '/' then some .slash else none
  | .gap =>
    if isAttributeStart c then some .attribute else if c = '/' then some .slash else none
  | .attribute =>
    if isAttributeChar c then some .attribute
    else if c = '=' then some .beforeValue
    else if c = '/' then some .slash else none
  | .afterAttribute =>
    if c = '=' then some .beforeValue
    else if isAttributeStart c then some .attribute
    else if c = '/' then some .slash else none
  | .beforeValue =>
    if c = '"' || c = '\'' then some (.quoted c)
    else if isUnquotedChar c then some .unquoted else none
  | .unquoted => if isUnquotedChar c then some .unquoted else none
  | .quoted q => if c = q then some .afterValue else some (.quoted q)
  | .afterValue => if c = '/' then some .slash else none
  | .slash => none
  | .closingName => if isLetterOrDigit c || c = '-' then some .closingName else none
  | .closingGap => none

/-- The state after white space. Only a seam can be white space that a closing tag does not allow. -/
def TagState.blank? (seam : Bool) : TagState → Option TagState
  | .name => some .gap
  | .gap => some .gap
  | .attribute => some .afterAttribute
  | .afterAttribute => some .afterAttribute
  | .beforeValue => some .beforeValue
  | .unquoted => some .gap
  | .quoted q => some (.quoted q)
  | .afterValue => some .gap
  | .slash => none
  | .closingName => if seam then none else some .closingGap
  | .closingGap => if seam then none else some .closingGap

/-- A tag may end here. -/
def TagState.ends : TagState → Bool
  | .beforeValue => false
  | .quoted _ => false
  | _ => true

/-- A character that counts as white space in a state. In a value without quotes only the space
does. -/
def TagState.isBlank (c : Char) : TagState → Bool
  | .unquoted => c = ' '
  | _ => isBlankChar c

/-- What follows the end of a tag. -/
def afterTag? (state : TagState) : Source → Option Source
  | [] => none
  | .seam _ :: r =>
    match state.blank? true with
    | some state' => afterTag? state' r
    | none => none
  | .char c :: r =>
    if c = '>' ∧ state.ends then some r
    else
      match if state.isBlank c then state.blank? false else state.next? c with
      | some state' => afterTag? state' r
      | none => none

/-- What follows a tag, given what follows its angle bracket. -/
def afterTagStart? : Source → Option Source
  | .char '/' :: .char c :: r => if isLetter c then afterTag? .closingName r else none
  | .char c :: r => if isLetter c then afterTag? .name r else none
  | _ => none

/-! ### Inline HTML -/

/-- What follows a section of character data, given what follows its opening mark. The section ends at
its first closing square bracket or nowhere. -/
def afterCharacterData? (s : Source) : Option Source :=
  let closing := s.dropWhile fun g => !g.is ']'
  match closing, closing.dropWhile (Glyph.is ']') with
  | _ :: _, .char '>' :: r => some r
  | _, _ => none

/-- What follows a comment, a section of character data or a declaration, given what follows its
exclamation mark. -/
def afterDeclaration? : Source → Option Source
  | .char '-' :: .char '-' :: r => Source.afterText? "-->".toList (.char '-' :: .char '-' :: r)
  | .char '[' :: r =>
    if (Source.ofText "CDATA[".toList).isPrefixOf r then afterCharacterData? (r.drop 6) else none
  | .char c :: r => if isLetter c then Source.afterText? ['>'] r else none
  | _ => none

/-- A piece of inline HTML, given what follows its angle bracket: the text of the piece and what
follows it. -/
def inlineHtml? (s : Source) : Option (Text × Source) :=
  match s with
  | .char '!' :: r => (afterDeclaration? r).map fun rest => ('<' :: (s.before rest).raw, rest)
  | .char '?' :: r =>
    (Source.afterText? "?>".toList r).map fun rest => ('<' :: (s.before rest).raw, rest)
  | _ => (afterTagStart? s).map fun rest => ('<' :: (s.before rest).withoutContainers, rest)

/-! ### Blocks of HTML -/

/-- How a block of HTML ends. -/
inductive HtmlEnd where
  /-- With the line that holds a text. -/
  | text (t : Text)
  /-- Before a blank line. -/
  | blankLine
deriving DecidableEq, Repr

/-- The elements whose content is not Markdown in any case, with the text that ends each. -/
def verbatimElements : List (Text × Text) :=
  [("pre".toList, "</pre>".toList), ("style".toList, "</style>".toList),
   ("script".toList, "</script>".toList), ("textarea".toList, "</textarea>".toList)]

/-- The text that ends the block that a line begins, given what follows the angle bracket of the line.
Such a block may also begin inside a paragraph, and hold blank lines. -/
def verbatimEnd? (t : Text) : Option Text :=
  let element := verbatimElements.find? fun e =>
    Text.asciiLowercase (t.take e.1.length) = e.1 &&
      match t.drop e.1.length with
      | [] => true
      | c :: _ => isBlankChar c || c = '>'
  match element with
  | some e => some e.2
  | none =>
    if "!--".toList.isPrefixOf t then some "-->".toList
    else if "?".toList.isPrefixOf t then some "?>".toList
    else if "![CDATA[".toList.isPrefixOf t then some "]]>".toList
    else
      match t with
      | '!' :: c :: _ => if isLetter c then some ">".toList else none
      | _ => none

/-- The elements that begin a block by their tag alone. -/
def blockElements : List String :=
  ["address", "article", "aside", "base", "basefont", "blockquote", "body", "caption", "center",
   "col", "colgroup", "dd", "details", "dialog", "dir", "div", "dl", "dt", "fieldset",
   "figcaption", "figure", "footer", "form", "frame", "frameset", "h1", "h2", "h3", "h4", "h5",
   "h6", "head", "header", "hr", "html", "iframe", "legend", "li", "link", "main", "menu",
   "menuitem", "nav", "noframes", "ol", "optgroup", "option", "p", "param", "search", "section",
   "summary", "table", "tbody", "td", "tfoot", "th", "thead", "title", "tr", "track", "ul"]

/-- A line begins with the tag of an element that begins a block, given what follows its angle
bracket. -/
def startsBlockElement (t : Text) : Bool :=
  let t := if t.head? = some '/' then t.tail else t
  let name := Text.asciiLowercase (t.takeWhile isLetterOrDigit)
  let rest := t.dropWhile isLetterOrDigit
  blockElements.any (fun e => e.toList = name) &&
    match rest with
    | [] => true
    | ' ' :: _ => true
    | '\t' :: _ => true
    | '>' :: _ => true
    | '/' :: '>' :: _ => true
    | _ => false

/-- A line holds one tag and nothing else, given what follows its angle bracket. -/
def isLoneTag (t : Text) : Bool :=
  match afterTagStart? (Source.ofText t) with
  | some rest => blankText rest.line
  | none => false

/-- How the block of HTML that a line begins will end. -/
def htmlEnd? : Text → Option HtmlEnd
  | '<' :: t =>
    match verbatimEnd? t with
    | some ending => some (.text ending)
    | none => if startsBlockElement t || isLoneTag t then some .blankLine else none
  | _ => none

/-- A line begins a block of HTML that may interrupt a paragraph. -/
def htmlInterrupts : Text → Bool
  | '<' :: t => (verbatimEnd? t).isSome || startsBlockElement t
  | _ => false

end WikiMarkup.Markdown
