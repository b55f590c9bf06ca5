import WikiMarkup.Toml.Document
import WikiMarkup.Toml.Quoted
import WikiMarkup.Toml.Scalar
/-!
# Reading TOML documents

A document is a sequence of headers, keys with values, and comments, each on its own line. `parse?` gives
the table that a document describes, or nothing if the document is not well formed: which of its rules a
document breaks is not told apart.
-/

namespace WikiMarkup.Toml

/-! ### Space between words -/

/-- A text without the spaces and tabs at its beginning. -/
def dropBlanks (t : Text) : Text := t.dropWhile isBlank

/-- What follows a comment, if the text begins with one. -/
def afterComment (t : Text) : Text :=
  match t with
  | '#' :: r => r.dropWhile isTextChar
  | _ => t

/-- What follows white space, comments and line ends. The first argument bounds their number. -/
def dropSpace : Nat → Text → Text
  | 0, t => t
  | fuel + 1, t =>
    let r := afterComment (dropBlanks t)
    match afterNewline? r with
    | some r => dropSpace fuel r
    | none => r

/-- What follows the rest of a line that holds nothing but white space and a comment. -/
def afterLine? (t : Text) : Option Text :=
  match afterComment (dropBlanks t) with
  | [] => some []
  | r => afterNewline? r

/-! ### Keys -/

/-- A character of a key without quotes. -/
def isBareKeyChar (c : Char) : Bool := c.isAlphanum || c = '_' || c = '-'

/-- The key without dots at the beginning of a text. A key in quotes stands on one line. -/
def simpleKey? (t : Text) : Option (Text × Text) :=
  match t with
  | c :: r =>
    if c = '"' ∨ c = '\'' then lineString? c 0 r
    else
      match t.takeWhile isBareKeyChar with
      | [] => none
      | key => some (key, t.dropWhile isBareKeyChar)
  | [] => none

/-- The key at the beginning of a text: what its last dot follows, its last part, and what follows it.
The first argument bounds the number of its parts. -/
def key? : Nat → Text → Option (List Text × Text × Text)
  | 0, _ => none
  | fuel + 1, t => do
    let (first, r) ← simpleKey? t
    match dropBlanks r with
    | '.' :: r =>
      let (path, last, r) ← key? fuel (dropBlanks r)
      return (first :: path, last, r)
    | r => return ([], first, r)

/-! ### Values -/

/-- A character that ends a word. -/
def endsWord (c : Char) : Bool :=
  isBlank c || c = '\n' || c = '\r' || c = ',' || c = ']' || c = '\x7d' || c = '#' || c = '='

/-- The word at the beginning of a text, with what follows. A date may have a time behind a space. -/
def word (t : Text) : Text × Text :=
  let first := t.takeWhile fun c => !endsWord c
  let rest := t.drop first.length
  match rest with
  | ' ' :: d :: _ =>
    if afterDate? first = some [] ∧ d.isDigit then
      let second := rest.tail.takeWhile fun c => !endsWord c
      (first ++ ' ' :: second, rest.drop (second.length + 1))
    else (first, rest)
  | _ => (first, rest)

mutual

/-- The value at the beginning of a text, with what follows it. -/
def value? : Nat → Text → Option (Value × Text)
  | 0, _ => none
  | fuel + 1, t =>
    match t with
    | '[' :: r => (items? fuel (dropSpace r.length r)).map fun p => (.array p.1, p.2)
    | '\x7b' :: r =>
      (pairs? fuel [] (dropSpace r.length r)).map fun p => (.table (Node.toTable p.1), p.2)
    | c :: _ =>
      if c = '"' ∨ c = '\'' then (string? t).map fun p => (.string p.1, p.2)
      else (scalar? (word t).1).map fun v => (v, (word t).2)
    | [] => none

/-- The values of an array up to its closing bracket. A comma may stand behind the last one. -/
def items? : Nat → Text → Option (List Value × Text)
  | 0, _ => none
  | fuel + 1, t =>
    match t with
    | ']' :: r => some ([], r)
    | _ => do
      let (v, r) ← value? fuel t
      match dropSpace r.length r with
      | ']' :: r => return ([v], r)
      | ',' :: r =>
        let (vs, r) ← items? fuel (dropSpace r.length r)
        return (v :: vs, r)
      | _ => none

/-- The entries of a table up to its closing brace, after those that have been read. A comma may stand
behind the last one. -/
def pairs? : Nat → Entries → Text → Option (Entries × Text)
  | 0, _, _ => none
  | fuel + 1, entries, t =>
    match t with
    | '\x7d' :: r => some (entries, r)
    | _ => do
      let (entries, r) ← pair? fuel entries t
      match dropSpace r.length r with
      | '\x7d' :: r => return (entries, r)
      | ',' :: r => pairs? fuel entries (dropSpace r.length r)
      | _ => none

/-- Entries with the key and the value at the beginning of a text, and what follows these. -/
def pair? : Nat → Entries → Text → Option (Entries × Text)
  | 0, _, _ => none
  | fuel + 1, entries, t => do
    let (path, key, r) ← key? t.length t
    let r ← after? (· = '=') r
    let (v, r) ← value? fuel (dropBlanks r)
    let entries ← entries.insert path key v
    return (entries, r)

end

/-! ### Lines -/

/-- A document on the way of being read: its tables, and the name of the table that is open. -/
structure Reading where
  /-- The tables. -/
  root : Entries := []
  /-- The name of the open table. -/
  current : List Text := []

/-- Reads a header, given what follows its opening brackets. -/
def header? (s : Reading) (array : Bool) (t : Text) : Option (Reading × Text) := do
  let (path, key, r) ← key? (t.length + 1) (dropBlanks t)
  let r ← after? (· = ']') r
  let r ← if array then after? (· = ']') r else some r
  let root ← if array then s.root.openNext path key else s.root.openTable path key
  return (⟨root, path ++ [key]⟩, r)

/-- Reads the key and the value at the beginning of a text into the open table. -/
def assignment? (s : Reading) (t : Text) : Option (Reading × Text) := do
  let (path, key, r) ← key? (t.length + 1) t
  let r ← after? (· = '=') r
  let (v, r) ← value? (2 * r.length + 2) (dropBlanks r)
  let root ← Entries.modifyAt false (fun _ sub => sub.insert path key v) s.current .opened s.root
  return (⟨root, s.current⟩, r)

/-- Reads what stands at the beginning of a line. -/
def expression? (s : Reading) (t : Text) : Option (Reading × Text) :=
  match t with
  | [] => some (s, [])
  | '[' :: '[' :: r => header? s true r
  | '[' :: r => header? s false r
  | c :: _ => if c = '#' ∨ c = '\n' ∨ c = '\r' then some (s, t) else assignment? s t

/-- Reads lines to the end of a text. The first argument bounds their number. -/
def lines? : Nat → Reading → Text → Option Reading
  | 0, _, _ => none
  | fuel + 1, s, t => do
    let (s, r) ← expression? s (dropBlanks t)
    match ← afterLine? r with
    | [] => return s
    | r => lines? fuel s r

/-- The table that a document describes. A byte order mark may stand at its beginning. -/
def parse? (t : Text) : Option Table :=
  let t := if t.head? = some '\ufeff' then t.tail else t
  (lines? (t.length + 1) {} t).map fun s => Node.toTable s.root

end WikiMarkup.Toml
