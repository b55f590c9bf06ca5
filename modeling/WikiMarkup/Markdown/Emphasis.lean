import WikiMarkup.Document.Tree
import WikiMarkup.Text.Space
import WikiMarkup.Unicode.Punctuation
/-!
# Emphasis

Emphasis is written with runs of `*`, `_` or `~`. Whether a run can open or close an emphasis depends on
the characters on its two sides. Runs are matched from left to right: a run that can close is matched
with the nearest run before it that fits, and what cannot be matched remains as text.
-/

namespace WikiMarkup.Markdown

/-! ### Which runs can open and close -/

/-- White space, or the boundary of the inline content. -/
def isSpaceSide : Option Char → Bool
  | none => true
  | some c => Text.isSpace c

/-- Punctuation. -/
def isPunctuationSide : Option Char → Bool
  | none => false
  | some c => Unicode.isPunctuation c

/-- A run that may stand inside a word. -/
def isIntraword (c : Char) (count : Nat) : Bool := c = '*' || c = '~' && 1 < count

/-- A run between two characters can open an emphasis. -/
def canOpen (c : Char) (count : Nat) (before after : Option Char) : Bool :=
  !isSpaceSide after &&
    ((isIntraword c count && (c = '~' || !isPunctuationSide after)) ||
      (c = '~' && before = some '~' && !isPunctuationSide after) ||
      isSpaceSide before || isPunctuationSide before)

/-- A run between two characters can close an emphasis. -/
def canClose (c : Char) (count : Nat) (before after : Option Char) : Bool :=
  !isSpaceSide before &&
    ((isIntraword c count && !isPunctuationSide before) ||
      (c = '~' && before = some '~') ||
      isSpaceSide after || isPunctuationSide after)

/-! ### Pieces of inline content -/

/-- Inline content before its runs are matched. -/
inductive Piece where
  /-- A character of text. -/
  | char (c : Char)
  /-- A part that is finished. -/
  | tree (t : Tree)
  /-- A run of delimiters, and whether it can open and close. -/
  | run (c : Char) (count : Nat) (opens closes : Bool)

/-- Puts a character in front of trees, into their text if they begin with text. -/
def Tree.consChar (c : Char) : List Tree → List Tree
  | .leaf (.text t) :: ts => .text (c :: t) :: ts
  | ts => .text [c] :: ts

/-- The trees of pieces; a run counts as text. -/
def treesOf : List Piece → List Tree
  | [] => []
  | .char c :: ps => Tree.consChar c (treesOf ps)
  | .tree t :: ps => t :: treesOf ps
  | .run c count _ _ :: ps => (List.replicate count c).foldr Tree.consChar (treesOf ps)

/-! ### Matching -/

/-- A run that waits for its closing run. -/
structure Opener where
  /-- The character of the run. -/
  c : Char
  /-- The delimiters that are not matched. -/
  count : Nat
  /-- The delimiters that the run had. -/
  length : Nat
  /-- Whether the run could have closed as well. -/
  both : Bool
  /-- What follows the run, the last piece first. -/
  content : List Piece

/-- An opener and all that follows it as pieces, the last one first. -/
def Opener.pieces (o : Opener) : List Piece :=
  o.content ++ List.replicate o.count (.char o.c)

/-- The matching of runs on its way through the pieces. -/
structure Matching where
  /-- What stands before every opener, the last piece first. -/
  base : List Piece := []
  /-- The openers, the innermost one first. -/
  openers : List Opener := []
  /-- The number of outermost openers that a run of tildes no longer looks at. -/
  floor : Nat := 0

namespace Matching

/-- Appends a piece. -/
def append (m : Matching) (p : Piece) : Matching :=
  match m.openers with
  | [] => { m with base := p :: m.base }
  | o :: os => { m with openers := { o with content := p :: o.content } :: os }

/-- Appends so many characters of one kind. -/
def appendChars (m : Matching) (c : Char) : Nat → Matching
  | 0 => m
  | n + 1 => appendChars (m.append (.char c)) c n

/-- An opener fits a closing run. Runs of tildes have to be of one length. Of two other runs one of
which can both open and close, the lengths must not add up to a multiple of three unless both are such
multiples. -/
def fits (c : Char) (length : Nat) (both : Bool) (o : Opener) : Bool :=
  o.c = c &&
    if c = '~' then o.length = length
    else !both && !o.both || (length + o.length) % 3 ≠ 0 || length % 3 = 0

/-- Splits openers at the innermost one that satisfies a test. -/
def splitAt? (p : Opener → Bool) : List Opener → Option (List Opener × Opener × List Opener)
  | [] => none
  | o :: os => if p o then some ([], o, os) else (splitAt? p os).map fun r => (o :: r.1, r.2)

/-- What so many matched delimiters make of their content: pairs are strong, a single delimiter is
emphasis and stands outside. -/
def emphasize : Nat → List Tree → List Tree
  | 0, ts => ts
  | 1, ts => [.node .emphasis ts]
  | n + 2, ts => emphasize n [.node .strong ts]

/-- What so many matched delimiters of one kind make of their content. -/
def wrap (c : Char) (n : Nat) (ts : List Tree) : List Tree :=
  if c = '~' then [.node .strikethrough ts] else emphasize n ts

/-- The innermost opener that fits a closing run. -/
def opener? (m : Matching) (c : Char) (length : Nat) (both : Bool) :
    Option (List Opener × Opener × List Opener) :=
  let visible := if c = '~' then m.openers.length - m.floor else m.openers.length
  (splitAt? (fits c length both) (m.openers.take visible)).map fun r =>
    (r.1, r.2.1, r.2.2 ++ m.openers.drop visible)

/-- Matches the delimiters of a closing run as long as an opener fits, and gives the number of
delimiters that are left. The first argument bounds the number of matches. -/
def close : Nat → Matching → Char → Nat → Nat → Bool → Matching × Nat
  | 0, m, _, count, _, _ => (m, count)
  | fuel + 1, m, c, count, length, both =>
    match m.opener? c length both with
    | none => (if c = '~' then { m with floor := m.openers.length } else m, count)
    | some (inner, o, outer) =>
      let content := inner.flatMap Opener.pieces ++ o.content
      let n := min count o.count
      let wrapped := (wrap c n (treesOf content.reverse)).map Piece.tree
      let m := { m with openers := outer, floor := min m.floor outer.length }
      let m :=
        if n < o.count then
          { m with openers := { o with count := o.count - n, content := wrapped.reverse } :: outer }
        else wrapped.foldl append m
      if count - n = 0 then (m, 0) else close fuel m c (count - n) length both

/-- Takes one piece into the matching. -/
def step (m : Matching) : Piece → Matching
  | .run c count opens closes =>
    let (m, left) := if closes then close count m c count count (opens && closes) else (m, count)
    if left = 0 then m
    else if opens then { m with openers := ⟨c, left, count, opens && closes, []⟩ :: m.openers }
    else m.appendChars c left
  | p => m.append p

/-- The trees of all that has been matched; what is still open becomes text. -/
def trees (m : Matching) : List Tree :=
  treesOf (m.openers.flatMap Opener.pieces ++ m.base).reverse

end Matching

/-- The trees of pieces with their runs matched. -/
def matchRuns (ps : List Piece) : List Tree := (ps.foldl Matching.step {}).trees

end WikiMarkup.Markdown
