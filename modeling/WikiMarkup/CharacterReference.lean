import WikiMarkup.Text.Basic
import WikiMarkup.Unicode.DecimalDigit
import WikiMarkup.Unicode.Word
/-!
# Character references

A character reference is an ampersand followed by a name, by `#` and decimal digits, or by `#x` and
hexadecimal digits, and an optional semicolon. `unescape` replaces each reference that names a
character by that character. What a reference has been replaced by is not read again, and a
reference that names no character stays as it is.
-/

namespace WikiMarkup

/-- A character reference without the marks around it. -/
inductive CharacterReference where
  /-- A run of word characters. -/
  | named (name : Text)
  /-- A run of decimal digits of any script. -/
  | decimal (digits : Text)
  /-- A run of hexadecimal digits. -/
  | hexadecimal (digits : Text)

namespace CharacterReference

/-- An ASCII digit of base sixteen, in either case. -/
def isHexDigit (c : Char) : Bool :=
  c.isDigit || ('a' ≤ c && c ≤ 'f') || ('A' ≤ c && c ≤ 'F')

/-- The value of a digit of base sixteen. -/
def hexValue (c : Char) : Nat :=
  if c.isDigit then c.toNat - '0'.toNat
  else if 'a' ≤ c then c.toNat - 'a'.toNat + 10
  else c.toNat - 'A'.toNat + 10

/-- The value of a run of digits in a base. -/
def valueOf (base : Nat) (digits : Text) : Nat :=
  digits.foldl (fun n c => base * n + hexValue c) 0

/-- The reference at the beginning of a text that follows an ampersand. Decimal digits are tried
first, then hexadecimal digits, then a name; each run is as long as possible. -/
def ofStart? (t : Text) : Option CharacterReference :=
  match t with
  | '#' :: r =>
    match r.takeWhile Unicode.isDecimalDigit with
    | d :: ds => some (.decimal (d :: ds))
    | [] =>
      match r with
      | x :: h =>
        if x = 'x' ∨ x = 'X' then
          match h.takeWhile isHexDigit with
          | d :: ds => some (.hexadecimal (d :: ds))
          | [] => none
        else none
      | [] => none
  | _ =>
    match t.takeWhile Unicode.isWord with
    | w :: ws => some (.named (w :: ws))
    | [] => none

/-- The number of characters that a reference takes after its ampersand. -/
def length : CharacterReference → Nat
  | .named name => name.length
  | .decimal digits => digits.length + 1
  | .hexadecimal digits => digits.length + 2

/-- The characters with a name, whose letters may be in either case. -/
def ofName? (name : Text) : Option Char :=
  let name := Text.asciiLowercase name
  if name = "colon".toList then some ':'
  else if name = "amp".toList then some '&'
  else if name = "lt".toList then some '<'
  else if name = "gt".toList then some '>'
  else if name = "quot".toList then some '"'
  else none

/-- The character with a code point: none beyond the last one and none among the surrogates. -/
def ofCodePoint? (n : Nat) : Option Char :=
  if h : n.isValidChar then some (Char.ofNatAux n h) else none

/-- The character that a reference names. Decimal digits count only if all of them are ASCII. -/
def char? : CharacterReference → Option Char
  | .named name => ofName? name
  | .decimal digits => if digits.all Char.isDigit then ofCodePoint? (valueOf 10 digits) else none
  | .hexadecimal digits => ofCodePoint? (valueOf 16 digits)

/-- The character named by the reference at the beginning of a text that follows an ampersand, with
the number of characters that the reference takes, its semicolon included. -/
def decodeStart? (t : Text) : Option (Char × Nat) := do
  let reference ← ofStart? t
  let c ← reference.char?
  let n := reference.length
  return (c, if (t.drop n).head? = some ';' then n + 1 else n)

/-- Decodes the references of a text after leaving out its first characters. -/
def unescapeFrom : Nat → Text → Text
  | _, [] => []
  | skip + 1, _ :: r => unescapeFrom skip r
  | 0, c :: r =>
    if c = '&' then
      match decodeStart? r with
      | some (d, n) => d :: unescapeFrom n r
      | none => c :: unescapeFrom 0 r
    else c :: unescapeFrom 0 r

/-- Decodes the references of a text once, from left to right. -/
def unescape (t : Text) : Text := unescapeFrom 0 t

theorem unescapeFrom_eq_unescape_drop (n : Nat) (t : Text) :
    unescapeFrom n t = unescape (t.drop n) := by
  induction t generalizing n with
  | nil => cases n <;> simp [unescape, unescapeFrom]
  | cons c r ih =>
    cases n with
    | zero => rfl
    | succ n => simpa [unescapeFrom] using ih n

end CharacterReference

end WikiMarkup
