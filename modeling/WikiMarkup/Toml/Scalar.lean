import WikiMarkup.CharacterReference
import WikiMarkup.Toml.Value
/-!
# Scalars of TOML documents

Truth values, numbers and points in time are written without quotes. Each is recognized here as a whole
word, by the form that TOML gives to it.
-/

namespace WikiMarkup.Toml

open CharacterReference (isHexDigit valueOf)

/-! ### Numbers -/

/-- The digits of a word in which single underscores may stand between digits. -/
def digits? (isDigit : Char → Bool) (t : Text) : Option Text :=
  let groups := t.split '_'
  if groups.all fun g => g ≠ [] && g.all isDigit then some groups.flatten else none

/-- The digits of a decimal number without a leading zero. -/
def plainDigits? (t : Text) : Option Text :=
  (digits? Char.isDigit t).filter fun d => d.length = 1 || d.head? ≠ some '0'

/-- A word without its sign, and whether the sign is a minus. -/
def splitSign : Text → Bool × Text
  | '-' :: t => (true, t)
  | '+' :: t => (false, t)
  | t => (false, t)

/-- An octal digit. -/
def isOctalDigit (c : Char) : Bool := '0' ≤ c && c ≤ '7'

/-- A binary digit. -/
def isBinaryDigit (c : Char) : Bool := c = '0' || c = '1'

/-- The integer that a word is written for. -/
def integer? (t : Text) : Option Int :=
  match t with
  | '0' :: 'x' :: r => (digits? isHexDigit r).map fun d => valueOf 16 d
  | '0' :: 'o' :: r => (digits? isOctalDigit r).map fun d => valueOf 8 d
  | '0' :: 'b' :: r => (digits? isBinaryDigit r).map fun d => valueOf 2 d
  | _ =>
    let (negative, r) := splitSign t
    (plainDigits? r).map fun d => if negative then -(valueOf 10 d : Int) else valueOf 10 d

/-- The integers that can be represented, those of 128 bits with or without a sign. -/
def inIntegerRange (n : Int) : Bool := -(Int.pow 2 127) ≤ n && n < Int.pow 2 128

/-- A decimal number, mantissa · 10^exponent, is too large for a floating-point number of 64 bits: it is
not less than the middle between the greatest such number and the next power of two. -/
def overflows (mantissa : Nat) (exponent : Int) : Bool :=
  let limit := Nat.pow 2 1024 - Nat.pow 2 970
  if mantissa = 0 then false
  else if 400 < exponent then true
  else if 0 ≤ exponent then limit ≤ mantissa * Nat.pow 10 exponent.toNat
  else
    let shift := (-exponent).toNat
    if (toString mantissa).length + 1 < shift then false else limit * Nat.pow 10 shift ≤ mantissa

/-- The exponent of a floating-point number, after its letter. -/
def exponent? (t : Text) : Option Int :=
  let (negative, r) := splitSign t
  (digits? Char.isDigit r).map fun d => if negative then -(valueOf 10 d : Int) else valueOf 10 d

/-- A letter that begins an exponent. -/
def isExponentLetter (c : Char) : Bool := c = 'e' || c = 'E'

/-- A word has the form of a floating-point number that can be represented. -/
def isFloat (t : Text) : Bool :=
  let (_, r) := splitSign t
  if r = "inf".toList ∨ r = "nan".toList then true
  else
    let mantissa := r.takeWhile fun c => !isExponentLetter c
    let exponent := r.drop mantissa.length
    let whole := mantissa.takeWhile (· ≠ '.')
    let fraction := mantissa.drop whole.length
    let fractionDigits? :=
      match fraction with
      | [] => some []
      | _ :: f => digits? Char.isDigit f
    let exponentValue? :=
      match exponent with
      | [] => some 0
      | _ :: e => exponent? e
    match plainDigits? whole, fractionDigits?, exponentValue? with
    | some w, some f, some e =>
      (fraction ≠ [] || exponent ≠ []) && !overflows (valueOf 10 (w ++ f)) (e - f.length)
    | _, _, _ => false

/-! ### Points in time -/

/-- The number that so many digits at the beginning of a text are written for, with what follows. -/
def fixedDigits? (n : Nat) (t : Text) : Option (Nat × Text) :=
  let d := t.take n
  if d.length = n ∧ d.all Char.isDigit then some (valueOf 10 d, t.drop n) else none

/-- What follows a character at the beginning of a text. -/
def after? (p : Char → Bool) : Text → Option Text
  | c :: r => if p c then some r else none
  | [] => none

/-- The number of days of a month. -/
def daysOfMonth (year month : Nat) : Nat :=
  if month = 2 then
    if year % 4 = 0 ∧ (year % 100 ≠ 0 ∨ year % 400 = 0) then 29 else 28
  else if month = 4 ∨ month = 6 ∨ month = 9 ∨ month = 11 then 30 else 31

/-- What follows a date at the beginning of a text. -/
def afterDate? (t : Text) : Option Text := do
  let (year, t) ← fixedDigits? 4 t
  let t ← after? (· = '-') t
  let (month, t) ← fixedDigits? 2 t
  let t ← after? (· = '-') t
  let (day, t) ← fixedDigits? 2 t
  guard (1 ≤ month ∧ month ≤ 12 ∧ 1 ≤ day ∧ day ≤ daysOfMonth year month)
  return t

/-- What follows a time of day at the beginning of a text. The seconds may be absent. -/
def afterTime? (t : Text) : Option Text := do
  let (hour, t) ← fixedDigits? 2 t
  let t ← after? (· = ':') t
  let (minute, t) ← fixedDigits? 2 t
  guard (hour ≤ 23 ∧ minute ≤ 59)
  match t with
  | ':' :: r =>
    let (second, r) ← fixedDigits? 2 r
    guard (second ≤ 60)
    match r with
    | '.' :: f =>
      let digits := f.takeWhile Char.isDigit
      guard (digits ≠ [])
      return f.drop digits.length
    | _ => return r
  | _ => return t

/-- A text is an offset from universal time, or empty. -/
def isOffset (t : Text) : Bool :=
  match t with
  | [] => true
  | [c] => c = 'Z' || c = 'z'
  | c :: r =>
    (c = '+' || c = '-') &&
      match (do
        let (hour, r) ← fixedDigits? 2 r
        let r ← after? (· = ':') r
        let (minute, r) ← fixedDigits? 2 r
        return (hour, minute, r) : Option (Nat × Nat × Text)) with
      | some (hour, minute, rest) => hour ≤ 24 && minute ≤ 59 && rest = []
      | none => false

/-- A character between a date and a time. -/
def isDateSeparator (c : Char) : Bool := c = 'T' || c = 't' || c = ' '

/-- A word is a date, a time of day, or both. -/
def isDatetime (t : Text) : Bool :=
  match afterDate? t with
  | some [] => true
  | some r =>
    match (after? isDateSeparator r).bind afterTime? with
    | some r => isOffset r
    | none => false
  | none => afterTime? t = some []

/-! ### Words -/

/-- The value that a word is written for. -/
def scalar? (t : Text) : Option Value :=
  if t = "true".toList then some (.boolean true)
  else if t = "false".toList then some (.boolean false)
  else
    match integer? t with
    | some n => if inIntegerRange n then some (.integer n) else none
    | none =>
      if isFloat t then some (.float t) else if isDatetime t then some (.datetime t) else none

end WikiMarkup.Toml
