import Mathlib.Data.List.Induction
import Mathlib.Data.Nat.Digits.Defs
import WikiMarkup.Proofs.CharacterReference.Extent
/-!
# Numeric references

A numeric reference is decoded by the number that its digits stand for (`numeral`), however many of
them there are. It becomes the character with that number, and it stays as it is if there is no such
character or if a decimal digit is not one of ASCII (`unescape_numericReference`).
-/

namespace WikiMarkup.CharacterReference

/-- The value of a digit is its place among the digits, in either case. -/
def digitValue (c : Char) : Nat := "0123456789abcdef".toList.idxOf c.toLower

/-- The number that digits stand for in a base. -/
def numeral (base : Nat) (digits : Text) : Nat :=
  Nat.ofDigits base (digits.reverse.map digitValue)

/-- The numbers that characters have: those up to the last one, without the surrogates. -/
def IsScalarValue (n : Nat) : Prop := n ≤ 0x10FFFF ∧ ¬(0xD800 ≤ n ∧ n ≤ 0xDFFF)

instance : DecidablePred IsScalarValue := fun _ => inferInstanceAs (Decidable (_ ∧ _))

variable {base : Nat} {digits : Text}

@[simp] lemma numeral_concat (ds : Text) (d : Char) :
    numeral base (ds ++ [d]) = digitValue d + base * numeral base ds := by
  rw [numeral, List.reverse_append, List.reverse_singleton, List.singleton_append, List.map_cons,
    Nat.ofDigits_cons]
  rfl

lemma hexValue_eq_digitValue {c : Char} (h : isHexDigit c = true) : hexValue c = digitValue c :=
  of_isHexDigit (p := fun c => hexValue c = digitValue c) (by decide) h

lemma valueOf_eq_numeral (base : Nat) (h : ∀ c ∈ digits, isHexDigit c = true) :
    valueOf base digits = numeral base digits := by
  induction digits using List.reverseRecOn with
  | nil => rfl
  | append_singleton ds d ih =>
    have hd := hexValue_eq_digitValue (h d (by simp))
    have hds := ih fun c hc => h c (List.mem_append_left _ hc)
    rw [numeral_concat, ← hds, ← hd, valueOf, List.foldl_append, Nat.add_comm]
    rfl

/-! ### Code points -/

lemma isValidChar_iff (n : Nat) : n.isValidChar ↔ IsScalarValue n := by
  rw [Nat.isValidChar, IsScalarValue]
  omega

lemma ofCodePoint?_eq (n : Nat) :
    ofCodePoint? n = if IsScalarValue n then some (Char.ofNat n) else none := by
  rw [ofCodePoint?, Char.ofNat]
  by_cases h : n.isValidChar
  · rw [dif_pos h, dif_pos h, if_pos ((isValidChar_iff n).1 h)]
  · rw [dif_neg h, if_neg ((isValidChar_iff n).not.1 h)]

lemma isScalarValue_toNat (c : Char) : IsScalarValue c.toNat := (isValidChar_iff _).1 c.valid

lemma char?_decimal (digits : Text) :
    (decimal digits).char? =
      if digits.all Char.isDigit = true ∧ IsScalarValue (numeral 10 digits) then
        some (Char.ofNat (numeral 10 digits))
      else none := by
  by_cases hascii : digits.all Char.isDigit = true
  · have hvalue : valueOf 10 digits = numeral 10 digits :=
      valueOf_eq_numeral 10 fun c hc => by
        rw [isHexDigit, List.all_eq_true.1 hascii c hc]
        rfl
    rw [char?, if_pos hascii, hvalue, ofCodePoint?_eq]
    exact (if_congr (and_iff_right hascii) rfl rfl).symm
  · rw [char?, if_neg hascii, if_neg (fun h => hascii h.1)]

lemma char?_hexadecimal (h : ∀ c ∈ digits, isHexDigit c = true) :
    (hexadecimal digits).char? =
      if IsScalarValue (numeral 16 digits) then some (Char.ofNat (numeral 16 digits))
      else none := by
  rw [char?, valueOf_eq_numeral 16 h, ofCodePoint?_eq]

/-- **Numeric references.** Any number of decimal digits, of whatever script, behind `&#` and any
number of hexadecimal digits behind `&#x` or `&#X` are decoded as the character with the number that
they stand for. They stay as they are if there is no such character, or if a decimal digit is not
one of ASCII. -/
theorem unescape_numericReference (hne : digits ≠ []) :
    ((∀ c ∈ digits, Unicode.isDecimalDigit c = true) →
      unescape ("&#".toList ++ digits ++ [';']) =
        if digits.all Char.isDigit = true ∧ IsScalarValue (numeral 10 digits) then
          [Char.ofNat (numeral 10 digits)]
        else "&#".toList ++ digits ++ [';']) ∧
    ((∀ c ∈ digits, isHexDigit c = true) →
      ∀ x, x = 'x' ∨ x = 'X' →
        unescape ("&#".toList ++ x :: digits ++ [';']) =
          if IsScalarValue (numeral 16 digits) then [Char.ofNat (numeral 16 digits)]
          else "&#".toList ++ x :: digits ++ [';']) := by
  constructor
  · intro hdigits
    refine (unescape_loneReference (.decimal hne hdigits)).trans ?_
    rw [char?_decimal]
    split_ifs <;> rfl
  · intro hdigits x hx
    refine (unescape_loneReference (.hexadecimal hx hne hdigits)).trans ?_
    rw [char?_hexadecimal hdigits]
    split_ifs <;> rfl

/-- Leading zeros do not count, a number beyond the range of characters is not reduced to that
range, and a digit of another script has no value. -/
theorem unescape_numericReference_wide :
    unescape "&#000000000065;".toList = "A".toList ∧
      unescape "&#X000000000065;".toList = "e".toList ∧
      unescape "&#4294967361;".toList = "&#4294967361;".toList ∧
      unescape "&#6\u0665;".toList = "&#6\u0665;".toList := by
  have hzeros := @unescape_numericReference "000000000065".toList (by decide)
  have hlarge := @unescape_numericReference "4294967361".toList (by decide)
  have hmixed := @unescape_numericReference "6\u0665".toList (by decide)
  refine ⟨(hzeros.1 (List.all_eq_true.1 (by decide))).trans ?_,
    (hzeros.2 (List.all_eq_true.1 (by decide)) 'X' (.inr rfl)).trans ?_,
    (hlarge.1 (List.all_eq_true.1 (by decide))).trans ?_,
    (hmixed.1 (List.all_eq_true.1 (by decide))).trans ?_⟩ <;> decide

end WikiMarkup.CharacterReference
