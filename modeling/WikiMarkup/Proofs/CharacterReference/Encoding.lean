import WikiMarkup.Proofs.CharacterReference.Numeral
/-!
# Encoded text

Each character of a text may be encoded in its own way: as it is, by its name, or by its number, in
which the letters may be in either case and any number of zeros may come first. Decoding gives back
the text, whatever ways are chosen (`unescape_flatten_of_encodes`). A reference is closed by its
semicolon, so that the characters behind it do not matter, and what has been decoded is not read
again.
-/

namespace WikiMarkup.CharacterReference

/-- The characters with a name. -/
def namedCharacters : List (Text × Char) :=
  [("amp".toList, '&'), ("lt".toList, '<'), ("gt".toList, '>'), ("quot".toList, '"'),
   ("colon".toList, ':')]

/-- Digits that write a number in a base: the digits of the number, in either case, behind any
number of zeros. -/
def Writes (base n : Nat) (digits : Text) : Prop :=
  ∃ zeros, Text.asciiLowercase digits = List.replicate zeros '0' ++ Nat.toDigits base n

/-- The ways to encode a character. -/
inductive Encodes : Char → Text → Prop where
  /-- The character itself, unless it is an ampersand. -/
  | plain {c : Char} (hc : c ≠ '&') : Encodes c [c]
  /-- Its name, with letters in either case. -/
  | named {c : Char} {name : Text} (hname : (Text.asciiLowercase name, c) ∈ namedCharacters) :
    Encodes c ("&".toList ++ name ++ [';'])
  /-- Its number in base ten. -/
  | decimal {c : Char} {digits : Text} (hdigits : Writes 10 c.toNat digits) :
    Encodes c ("&#".toList ++ digits ++ [';'])
  /-- Its number in base sixteen. -/
  | hexadecimal {c x : Char} {digits : Text} (hx : x = 'x' ∨ x = 'X')
      (hdigits : Writes 16 c.toNat digits) :
    Encodes c ("&#".toList ++ x :: digits ++ [';'])

/-! ### Letters in either case -/

/-- Beyond ASCII a character is its own lowercase form. -/
lemma toLower_eq_self {c : Char} (hc : 128 ≤ c.toNat) : c.toLower = c := by
  refine dif_neg ?_
  rintro ⟨-, hlast⟩
  have hletter : c.toNat ≤ 90 := hlast
  omega

/-- What each ASCII character shares with its lowercase form every character does. -/
lemma of_toLower {p : Char → Bool}
    (hascii : ∀ n < 128, p (Char.ofNat n).toLower = true → p (Char.ofNat n) = true) {c : Char}
    (h : p c.toLower = true) : p c = true := by
  by_cases hc : c.toNat < 128
  · exact of_ascii (p := fun c => p c.toLower = true → p c = true) hascii hc h
  · rwa [toLower_eq_self (by omega)] at h

/-! ### Digits of numbers -/

section

variable {base n : Nat} {digits : Text}

/-- The digits of a number are written from the highest one to the lowest one. -/
lemma exists_toDigits_eq (hbase : 1 < base) (n : Nat) :
    ∃ ds : List Nat, Nat.toDigits base n = ds.map Nat.digitChar ∧ (∀ d ∈ ds, d < base) ∧
      Nat.ofDigits base ds.reverse = n := by
  induction n using Nat.strong_induction_on with
  | h n ih =>
    -- The lowest digit is the remainder, and the others are those of the quotient.
    rw [Nat.toDigits_eq_if hbase]
    split
    · rename_i hn
      exact ⟨[n], rfl, by simpa using hn, by simp⟩
    · obtain ⟨ds, htoDigits, hlt, hvalue⟩ :=
        ih (n / base) (Nat.div_lt_self (by omega) hbase)
      refine ⟨ds ++ [n % base], by simp [htoDigits], ?_, ?_⟩
      · intro d hd
        rcases List.mem_append.1 hd with hd | hd
        · exact hlt d hd
        · rw [List.mem_singleton.1 hd]
          exact Nat.mod_lt n (by omega)
      · rw [List.reverse_append, List.reverse_singleton, List.singleton_append, Nat.ofDigits_cons,
          hvalue, Nat.mod_add_div]

lemma digitValue_digitChar (hn : n < 16) : digitValue (Nat.digitChar n) = n := by
  have hall : ∀ n < 16, digitValue (Nat.digitChar n) = n := by decide
  exact hall n hn

lemma isHexDigit_digitChar (hn : n < 16) : isHexDigit (Nat.digitChar n) = true := by
  have hall : ∀ n < 16, isHexDigit (Nat.digitChar n) = true := by decide
  exact hall n hn

lemma isHexDigit_of_mem_toDigits (hbase : 1 < base) (hlast : base ≤ 16) {c : Char}
    (hc : c ∈ Nat.toDigits base n) : isHexDigit c = true := by
  obtain ⟨ds, htoDigits, hlt, -⟩ := exists_toDigits_eq hbase n
  rw [htoDigits] at hc
  obtain ⟨d, hd, rfl⟩ := List.mem_map.1 hc
  exact isHexDigit_digitChar (lt_of_lt_of_le (hlt d hd) hlast)

/-- The digits of a number stand for it. -/
lemma numeral_toDigits (hbase : 1 < base) (hlast : base ≤ 16) (n : Nat) :
    numeral base (Nat.toDigits base n) = n := by
  obtain ⟨ds, htoDigits, hlt, hvalue⟩ := exists_toDigits_eq hbase n
  have hread : ∀ d ∈ ds.reverse, (digitValue ∘ Nat.digitChar) d = id d := fun d hd =>
    digitValue_digitChar (lt_of_lt_of_le (hlt d (List.mem_reverse.1 hd)) hlast)
  rw [htoDigits, numeral, ← List.map_reverse, List.map_map, List.map_congr_left hread, List.map_id,
    hvalue]

lemma numeral_zeros_append (base zeros : Nat) (digits : Text) :
    numeral base (List.replicate zeros '0' ++ digits) = numeral base digits := by
  rw [numeral, List.reverse_append, List.map_append, List.reverse_replicate, List.map_replicate]
  exact Nat.ofDigits_append_replicate_zero _

lemma numeral_asciiLowercase (base : Nat) (h : ∀ c ∈ digits, isHexDigit c = true) :
    numeral base (Text.asciiLowercase digits) = numeral base digits := by
  have hread : ∀ c ∈ digits.reverse, (digitValue ∘ Char.toLower) c = digitValue c := fun c hc =>
    of_isHexDigit (p := fun c => digitValue c.toLower = digitValue c) (by decide)
      (h c (List.mem_reverse.1 hc))
  rw [numeral, Text.asciiLowercase, ← List.map_reverse, List.map_map, List.map_congr_left hread]
  rfl

namespace Writes

lemma ne_nil (h : Writes base n digits) : digits ≠ [] := by
  rintro rfl
  obtain ⟨zeros, hdigits⟩ := h
  exact Nat.toDigits_ne_nil (List.append_eq_nil_iff.1 hdigits.symm).2

/-- The characters of a written number are those of its digits in lowercase. -/
lemma toLower_mem (h : Writes base n digits) {c : Char} (hc : c ∈ digits) :
    c.toLower = '0' ∨ c.toLower ∈ Nat.toDigits base n := by
  obtain ⟨zeros, hdigits⟩ := h
  have hlower : c.toLower ∈ Text.asciiLowercase digits := List.mem_map_of_mem hc
  rw [hdigits] at hlower
  exact (List.mem_append.1 hlower).imp_left List.eq_of_mem_replicate

lemma isHexDigit (hbase : 1 < base) (hlast : base ≤ 16) (h : Writes base n digits) :
    ∀ c ∈ digits, CharacterReference.isHexDigit c = true := by
  intro c hc
  refine of_toLower (p := CharacterReference.isHexDigit) (by decide) ?_
  rcases h.toLower_mem hc with hzero | hdigit
  · rw [hzero]
    rfl
  · exact isHexDigit_of_mem_toDigits hbase hlast hdigit

lemma isDigit (h : Writes 10 n digits) : ∀ c ∈ digits, c.isDigit = true := by
  intro c hc
  refine of_toLower (p := Char.isDigit) (by decide) ?_
  rcases h.toLower_mem hc with hzero | hdigit
  · rw [hzero]
    rfl
  · exact Nat.isDigit_of_mem_toDigits (by omega) le_rfl hdigit

/-- A written number is read back. -/
lemma numeral_eq (hbase : 1 < base) (hlast : base ≤ 16) (h : Writes base n digits) :
    numeral base digits = n := by
  rw [← numeral_asciiLowercase base (h.isHexDigit hbase hlast)]
  obtain ⟨zeros, hdigits⟩ := h
  rw [hdigits, numeral_zeros_append, numeral_toDigits hbase hlast]

end Writes

end

/-! ### Decoding what has been encoded -/

/-- A text spells a reference that names a character. -/
def Names (w : Text) (c : Char) : Prop := ∃ r, Spells r w ∧ r.char? = some c

lemma names_of_mem_namedCharacters {name : Text} {c : Char}
    (h : (Text.asciiLowercase name, c) ∈ namedCharacters) : Names name c := by
  have hall : (namedCharacters.all fun entry => entry.1 ≠ [] ∧ entry.1.all Unicode.isWord = true ∧
      ofName? entry.1 = some entry.2 ∧ Text.asciiLowercase entry.1 = entry.1) = true := by decide
  obtain ⟨hne, hword, hfound, hlower⟩ := of_decide_eq_true (List.all_eq_true.1 hall _ h)
  refine ⟨.named name, .named ?_ ?_, ?_⟩
  · rintro rfl
    exact hne rfl
  · intro d hd
    exact of_toLower (p := Unicode.isWord) (by decide)
      (List.all_eq_true.1 hword d.toLower (List.mem_map_of_mem hd))
  · -- A name is looked up in lowercase, and what is in lowercase stays as it is.
    have hsame : ofName? name = ofName? (Text.asciiLowercase name) := by
      rw [ofName?, ofName?, hlower]
    rw [char?, hsame, hfound]

lemma isDecimalDigit_of_isDigit {c : Char} (h : c.isDigit = true) :
    Unicode.isDecimalDigit c = true := by
  have hlast : c.toNat ≤ 57 := (Char.isDigit_iff_toNat.1 h).2
  rw [Unicode.isDecimalDigit, if_pos (by omega), h]

lemma names_decimal {c : Char} {digits : Text} (h : Writes 10 c.toNat digits) :
    Names ('#' :: digits) c := by
  have hascii : digits.all Char.isDigit = true := List.all_eq_true.2 h.isDigit
  have hvalue : numeral 10 digits = c.toNat := h.numeral_eq (by omega) (by omega)
  refine ⟨.decimal digits, .decimal h.ne_nil ?_, ?_⟩
  · intro d hd
    exact isDecimalDigit_of_isDigit (h.isDigit d hd)
  · rw [char?_decimal, hvalue, if_pos ⟨hascii, isScalarValue_toNat c⟩, Char.ofNat_toNat]

lemma names_hexadecimal {c x : Char} {digits : Text} (hx : x = 'x' ∨ x = 'X')
    (h : Writes 16 c.toNat digits) : Names ('#' :: x :: digits) c := by
  have hdigits := h.isHexDigit (by omega) le_rfl
  have hvalue : numeral 16 digits = c.toNat := h.numeral_eq (by omega) le_rfl
  refine ⟨.hexadecimal digits, .hexadecimal hx h.ne_nil hdigits, ?_⟩
  rw [char?_hexadecimal hdigits, hvalue, if_pos (isScalarValue_toNat c), Char.ofNat_toNat]

lemma Names.unescape_eq_cons {w : Text} {c : Char} (h : Names w c) (t : Text) :
    unescape ('&' :: (w ++ ';' :: t)) = c :: unescape t := by
  obtain ⟨r, hw, hc⟩ := h
  rw [unescape_closedReference hw, hc]
  rfl

/-- An encoded character is decoded by itself, whatever follows. -/
lemma Encodes.unescape_code_append {c : Char} {code : Text} (h : Encodes c code) (t : Text) :
    unescape (code ++ t) = c :: unescape t := by
  cases h with
  | plain hc => exact unescape_cons_of_ne hc t
  | named hname => simpa using (names_of_mem_namedCharacters hname).unescape_eq_cons t
  | decimal hdigits => simpa using (names_decimal hdigits).unescape_eq_cons t
  | hexadecimal hx hdigits => simpa using (names_hexadecimal hx hdigits).unescape_eq_cons t

/-- **Decoding undoes encoding.** A text whose characters have been encoded, each in a way of its
own, is decoded to the text. -/
theorem unescape_flatten_of_encodes {s : Text} {codes : List Text}
    (h : List.Forall₂ Encodes s codes) : unescape codes.flatten = s := by
  induction h with
  | nil => rfl
  | @cons c code s codes hc _ ih => rw [List.flatten_cons, hc.unescape_code_append, ih]

/-- The semicolon of a reference is not the one that belongs to the text, an encoded ampersand does
not begin a reference, and a letter behind a number does not continue it. -/
theorem unescape_flatten_of_encodes_ampersand :
    unescape "&Amp;lt;&#x0009;a&#X3b;&COLON;&#0233;1".toList = "&lt;\ta;:\u00e91".toList := by
  refine @unescape_flatten_of_encodes "&lt;\ta;:\u00e91".toList
    ["&Amp;".toList, ['l'], ['t'], [';'], "&#x0009;".toList, ['a'], "&#X3b;".toList,
      "&COLON;".toList, "&#0233;".toList, ['1']] ?_
  exact .cons (@Encodes.named '&' "Amp".toList (by decide)) <|
    .cons (.plain (by decide)) <| .cons (.plain (by decide)) <|
    .cons (.plain (by decide)) <|
    .cons (@Encodes.hexadecimal '\t' 'x' "0009".toList (.inl rfl) ⟨3, by decide⟩) <|
    .cons (.plain (by decide)) <|
    .cons (@Encodes.hexadecimal ';' 'X' "3b".toList (.inr rfl) ⟨0, by decide⟩) <|
    .cons (@Encodes.named ':' "COLON".toList (by decide)) <|
    .cons (@Encodes.decimal '\u00e9' "0233".toList ⟨1, by decide⟩) <|
    .cons (.plain (by decide)) .nil

end WikiMarkup.CharacterReference
