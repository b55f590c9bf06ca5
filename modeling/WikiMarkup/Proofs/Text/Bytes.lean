import Mathlib.Tactic.Common
import WikiMarkup.Text.Basic
/-!
# Positions in bytes

A text that is stored as bytes in UTF-8 is searched by numbers of bytes, and not every such number
is a position: there may be no byte, the byte may lie inside a character, or one position may be
subtracted from an earlier one. The operations of this file say so. What makes a search for an ASCII
character safe is that its byte is part of no other character (`asciiByte_mem_bytes`), so that a
position behind it is always one between two characters (`fromByte_append`).
-/

namespace WikiMarkup

/-- A number that is not a position in a text. -/
inductive PositionError where
  /-- No byte of the text has this number. -/
  | noByte (i : Nat)
  /-- No character begins with this byte, and the text does not end before it. -/
  | noBoundary (i : Nat)
  /-- The second position comes before the first one. -/
  | backwards (i j : Nat)
deriving DecidableEq, Repr

namespace Text

/-- The bytes of a text in UTF-8. -/
def bytes (t : Text) : List UInt8 := t.flatMap String.utf8EncodeChar

/-- The byte with a number. -/
def byteAt (t : Text) (i : Nat) : Except PositionError UInt8 :=
  match t.bytes[i]? with
  | some b => .ok b
  | none => .error (.noByte i)

/-- What is left of a text behind a number of bytes, if that is a number of whole characters. -/
def dropBytes? : Text → Nat → Option Text
  | t, 0 => some t
  | [], _ + 1 => none
  | c :: t, n + 1 => if c.utf8Size ≤ n + 1 then dropBytes? t (n + 1 - c.utf8Size) else none

/-- The part of a text that begins with the byte with a number. -/
def fromByte (t : Text) (i : Nat) : Except PositionError Text :=
  match t.dropBytes? i with
  | some rest => .ok rest
  | none => .error (.noBoundary i)

/-- The number of bytes from one position to a later one. -/
def distance (i j : Nat) : Except PositionError Nat :=
  if i ≤ j then .ok (j - i) else .error (.backwards i j)

/-! ### Bytes of characters -/

variable {c a : Char} {s t u : Text}

@[simp] lemma bytes_nil : bytes [] = [] := rfl

@[simp] lemma bytes_cons : bytes (c :: t) = String.utf8EncodeChar c ++ bytes t := rfl

@[simp] lemma bytes_append : bytes (s ++ t) = bytes s ++ bytes t := List.flatMap_append

lemma length_bytes_pos (ht : t ≠ []) : 0 < t.bytes.length := by
  obtain ⟨c, t, rfl⟩ := List.exists_cons_of_ne_nil ht
  have hc := c.utf8Size_pos
  rw [bytes_cons, List.length_append, String.length_utf8EncodeChar]
  omega

lemma length_bytes_eq_zero : t.bytes.length = 0 ↔ t = [] := by
  constructor
  · intro h
    by_contra ht
    have hpos := length_bytes_pos ht
    omega
  · rintro rfl
    rfl

/-- An ASCII character is its own only byte. -/
lemma utf8EncodeChar_ascii (ha : a.toNat < 128) :
    String.utf8EncodeChar a = [UInt8.ofNat a.toNat] := by
  rw [String.utf8EncodeChar]
  exact if_pos (Nat.le_of_lt_succ ha)

/-- No byte of a character beyond ASCII is the byte of an ASCII character. -/
lemma le_of_mem_utf8EncodeChar {b : UInt8} (hc : 128 ≤ c.toNat)
    (h : b ∈ String.utf8EncodeChar c) : 128 ≤ b.toNat := by
  have hlong : ¬c.val.toNat ≤ 127 := Nat.not_le_of_lt hc
  simp only [String.utf8EncodeChar, if_neg hlong] at h
  -- The cases are characters of two, three and four bytes.
  split at h
  · simp only [List.mem_cons, List.not_mem_nil, or_false] at h
    rcases h with rfl | rfl <;> simp only [UInt8.toNat_ofNat'] <;> omega
  · split at h
    · simp only [List.mem_cons, List.not_mem_nil, or_false] at h
      rcases h with rfl | rfl | rfl <;> simp only [UInt8.toNat_ofNat'] <;> omega
    · simp only [List.mem_cons, List.not_mem_nil, or_false] at h
      rcases h with rfl | rfl | rfl | rfl <;> simp only [UInt8.toNat_ofNat'] <;> omega

/-- The byte of an ASCII character is part of no other character. -/
lemma eq_of_asciiByte_mem (ha : a.toNat < 128)
    (h : UInt8.ofNat a.toNat ∈ String.utf8EncodeChar c) : c = a := by
  have hbyte : (UInt8.ofNat a.toNat).toNat = a.toNat := by
    rw [UInt8.toNat_ofNat']
    omega
  by_cases hc : c.toNat < 128
  · rw [utf8EncodeChar_ascii hc, List.mem_singleton] at h
    have hvalue := congrArg UInt8.toNat h
    rw [hbyte, UInt8.toNat_ofNat'] at hvalue
    refine Char.toNat_inj.1 ?_
    omega
  · have hlarge := le_of_mem_utf8EncodeChar (by omega) h
    omega

lemma asciiByte_mem_bytes (ha : a.toNat < 128) : UInt8.ofNat a.toNat ∈ t.bytes ↔ a ∈ t := by
  rw [bytes, List.mem_flatMap]
  constructor
  · rintro ⟨c, hc, hbyte⟩
    rwa [← eq_of_asciiByte_mem ha hbyte]
  · intro h
    exact ⟨a, h, by rw [utf8EncodeChar_ascii ha]; exact List.mem_singleton_self _⟩

/-! ### Positions between characters -/

lemma dropBytes?_append (p u : Text) : dropBytes? (p ++ u) p.bytes.length = some u := by
  induction p with
  | nil => cases u <;> rfl
  | cons c p ih =>
    have hc := c.utf8Size_pos
    have hlength : (bytes (c :: p)).length = c.utf8Size - 1 + (bytes p).length + 1 := by
      rw [bytes_cons, List.length_append, String.length_utf8EncodeChar]
      omega
    have hrest : c.utf8Size - 1 + (bytes p).length + 1 - c.utf8Size = (bytes p).length := by
      omega
    rw [hlength, List.cons_append, dropBytes?, if_pos (by omega), hrest, ih]

/-- The number of bytes of the characters before it is a position of a text. -/
lemma fromByte_append (p u : Text) : (p ++ u).fromByte p.bytes.length = .ok u := by
  rw [fromByte, dropBytes?_append]

example : fromByte "é|".toList 1 = .error (.noBoundary 1) := rfl

lemma byteAt_append (p u : Text) (i : Nat) :
    (p ++ u).byteAt (p.bytes.length + i) =
      match u.bytes[i]? with
      | some b => .ok b
      | none => .error (.noByte (p.bytes.length + i)) := by
  rw [byteAt, bytes_append, List.getElem?_append_right (Nat.le_add_right _ i),
    Nat.add_sub_cancel_left]

end Text

end WikiMarkup
