import Mathlib.Tactic.Common
import WikiMarkup.Config.Load
/-!
# The stored configuration

Before any setting of the command line counts, a configuration is loaded from a file: the one that
is asked for, or else the nearest one. This file says which file that is and what is made of it, for
a world that is a plain value. Loading only looks at the world and leaves it as it was.
-/

namespace WikiMarkup

/-- Text that is written in UTF-8 is read back. -/
lemma decodeText_toUTF8 (s : String) : decodeText s.toUTF8 = .ok s.toList := by
  have hread : String.fromUTF8? s.toUTF8 = some s := by
    rw [String.fromUTF8?, String.toUTF8_eq_toByteArray, dif_pos s.isValidUTF8]
    rfl
  rw [decodeText, hread]

/-- Bytes are decoded as the text whose UTF-8 they are. -/
lemma decodeText_eq_ok_iff {bytes : ByteArray} {t : Text} :
    decodeText bytes = .ok t ↔ bytes = (String.ofList t).toUTF8 := by
  constructor
  · intro h
    rw [decodeText, String.fromUTF8?] at h
    split_ifs at h
    cases h
    rw [String.ofList_toList]
    rfl
  · rintro rfl
    rw [decodeText_toUTF8, String.toList_ofList]

/-- No other bytes are decoded. -/
lemma decodeText_eq_error_iff {bytes : ByteArray} {e : FileError} :
    decodeText bytes = .error e ↔
      e = .invalidText ∧ ∀ t : Text, bytes ≠ (String.ofList t).toUTF8 := by
  have hcases : (∃ t, decodeText bytes = .ok t) ∨ decodeText bytes = .error .invalidText := by
    unfold decodeText
    cases String.fromUTF8? bytes with
    | none => exact .inr rfl
    | some s => exact .inl ⟨_, rfl⟩
  rcases hcases with ⟨t, ht⟩ | hinvalid
  · constructor
    · intro h
      cases ht.symm.trans h
    · rintro ⟨-, hno⟩
      exact absurd (decodeText_eq_ok_iff.1 ht) (hno t)
  · constructor
    · intro h
      obtain rfl := Except.error.inj (hinvalid.symm.trans h)
      refine ⟨rfl, fun t ht => ?_⟩
      cases hinvalid.symm.trans (decodeText_eq_ok_iff.2 ht)
    · rintro ⟨rfl, -⟩
      exact hinvalid

namespace World

variable (w : World)

/-- The text of the file at a location. -/
def readText (location : Location) : Except FileError Text := (w.read location).bind decodeText

/-- What reading the file at a location as a text ends in: the text whose UTF-8 the bytes of the
file are, or why there is none. -/
inductive Reads (location : Location) : Except FileError Text → Prop
  | text {t : Text} (h : w.read location = .ok (String.ofList t).toUTF8) : Reads location (.ok t)
  | unreadable {e : FileError} (h : w.read location = .error e) : Reads location (.error e)
  | undecodable {bytes : ByteArray} (h : w.read location = .ok bytes)
      (hno : ∀ t : Text, bytes ≠ (String.ofList t).toUTF8) : Reads location (.error .invalidText)

variable {w} in
lemma reads_iff {location : Location} {r : Except FileError Text} :
    w.Reads location r ↔ w.readText location = r := by
  constructor
  · rintro (h | h | ⟨h, hno⟩)
    · rw [readText, h]
      exact decodeText_eq_ok_iff.2 rfl
    · rw [readText, h]
      rfl
    · rw [readText, h]
      exact decodeText_eq_error_iff.2 ⟨rfl, hno⟩
  · rintro rfl
    rw [readText]
    cases h : w.read location with
    | error e => exact .unreadable h
    | ok bytes =>
      rw [Except.bind]
      cases hdecode : decodeText bytes with
      | ok t => exact .text (h.trans (congrArg Except.ok (decodeText_eq_ok_iff.1 hdecode)))
      | error e =>
        obtain ⟨rfl, hno⟩ := decodeText_eq_error_iff.1 hdecode
        exact .undecodable h hno

/-- The path of the nearest configuration file. -/
def nearest? : Option Path := (Config.candidates w.cwd).find? fun p => w.hasEntry (.rooted p)

/-- The configuration file: the one that is asked for, if it exists, or else the nearest one. -/
def configFile? : Option String → Option Location
  | some name => if w.hasEntry (.named name) then some (.named name) else none
  | none => w.nearest?.map .rooted

end World

namespace Config

/-- The settings that are stored for a world and the name of a file that may be asked for: those of
the configuration file, or none if there is no file and none is asked for. -/
inductive Stored (decode : Text → Option Config) (w : World) :
    Option String → Option Config → Prop
  | file {name : Option String} {location : Location} {t : Text} {c : Config}
      (hfile : w.configFile? name = some location) (hread : w.Reads location (.ok t))
      (hdecode : decode t = some c) : Stored decode w name (some c)
  | nothing (hfile : w.nearest? = none) : Stored decode w none none

variable (decode : Text → Option Config) (w : World)

lemma run_firstEntry? (ps : List Path) :
    firstEntry? (m := StateM World) ps w = (ps.find? fun p => w.hasEntry (.rooted p), w) := by
  induction ps with
  | nil => rfl
  | cons p ps ih =>
    change (if w.hasEntry (.rooted p) then (pure (some p) : StateM World (Option Path))
      else firstEntry? ps) w = _
    rw [List.find?_cons]
    cases w.hasEntry (.rooted p) with
    | true => rfl
    | false => exact ih

lemma run_discover? : (discover? (m := StateM World)).run w = (w.nearest?, w) :=
  run_firstEntry? w (candidates w.cwd)

/-- A file is loaded as the configuration that its text describes. -/
lemma run_loadFile (location : Location) :
    (loadFile (m := StateM World) decode location).run w =
      (((w.readText location).mapError .unreadable).bind fun t =>
        (decode t).elim (.error .malformed) fun c => .ok ⟨c, some location⟩, w) := by
  have hread : (Host.readFile location : StateM World (Except FileError ByteArray)).run w =
      (w.read location, w) := rfl
  rw [loadFile, StateT.run_bind, hread, World.readText]
  cases w.read location with
  | error e => rfl
  | ok bytes =>
    change ((ofBytes decode bytes).map fun c => (⟨c, some location⟩ : LoadedConfig), w) = _
    rw [ofBytes, Except.bind]
    cases decodeText bytes with
    | error e => rfl
    | ok t => cases hdecode : decode t <;> simp [Except.map, Except.mapError, Except.bind, hdecode]

end Config

end WikiMarkup
