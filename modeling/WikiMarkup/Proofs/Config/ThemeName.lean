import Mathlib.Data.List.Forall2
import Mathlib.Data.List.Nodup
import Mathlib.Tactic.Common
import WikiMarkup.Theme
/-!
# The theme that a name stands for

A configuration stores a theme by its name, and the case of ASCII letters does not count in it. No two
themes have the same name in this sense, so a name stands for one theme only. A name that no theme
has, and no name at all, stand for the wiki's own theme.
-/

namespace WikiMarkup

/-! ### Letters in either case -/

/-- Two characters are the same one, or the capital and the small form of one ASCII letter. -/
inductive SameLetter : Char → Char → Prop
  | same (c : Char) : SameLetter c c
  | capital {c d : Char} (hfirst : 'A' ≤ c) (hlast : c ≤ 'Z') (h : d.toNat = c.toNat + 32) :
      SameLetter c d
  | small {c d : Char} (hfirst : 'A' ≤ d) (hlast : d ≤ 'Z') (h : c.toNat = d.toNat + 32) :
      SameLetter c d

/-- Two texts have the same letters, each of which may be in either case. -/
def SameLetters : Text → Text → Prop := List.Forall₂ SameLetter

section

variable {c d : Char}

lemma toNat_toLower_of_isUpper (h : c.isUpper = true) : c.toLower.toNat = c.toNat + 32 := by
  have hbounds : 'A'.val ≤ c.val ∧ c.val ≤ 'Z'.val := of_decide_eq_true h
  have hlast : c.toNat ≤ 90 := hbounds.2
  have hshift : c.toLower.val = c.val + 32 := congrArg Char.val (dif_pos hbounds)
  rw [← Char.toNat_val, hshift, UInt32.toNat_add, Char.toNat_val]
  change (c.toNat + 32) % 2 ^ 32 = c.toNat + 32
  omega

lemma toLower_of_not_isUpper (h : c.isUpper ≠ true) : c.toLower = c :=
  dif_neg fun hbounds => h (decide_eq_true hbounds)

lemma SameLetter.toLower_eq (h : SameLetter c d) : c.toLower = d.toLower := by
  have hpair : ∀ {c d : Char}, 'A' ≤ c → c ≤ 'Z' → d.toNat = c.toNat + 32 →
      c.toLower = d.toLower := by
    intro c d hfirst hlast hshift
    have hc : c.isUpper = true := decide_eq_true ⟨hfirst, hlast⟩
    have hd : d.isUpper ≠ true := by
      intro hd
      have hfirst : 65 ≤ c.toNat := hfirst
      have hlast : d.toNat ≤ 90 := (of_decide_eq_true hd : 'A'.val ≤ d.val ∧ d.val ≤ 'Z'.val).2
      omega
    rw [toLower_of_not_isUpper hd, ← Char.toNat_inj, toNat_toLower_of_isUpper hc, hshift]
  cases h with
  | same => rfl
  | capital hfirst hlast hshift => exact hpair hfirst hlast hshift
  | small hfirst hlast hshift => exact (hpair hfirst hlast hshift).symm

lemma toLower_eq_iff : c.toLower = d.toLower ↔ SameLetter c d := by
  refine ⟨fun h => ?_, SameLetter.toLower_eq⟩
  by_cases hc : c.isUpper = true <;> by_cases hd : d.isUpper = true
  · rw [← Char.toNat_inj, toNat_toLower_of_isUpper hc, toNat_toLower_of_isUpper hd,
      Nat.add_right_cancel_iff, Char.toNat_inj] at h
    exact h ▸ .same c
  · rw [toLower_of_not_isUpper hd, ← Char.toNat_inj, toNat_toLower_of_isUpper hc] at h
    obtain ⟨hfirst, hlast⟩ : 'A'.val ≤ c.val ∧ c.val ≤ 'Z'.val := of_decide_eq_true hc
    exact .capital hfirst hlast h.symm
  · rw [toLower_of_not_isUpper hc, ← Char.toNat_inj, toNat_toLower_of_isUpper hd] at h
    obtain ⟨hfirst, hlast⟩ : 'A'.val ≤ d.val ∧ d.val ≤ 'Z'.val := of_decide_eq_true hd
    exact .small hfirst hlast h
  · rw [toLower_of_not_isUpper hc, toLower_of_not_isUpper hd] at h
    exact h ▸ .same c

end

lemma asciiLowercase_eq_iff {t u : Text} :
    t.asciiLowercase = u.asciiLowercase ↔ SameLetters t u := by
  rw [Text.asciiLowercase, Text.asciiLowercase, ← List.forall₂_eq_eq_eq, List.forall₂_map_left_iff,
    List.forall₂_map_right_iff]
  simp only [toLower_eq_iff, SameLetters]

/-! ### Names of themes -/

namespace Theme

/-- The theme that a stored name stands for: the one with that name up to the case of ASCII letters,
and the wiki's own one if there is no name or no theme has it. -/
inductive StandsFor : Option Text → Theme → Prop
  | named {t : Text} {theme : Theme} (h : SameLetters theme.name t) : StandsFor (some t) theme
  | unknown {t : Text} (h : ∀ theme : Theme, ¬ SameLetters theme.name t) :
      StandsFor (some t) .confluence
  | absent : StandsFor none .confluence

/-- Themes whose names differ in nothing but case are the same theme. -/
lemma eq_of_asciiLowercase_name_eq {a b : Theme}
    (h : a.name.asciiLowercase = b.name.asciiLowercase) : a = b := by
  have hdistinct : (all.map fun theme => theme.name.asciiLowercase).Nodup := by decide
  exact List.inj_on_of_nodup_map hdistinct (mem_all a) (mem_all b) h

/-- A name stands for one theme only. -/
lemma StandsFor.unique {name : Option Text} {a b : Theme} (ha : StandsFor name a)
    (hb : StandsFor name b) : a = b := by
  cases ha with
  | named h =>
    cases hb with
    | named h' =>
      refine eq_of_asciiLowercase_name_eq ?_
      rw [asciiLowercase_eq_iff.2 h, asciiLowercase_eq_iff.2 h']
    | unknown hno => exact absurd h (hno _)
  | unknown hno =>
    cases hb with
    | named h => exact absurd h (hno _)
    | unknown => rfl
  | absent =>
    cases hb
    rfl

lemma sameLetters_name_of_ofName? {t : Text} {theme : Theme} (h : ofName? t = some theme) :
    SameLetters theme.name t :=
  asciiLowercase_eq_iff.1 (by simpa using List.find?_some h)

lemma not_sameLetters_of_ofName?_eq_none {t : Text} (h : ofName? t = none) (theme : Theme) :
    ¬ SameLetters theme.name t := by
  intro hname
  simpa [asciiLowercase_eq_iff.2 hname] using List.find?_eq_none.mp h theme (mem_all theme)

lemma standsFor_ofName? (name : Option Text) :
    StandsFor name ((name.bind ofName?).getD default) := by
  cases name with
  | none => exact .absent
  | some t =>
    rw [Option.bind_some]
    cases hfound : ofName? t with
    | none => exact .unknown (not_sameLetters_of_ofName?_eq_none hfound)
    | some theme => exact .named (sameLetters_name_of_ofName? hfound)

/-- The name of a theme is read as that theme, so a theme survives being stored by its name. -/
lemma ofName?_name (theme : Theme) : ofName? theme.name = some theme := by
  have hname : SameLetters theme.name theme.name := asciiLowercase_eq_iff.1 rfl
  cases hfound : ofName? theme.name with
  | none => exact absurd hname (not_sameLetters_of_ofName?_eq_none hfound theme)
  | some other =>
    exact congrArg some ((StandsFor.named (sameLetters_name_of_ofName? hfound)).unique (.named hname))

end Theme

end WikiMarkup
