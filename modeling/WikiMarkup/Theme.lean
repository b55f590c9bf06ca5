import WikiMarkup.Text.Basic
/-!
# Themes

The colour themes of the code block macro.
-/

namespace WikiMarkup

/-- A theme of the code block macro. -/
inductive Theme where
  | dJango
  | emacs
  | fadeToGrey
  | midnight
  | rDark
  | eclipse
  | confluence
deriving DecidableEq, Repr

/-- Where no theme is asked for, the wiki's own one is taken. -/
instance : Inhabited Theme := ⟨.confluence⟩

namespace Theme

/-- Every theme. -/
def all : List Theme :=
  [.dJango, .emacs, .fadeToGrey, .midnight, .rDark, .eclipse, .confluence]

/-- The name of a theme as the macro expects it. -/
def name : Theme → Text
  | .dJango => "DJango".toList
  | .emacs => "Emacs".toList
  | .fadeToGrey => "FadeToGrey".toList
  | .midnight => "Midnight".toList
  | .rDark => "RDark".toList
  | .eclipse => "Eclipse".toList
  | .confluence => "Confluence".toList

/-- The theme with a name, up to the case of ASCII letters. -/
def ofName? (t : Text) : Option Theme :=
  all.find? fun theme => theme.name.asciiLowercase = t.asciiLowercase

/-- The theme with a name, letter for letter. -/
def ofExactName? (t : Text) : Option Theme :=
  all.find? fun theme => theme.name = t

theorem mem_all (theme : Theme) : theme ∈ all := by
  cases theme <;> decide

end Theme

/-- A name that no theme has. -/
structure UnknownTheme where
  /-- The name as it was given. -/
  name : Text

/-- What is said of a name that no theme has. -/
def UnknownTheme.message (e : UnknownTheme) : Text :=
  "unknown code block theme: ".toList ++ e.name

/-- Reads the name of a theme. -/
def Theme.read (t : Text) : Except UnknownTheme Theme :=
  match Theme.ofName? t with
  | some theme => .ok theme
  | none => .error ⟨t⟩

end WikiMarkup
