import WikiMarkup.Config.Basic
/-!
# Commands

A command with its arguments, after these have been read. The arguments of the conversion may ask for
settings, and say nothing of the others.
-/

namespace WikiMarkup.CommandLine

/-- The arguments of the conversion command. -/
structure ConvertArguments where
  /-- The name of the document. -/
  input : Option String := none
  /-- The name of the file for the markup. -/
  output : Option String := none
  /-- The name of the configuration file. -/
  config : Option String := none
  /-- The theme of code blocks. -/
  theme : Option Theme := none
  /-- Code blocks are to show line numbers. -/
  lineNumbers : Bool := false
  /-- Code blocks are to show no line numbers. -/
  noLineNumbers : Bool := false
  /-- Code blocks are to start collapsed. -/
  collapse : Bool := false
  /-- Code blocks are not to start collapsed. -/
  noCollapse : Bool := false
  /-- The text in place of newlines inside paragraphs. -/
  replaceNewlines : Option Text := none
  /-- The boxes of task lists are to be left out. -/
  omitCheckboxes : Bool := false
deriving Inhabited

namespace ConvertArguments

/-- What two flags say of a setting, the one of which switches it on and the other one off. -/
def switched : Bool → Bool → Option Bool
  | true, _ => some true
  | false, true => some false
  | false, false => none

/-- The settings that the arguments ask for. -/
def settings (a : ConvertArguments) : Settings where
  theme := a.theme
  lineNumbers := switched a.lineNumbers a.noLineNumbers
  collapse := switched a.collapse a.noCollapse
  newlines := a.replaceNewlines.map .text
  taskList := if a.omitCheckboxes then some .omit else none

end ConvertArguments

/-- A command with its arguments. -/
inductive Command where
  /-- Converts a document. -/
  | convert (a : ConvertArguments)
  /-- Shows the languages, or the one that a hint stands for. -/
  | languages (hint : Option String)

end WikiMarkup.CommandLine
