import WikiMarkup.Options
/-!
# Configurations

A configuration is what a configuration file and the command line together ask for. It is laid out as
the file is, in a section on code blocks, one on paragraphs and one on task lists, and turns into the
options of a conversion.
-/

namespace WikiMarkup

/-- What is to become of newlines inside paragraphs, as it is asked for: yes, no, or by which text. -/
inductive NewlineSetting where
  | enabled (b : Bool)
  | text (t : Text)
deriving DecidableEq, Repr

instance : Inhabited NewlineSetting := ⟨.enabled false⟩

/-- What a setting makes of newlines. -/
def NewlineSetting.replacement : NewlineSetting → NewlineReplacement
  | .enabled b => .ofBool b
  | .text t => .text t

/-- Settings of the command line. Those that are given come before the ones of a file. -/
structure Settings where
  /-- The theme of code blocks. -/
  theme : Option Theme := none
  /-- Whether code blocks show line numbers. -/
  lineNumbers : Option Bool := none
  /-- Whether code blocks start collapsed. -/
  collapse : Option Bool := none
  /-- What becomes of newlines inside paragraphs. -/
  newlines : Option NewlineSetting := none
  /-- How the boxes of task lists are shown. -/
  taskList : Option TaskListStyle := none
deriving Inhabited

/-- The settings of a configuration. -/
structure Config where
  /-- The name of the theme of code blocks, which need not be the name of any theme. -/
  theme : Option Text := none
  /-- Whether code blocks show line numbers. -/
  lineNumbers : Bool := false
  /-- Whether code blocks start collapsed. -/
  collapse : Bool := false
  /-- What becomes of newlines inside paragraphs. -/
  newlines : NewlineSetting := .enabled false
  /-- How the boxes of task lists are shown. -/
  taskList : TaskListStyle := .htmlCheckbox
deriving DecidableEq, Inhabited

namespace Config

/-- The theme of code blocks. A name that no theme has stands for the usual theme. -/
def resolvedTheme (c : Config) : Theme := (c.theme.bind Theme.ofName?).getD default

/-- A configuration with the settings of the command line. -/
def override (c : Config) (s : Settings) : Config where
  theme := (s.theme.map Theme.name).or c.theme
  lineNumbers := s.lineNumbers.getD c.lineNumbers
  collapse := s.collapse.getD c.collapse
  newlines := s.newlines.getD c.newlines
  taskList := s.taskList.getD c.taskList

/-- A configuration makes sense: newlines are not replaced by nothing. -/
def isValid (c : Config) : Bool := c.newlines ≠ .text []

/-- The options of a conversion. -/
def options (c : Config) : Options where
  theme := c.resolvedTheme
  lineNumbers := .constant c.lineNumbers
  collapse := .constant c.collapse
  newlines := c.newlines.replacement
  taskList := c.taskList

end Config

end WikiMarkup
