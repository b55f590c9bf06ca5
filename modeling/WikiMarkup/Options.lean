import WikiMarkup.Language
import WikiMarkup.Theme
/-!
# Options

What a conversion can be asked for: the parameters of code blocks, what becomes of the newlines
inside paragraphs, and how the boxes of task lists are shown.
-/

namespace WikiMarkup

/-- A yes-or-no parameter of code blocks: the same for every block, or decided for each one by its
code and its language. -/
inductive Flag where
  /-- The same for every block. -/
  | constant (value : Bool)
  /-- Decided by the code and the language of a block. -/
  | computed (predicate : Text → Language → Bool)

instance : Inhabited Flag := ⟨.constant false⟩

/-- The value of a flag for one block. -/
def Flag.resolve : Flag → Text → Language → Bool
  | .constant value, _, _ => value
  | .computed predicate, code, language => predicate code language

/-- What becomes of a newline inside a paragraph. -/
inductive NewlineReplacement where
  /-- It stays. -/
  | off
  /-- It becomes a space. -/
  | space
  /-- It becomes a given text. -/
  | text (replacement : Text)
deriving DecidableEq, Repr, Inhabited

namespace NewlineReplacement

/-- The text that takes the place of a newline, if there is one. -/
def replacement? : NewlineReplacement → Option Text
  | .off => none
  | .space => some [' ']
  | .text t => some t

/-- Switches the replacement by a space on or off. -/
def ofBool : Bool → NewlineReplacement
  | true => .space
  | false => .off

end NewlineReplacement

/-- How the box of a task list item is shown. -/
inductive TaskListStyle where
  /-- As a disabled check box in HTML. -/
  | htmlCheckbox
  /-- Not at all. -/
  | omit
deriving DecidableEq, Repr, Inhabited

/-- The options of a conversion. -/
structure Options where
  /-- The theme of code blocks. -/
  theme : Theme := default
  /-- Whether code blocks show line numbers. -/
  lineNumbers : Flag := default
  /-- Whether code blocks start collapsed. -/
  collapse : Flag := default
  /-- What becomes of newlines inside paragraphs. -/
  newlines : NewlineReplacement := .off
  /-- How the boxes of task lists are shown. -/
  taskList : TaskListStyle := .htmlCheckbox

instance : Inhabited Options := ⟨{}⟩

end WikiMarkup
