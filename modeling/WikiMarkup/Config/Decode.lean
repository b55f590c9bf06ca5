import WikiMarkup.Config.Basic
import WikiMarkup.Toml.Reader
/-!
# Reading configurations

A configuration file is a TOML document. What it leaves out keeps its usual value, and what it holds
beyond the known settings is ignored; but a known setting must have a value of its kind.
-/

namespace WikiMarkup.Config

open Toml (Value Table)

/-- The text of a value. -/
def text? : Value → Option Text
  | .string t => some t
  | _ => none

/-- The truth value of a value. -/
def bool? : Value → Option Bool
  | .boolean b => some b
  | _ => none

/-- The setting for newlines that a value stands for. -/
def newlines? : Value → Option NewlineSetting
  | .boolean b => some (.enabled b)
  | .string t => some (.text t)
  | _ => none

/-- The style with a name. -/
def styleOfName? (t : Text) : Option TaskListStyle :=
  if t = "checkbox".toList then some .htmlCheckbox
  else if t = "omit".toList then some .omit
  else none

/-- The style that a value stands for: by its name, or by a table whose only key is the name and holds
nothing. -/
def style? : Value → Option TaskListStyle
  | .string t => styleOfName? t
  | .table [(name, .table [])] => styleOfName? name
  | .table [(name, .array [])] => styleOfName? name
  | _ => none

/-- The settings of a section by their keys, or in the order of the keys if the section is an array. -/
def section? (keys : List Text) : Value → Option Table
  | .table entries => some entries
  | .array items => some (keys.zip items)
  | _ => none

/-- The section of a document with a name. A missing one is empty. -/
def sectionOf? (document : Table) (name : Text) (keys : List Text) : Option Table :=
  match document.get? name with
  | none => some []
  | some v => section? keys v

/-- The setting of a section with a key, or its usual value. -/
def setting? (entries : Table) (key : Text) (read : Value → Option α) (usual : α) : Option α :=
  match entries.get? key with
  | none => some usual
  | some v => read v

/-- The keys of the section on code blocks, in order. -/
def codeBlockKeys : List Text :=
  ["theme".toList, "show_line_numbers".toList, "collapse".toList]

/-- The configuration that a document describes. -/
def ofTable? (document : Table) : Option Config := do
  let codeBlock ← sectionOf? document "code_block".toList codeBlockKeys
  let paragraph ← sectionOf? document "paragraph".toList ["replace_new_lines".toList]
  let taskList ← sectionOf? document "task_list".toList ["style".toList]
  return {
    theme := ← setting? codeBlock "theme".toList (fun v => (text? v).map some) none
    lineNumbers := ← setting? codeBlock "show_line_numbers".toList bool? false
    collapse := ← setting? codeBlock "collapse".toList bool? false
    newlines := ← setting? paragraph "replace_new_lines".toList newlines? (.enabled false)
    taskList := ← setting? taskList "style".toList style? .htmlCheckbox }

/-- The configuration that the text of a file describes. -/
def decode? (t : Text) : Option Config := (Toml.parse? t).bind ofTable?

end WikiMarkup.Config
