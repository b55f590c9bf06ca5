import WikiMarkup.CommandLine.Command
import WikiMarkup.Config.Load
import WikiMarkup.Convert
import WikiMarkup.Files.Component
/-!
# Running commands

A command leaves an exit status and what it writes to its two outputs. The conversion loads the
configuration, reads the document, converts it and writes the markup, in this order; the first of these
steps that fails ends it, and only the last one changes anything.

The formats that commands read are those of others. So the reader of Markdown and the one of
configuration files are given from outside.
-/

namespace WikiMarkup.CommandLine

/-- What is left of a run of the program. -/
structure Outcome where
  /-- The exit status. -/
  status : Nat := 0
  /-- What has been written to the standard output. -/
  stdout : Text := []
  /-- What has been written to the standard error output. -/
  stderr : Text := []
deriving DecidableEq, Repr, Inhabited

/-- Why a command fails. -/
inductive CommandError where
  /-- The configuration cannot be loaded. -/
  | config (e : ConfigError)
  /-- A file cannot be read or written. -/
  | file (e : FileError)
  /-- The document cannot be rendered. -/
  | render (e : RenderError)

/-- What is said of a command that fails. -/
def CommandError.message : CommandError → Text
  | .config e => e.message.toList
  | .file e => e.message.toList
  | .render e => e.message

/-- The outcome of a run that fails. -/
def Outcome.failure (e : CommandError) : Outcome :=
  { status := 1, stderr := "Error: ".toList ++ e.message ++ ['\n'] }

/-- The outcome of a run that has written a file. -/
def Outcome.wrote (name : String) : Outcome := { stderr := ("Wrote " ++ name ++ "\n").toList }

/-! ### The conversion -/

/-- The name that stands for the standard input. -/
def inputName : String := "-"

section

variable {m : Type → Type} [Monad m] [Host m]

/-- The text of the document: of the file with a name, or of the standard input. -/
def readDocument (name : Option String) : m (Except FileError Text) := do
  let bytes ←
    match name.filter fun name => components name ≠ components inputName with
    | some name => Host.readFile (.named name)
    | none => Host.readInput
  return bytes.bind decodeText

/-- Writes the markup to the file with a name, or to the standard output. -/
def writeMarkup (name : Option String) (markup : Text) : m (Except CommandError Outcome) := do
  match name with
  | none => return .ok { stdout := markup }
  | some name =>
    match ← Host.writeFile name (String.ofList markup).toUTF8 with
    | .ok _ => return .ok (.wrote name)
    | .error e => return .error (.file e)

variable (parse : Text → List Event) (decode : Text → Option Config)

/-- Converts a document. -/
def runConvert (a : ConvertArguments) : m (Except CommandError Outcome) := do
  match ← Config.loadWith decode a.config a.settings with
  | .error e => return .error (.config e)
  | .ok loaded =>
    match ← readDocument a.input with
    | .error e => return .error (.file e)
    | .ok markdown =>
      match convert parse loaded.config.options markdown with
      | .error e => return .error (.render e)
      | .ok markup => writeMarkup a.output markup

end

/-! ### Languages -/

/-- The width of the column for tokens. -/
def tokenWidth : Nat := 14

/-- The line of a list that shows a language with its aliases. -/
def languageLine (language : Language) : Text :=
  match language.aliases with
  | [] => language.token ++ ['\n']
  | aliases =>
    Text.padRight tokenWidth language.token ++ [' '] ++ Text.join ", ".toList aliases ++ ['\n']

/-- The languages in the order in which they are shown: those without aliases come last. -/
def shownLanguages : List Language :=
  Language.aliasTable.map Prod.fst ++
    Language.all.filter fun language => language ∉ Language.aliasTable.map Prod.fst

/-- Shows all languages, or the one that a hint stands for. -/
def showLanguages : Option String → Outcome
  | some hint => { stdout := (Language.resolve (some hint.toList)).token ++ ['\n'] }
  | none =>
    { stdout := shownLanguages.flatMap languageLine
      stderr := Text.ofNat Language.all.length ++ " languages\n".toList }

/-! ### Commands -/

/-- Runs a command. One that fails leaves what is said of its error. -/
def runCommand {m : Type → Type} [Monad m] [Host m] (parse : Text → List Event)
    (decode : Text → Option Config) : Command → m Outcome
  | .convert a => do
    match ← runConvert parse decode a with
    | .ok outcome => return outcome
    | .error e => return .failure e
  | .languages hint => return showLanguages hint

end WikiMarkup.CommandLine
