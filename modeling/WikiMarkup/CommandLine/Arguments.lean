import WikiMarkup.CommandLine.Command
/-!
# Arguments of the command line

The first argument names a command, and the others belong to the command. An option is written with two
dashes and its name, or with one dash and its letter; after `--` no argument is an option. Arguments are
read from left to right, and the first one that is wrong or asks for help ends the reading.
-/

namespace WikiMarkup.CommandLine

/-- An option of the conversion command. -/
inductive OptionKey where
  | output
  | config
  | theme
  | lineNumbers
  | noLineNumbers
  | collapse
  | noCollapse
  | replaceNewlines
  | omitCheckboxes
  | verbose
  | help
deriving DecidableEq, Repr

namespace OptionKey

/-- Every option. -/
def all : List OptionKey :=
  [.output, .config, .theme, .lineNumbers, .noLineNumbers, .collapse, .noCollapse, .replaceNewlines,
   .omitCheckboxes, .verbose, .help]

/-- The name behind two dashes. -/
def longName : OptionKey → String
  | .output => "output"
  | .config => "config"
  | .theme => "theme"
  | .lineNumbers => "line-numbers"
  | .noLineNumbers => "no-line-numbers"
  | .collapse => "collapse"
  | .noCollapse => "no-collapse"
  | .replaceNewlines => "replace-newlines"
  | .omitCheckboxes => "omit-checkboxes"
  | .verbose => "verbose"
  | .help => "help"

/-- The letter behind one dash. -/
def letter? : OptionKey → Option Char
  | .output => some 'o'
  | .config => some 'c'
  | .verbose => some 'v'
  | .help => some 'h'
  | _ => none

/-- Whether an option has a value. -/
inductive Arity where
  /-- It has none. -/
  | flag
  /-- It has one, behind an equals sign or in the next argument. -/
  | value
  /-- It may have one, behind an equals sign. -/
  | optional
deriving DecidableEq

/-- Whether an option has a value. -/
def arity : OptionKey → Arity
  | .output => .value
  | .config => .value
  | .theme => .value
  | .replaceNewlines => .optional
  | _ => .flag

/-- The option that must not be given beside another one. -/
def opposite? : OptionKey → Option OptionKey
  | .noLineNumbers => some .lineNumbers
  | .noCollapse => some .collapse
  | _ => none

/-- An option as it is written. -/
def written (key : OptionKey) : String := "--" ++ key.longName

end OptionKey

/-- What is wrong with the arguments. -/
inductive UsageError where
  | missingCommand
  | unknownCommand (name : String)
  | unexpectedArgument (argument : String)
  | missingValue (key : OptionKey)
  | unexpectedValue (key : OptionKey)
  | repeated (key : OptionKey)
  | conflict (key other : OptionKey)
  | unknownTheme (e : UnknownTheme)
  | emptyName

/-- What is said of wrong arguments. -/
def UsageError.message : UsageError → String
  | .missingCommand => "a command is required: convert or languages"
  | .unknownCommand name => "unrecognized command: " ++ name
  | .unexpectedArgument argument => "unexpected argument: " ++ argument
  | .missingValue key => "a value is required for " ++ key.written
  | .unexpectedValue key => "no value is expected for " ++ key.written
  | .repeated key => key.written ++ " cannot be used more than once"
  | .conflict key other => key.written ++ " cannot be used with " ++ other.written
  | .unknownTheme e => String.ofList e.message
  | .emptyName => "the name of a file cannot be empty"

/-- Why the reading of arguments ends early. -/
inductive Stop where
  /-- Help is asked for. -/
  | help
  /-- The version is asked for. -/
  | version
  /-- An argument is wrong. -/
  | wrong (e : UsageError)

/-- The arguments of the conversion command as far as they have been read. -/
structure Given where
  /-- The options that are given. -/
  keys : List OptionKey := []
  /-- What the arguments say. -/
  arguments : ConvertArguments := {}

namespace Given

/-- The text in place of newlines where the option is given without a value. -/
def usualReplacement : Text := [' ']

/-- The name of a file, which is not empty. -/
def fileName (name : String) : Except Stop String :=
  if name.isEmpty then .error (.wrong .emptyName) else .ok name

/-- Takes an option with its value. -/
def give (g : Given) (key : OptionKey) (value : Option String) : Except Stop Given :=
  if key ∈ g.keys then .error (.wrong (.repeated key))
  else
    let a := g.arguments
    let taken (a : ConvertArguments) : Given := ⟨key :: g.keys, a⟩
    match key, value with
    | .help, _ => .error .help
    | .output, some name => (fileName name).map fun name => taken { a with output := some name }
    | .config, some name => (fileName name).map fun name => taken { a with config := some name }
    | .theme, some name =>
      match Theme.read name.toList with
      | .ok theme => .ok (taken { a with theme := some theme })
      | .error e => .error (.wrong (.unknownTheme e))
    | .replaceNewlines, some t => .ok (taken { a with replaceNewlines := some t.toList })
    | .replaceNewlines, none => .ok (taken { a with replaceNewlines := some usualReplacement })
    | .lineNumbers, _ => .ok (taken { a with lineNumbers := true })
    | .noLineNumbers, _ => .ok (taken { a with noLineNumbers := true })
    | .collapse, _ => .ok (taken { a with collapse := true })
    | .noCollapse, _ => .ok (taken { a with noCollapse := true })
    | .omitCheckboxes, _ => .ok (taken { a with omitCheckboxes := true })
    | _, _ => .ok (taken a)

/-- Takes an argument that is no option: the name of the document. -/
def givePositional (g : Given) (name : String) : Except Stop Given :=
  match g.arguments.input with
  | some _ => .error (.wrong (.unexpectedArgument name))
  | none =>
    (fileName name).map fun name => { g with arguments := { g.arguments with input := some name } }

/-- Takes the letters behind a single dash. The value of an option is what follows its letter, perhaps
behind an equals sign. An option at the end that still needs a value is returned. -/
def giveLetters (g : Given) : List Char → Except Stop (Given × Option OptionKey)
  | [] => .ok (g, none)
  | c :: r =>
    match OptionKey.all.find? fun key => key.letter? = some c with
    | none => .error (.wrong (.unexpectedArgument (String.ofList ['-', c])))
    | some key =>
      if key.arity = .value then
        match r with
        | [] => .ok (g, some key)
        | '=' :: v => (g.give key (some (String.ofList v))).map fun g => (g, none)
        | v => (g.give key (some (String.ofList v))).map fun g => (g, none)
      else
        match g.give key none with
        | .ok g => giveLetters g r
        | .error e => .error e

/-- An argument that begins with a dash and is not a single dash. -/
def looksLikeOption (argument : String) : Bool :=
  match argument.toList with
  | '-' :: _ :: _ => true
  | _ => false

/-- An option behind two dashes: its name, and its value if an equals sign stands behind the name. -/
def splitLong (t : List Char) : String × Option String :=
  let name := t.takeWhile (· ≠ '=')
  match t.drop name.length with
  | _ :: v => (String.ofList name, some (String.ofList v))
  | [] => (String.ofList name, none)

/-- Takes an option behind two dashes. An option that still needs a value is returned. -/
def giveLong (g : Given) (t : List Char) : Except Stop (Given × Option OptionKey) :=
  let (name, value) := splitLong t
  match OptionKey.all.find? fun key => key.longName = name with
  | none => .error (.wrong (.unexpectedArgument ("--" ++ name)))
  | some key =>
    match key.arity, value with
    | .flag, some _ => .error (.wrong (.unexpectedValue key))
    | .value, none => .ok (g, some key)
    | _, _ => (g.give key value).map fun g => (g, none)

/-- Takes arguments. An option that needs a value and has none yet is given the next argument, unless
that looks like an option. -/
def read (g : Given) : Option OptionKey → List String → Except Stop Given
  | none, [] => .ok g
  | some key, [] => .error (.wrong (.missingValue key))
  | some key, v :: rest =>
    if looksLikeOption v then .error (.wrong (.missingValue key))
    else
      match g.give key (some v) with
      | .ok g => read g none rest
      | .error e => .error e
  | none, arg :: rest =>
    match arg.toList with
    | ['-', '-'] => rest.foldlM givePositional g
    | '-' :: '-' :: t =>
      match g.giveLong t with
      | .ok (g, key) => read g key rest
      | .error e => .error e
    | '-' :: c :: t =>
      match g.giveLetters (c :: t) with
      | .ok (g, key) => read g key rest
      | .error e => .error e
    | _ =>
      match g.givePositional arg with
      | .ok g => read g none rest
      | .error e => .error e

/-- The name of the configuration file that the environment gives, if no argument gives one. -/
def withEnvironment (g : Given) (config : Option String) : Except Stop Given :=
  match g.arguments.config, config with
  | none, some name =>
    (fileName name).map fun name => { g with arguments := { g.arguments with config := some name } }
  | _, _ => .ok g

/-- The arguments, unless there are options that contradict each other. -/
def check (g : Given) : Except Stop ConvertArguments :=
  let conflicts (key : OptionKey) : Bool :=
    (key.opposite?.map fun other => decide (other ∈ g.keys)).getD false
  match g.keys.find? conflicts with
  | some key => .error (.wrong (.conflict key (key.opposite?.getD key)))
  | none => .ok g.arguments

end Given

/-- Reads the arguments of the command that shows languages. -/
def readHint (hint : Option String) : List String → Except Stop (Option String)
  | [] => .ok hint
  | arg :: rest =>
    let take (hint : Option String) (arg : String) : Except Stop (Option String) :=
      match hint with
      | some _ => .error (.wrong (.unexpectedArgument arg))
      | none => .ok (some arg)
    match arg.toList with
    | ['-', '-'] => rest.foldlM take hint
    | '-' :: c :: _ =>
      if c = 'h' ∨ arg = "--help" then .error .help else .error (.wrong (.unexpectedArgument arg))
    | _ =>
      match take hint arg with
      | .ok hint => readHint hint rest
      | .error e => .error e

/-- The names of the commands. -/
def commandNames : List String := ["convert", "languages", "help"]

/-- Reads the arguments that follow `help`: the name of a command. -/
def readHelp : List String → Stop
  | [] => .help
  | [name] => if name ∈ commandNames then .help else .wrong (.unknownCommand name)
  | _ :: name :: _ => .wrong (.unknownCommand name)

/-- Reads the arguments of the program, given the name of a configuration file in the environment. -/
def read (environment : Option String) : List String → Except Stop Command
  | [] => .error (.wrong .missingCommand)
  | name :: rest =>
    if name = "convert" then do
      let g ← Given.read {} none rest
      let g ← g.withEnvironment environment
      let a ← g.check
      return .convert a
    else if name = "languages" then (readHint none rest).map .languages
    else if name = "help" then .error (readHelp rest)
    else if name = "--help" then .error .help
    else if name = "--version" then .error .version
    else
      match name.toList with
      | '-' :: 'h' :: _ => .error .help
      | '-' :: 'V' :: _ => .error .version
      | '-' :: _ => .error (.wrong (.unexpectedArgument name))
      | _ => .error (.wrong (.unknownCommand name))

end WikiMarkup.CommandLine
