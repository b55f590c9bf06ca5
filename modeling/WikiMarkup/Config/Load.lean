import WikiMarkup.Config.Basic
import WikiMarkup.Files.Host
/-!
# Loading configurations

The configuration file is the one that is asked for, or else the nearest one: of the working directory
and the directories above it, the deepest that has an entry with the usual name. A nearest entry that
cannot be read is an error, and no other one is looked for.
-/

namespace WikiMarkup

/-- A reason why a configuration cannot be loaded. -/
inductive ConfigError where
  /-- The file that is asked for does not exist. -/
  | notFound (name : String)
  /-- The file cannot be read. -/
  | unreadable (e : FileError)
  /-- The file describes no configuration. -/
  | malformed
  /-- Newlines are to be replaced by nothing. -/
  | emptyReplacement
deriving DecidableEq, Repr

/-- What is said of a configuration that makes no sense. -/
def ConfigError.emptyReplacementReason : String :=
  "paragraph.replace_new_lines cannot be an empty string"

/-- What is said of a configuration that cannot be loaded. -/
def ConfigError.message : ConfigError → String
  | .notFound name => "Configuration file not found: " ++ name
  | .unreadable e => "I/O error: " ++ e.message
  | .malformed => "TOML parse error: the file does not describe a configuration"
  | .emptyReplacement => "Configuration error: " ++ emptyReplacementReason

/-- A configuration with the location of the file that it was loaded from, if there was one. -/
structure LoadedConfig where
  /-- The configuration. -/
  config : Config
  /-- The location of the file. -/
  source : Option Location := none
deriving DecidableEq, Inhabited

namespace Config

/-- The usual name of a configuration file. -/
def fileName : String := "md2confl.toml"

/-- The paths of the configuration files that apply to a directory, given by its path in reverse; the
nearest one comes first. -/
def candidatesAbove : List String → List Path
  | [] => [[fileName]]
  | name :: above => ((name :: above).reverse ++ [fileName]) :: candidatesAbove above

/-- The paths of the configuration files that apply to a directory, the nearest one first. -/
def candidates (directory : Path) : List Path := candidatesAbove directory.reverse

variable {m : Type → Type} [Monad m] [Host m]

/-- The first of some paths that has an entry. -/
def firstEntry? : List Path → m (Option Path)
  | [] => return none
  | p :: ps => do if ← Host.hasEntry (.rooted p) then return some p else firstEntry? ps

/-- The path of the nearest configuration file. -/
def discover? : m (Option Path) := do firstEntry? (candidates (← Host.workingDirectory))

section

variable (decode : Text → Option Config)

/-- The configuration that the bytes of a file describe. -/
def ofBytes (bytes : ByteArray) : Except ConfigError Config :=
  match decodeText bytes with
  | .error e => .error (.unreadable e)
  | .ok t =>
    match decode t with
    | some c => .ok c
    | none => .error .malformed

/-- The configuration in the file at a location. -/
def loadFile (location : Location) : m (Except ConfigError LoadedConfig) := do
  match ← Host.readFile location with
  | .error e => return .error (.unreadable e)
  | .ok bytes => return (ofBytes decode bytes).map fun c => ⟨c, some location⟩

/-- The configuration in the file that is asked for or in the nearest one, or the usual one. -/
def loadStored (name : Option String) : m (Except ConfigError LoadedConfig) := do
  match name with
  | some name =>
    if ← Host.hasEntry (.named name) then loadFile decode (.named name)
    else return .error (.notFound name)
  | none =>
    match ← (discover? : m (Option Path)) with
    | some p => loadFile decode (.rooted p)
    | none => return .ok ⟨{}, none⟩

end

/-- The stored configuration with the settings of the command line, if that makes sense. -/
def finish (stored : LoadedConfig) (settings : Settings) : Except ConfigError LoadedConfig :=
  let c := stored.config.override settings
  if c.isValid then .ok { stored with config := c } else .error .emptyReplacement

/-- Loads the configuration for some settings of the command line, with a given way to read the text of
a configuration file. -/
def loadWith (decode : Text → Option Config) (name : Option String) (settings : Settings) :
    m (Except ConfigError LoadedConfig) := do
  match ← loadStored decode name with
  | .error e => return .error e
  | .ok stored => return finish stored settings

end Config

end WikiMarkup
