import WikiMarkup.CommandLine.Arguments
import WikiMarkup.CommandLine.Run
import WikiMarkup.Config.Decode
import WikiMarkup.Markdown.Reader
/-!
# The whole program

The program reads its arguments and runs the command that they stand for, with the readers of Markdown
and of configuration files put in their places.
-/

namespace WikiMarkup.CommandLine

/-- The name and the version of the program. -/
def versionLine : String := "md2confl 0.1.0\n"

/-- What is shown where help is asked for. -/
def helpText : String :=
  "Usage: md2confl <COMMAND>\n\n" ++
  "Commands:\n" ++
  "  convert [OPTIONS] [INPUT]  Convert markdown to Confluence wiki markup\n" ++
  "  languages [HINT]           List supported code block languages\n\n" ++
  "Options of convert:\n" ++
  String.join (OptionKey.all.map fun key => "  " ++ key.written ++ "\n")

/-- The outcome of a run that ends with the reading of its arguments. -/
def Stop.outcome : Stop → Outcome
  | .help => { stdout := helpText.toList }
  | .version => { stdout := versionLine.toList }
  | .wrong e => { status := 2, stderr := ("error: " ++ e.message ++ "\n").toList }

/-- Runs the program with arguments, given the name of a configuration file in the environment. -/
def run {m : Type → Type} [Monad m] [Host m] (environment : Option String) (arguments : List String) :
    m Outcome := do
  match read environment arguments with
  | .error stop => return stop.outcome
  | .ok command => runCommand Markdown.events Config.decode? command

end WikiMarkup.CommandLine
