import WikiMarkup.Options
import WikiMarkup.Wiki.Parameters
/-!
# The code block macro

A code block is written as a macro, with its language, its theme and the two flags as parameters.
-/

namespace WikiMarkup.Wiki

/-- The parameters of a code block in a given language. -/
def codeParameters (options : Options) (code : Text) (language : Language) : List (Text × Text) :=
  orderParameters
    [("language".toList, language.token),
     ("theme".toList, options.theme.name),
     ("linenumbers".toList, Text.ofBool (options.lineNumbers.resolve code language)),
     ("collapse".toList, Text.ofBool (options.collapse.resolve code language))]

/-- The order of the keys. -/
theorem codeParameters_eq (options : Options) (code : Text) (language : Language) :
    codeParameters options code language =
      [("collapse".toList, Text.ofBool (options.collapse.resolve code language)),
       ("language".toList, language.token),
       ("linenumbers".toList, Text.ofBool (options.lineNumbers.resolve code language)),
       ("theme".toList, options.theme.name)] :=
  rfl

/-- The opening tag of the macro. -/
def codeHeader (options : Options) (code : Text) (language : Language) : Text :=
  "\x7bcode:".toList ++ joinParameters ['|'] (codeParameters options code language) ++
    "\x7d".toList

/-- A code block. -/
def codeBlock (options : Options) (code : Text) (hint : Option Text) : Text :=
  codeHeader options code (Language.resolve hint) ++ "\n".toList ++ code ++
    "\n\x7bcode\x7d\n\n".toList

end WikiMarkup.Wiki
