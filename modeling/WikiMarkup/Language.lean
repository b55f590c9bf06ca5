import WikiMarkup.Text.Space
import WikiMarkup.Unicode.Lowercase
/-!
# Languages

The languages that the code block macro can highlight, the hints by which the writers of Markdown
name them, and the way from a hint to a language. A hint is looked up in lowercase, and a hint that
no language lists stands for the language `plain`, which is not highlighted.
-/

namespace WikiMarkup

/-- A language of the code block macro. -/
inductive Language where
  | actionScript
  | ada
  | appleScript
  | bash
  | c
  | cSharp
  | cPlusPlus
  | css
  | erlang
  | go
  | groovy
  | haskell
  | html
  | java
  | javaScript
  | json
  | lua
  /-- No language: the block is shown without highlighting. -/
  | plain
  | nyan
  | objectiveC
  | perl
  | php
  | powerShell
  | python
  | r
  | ruby
  | sass
  | scala
  | sql
  | swift
  | visualBasic
  | xml
  | yaml
deriving DecidableEq, Repr

namespace Language

/-- Every language, in the order of declaration. -/
def all : List Language :=
  [.actionScript, .ada, .appleScript, .bash, .c, .cSharp, .cPlusPlus, .css, .erlang, .go,
   .groovy, .haskell, .html, .java, .javaScript, .json, .lua, .plain, .nyan, .objectiveC, .perl,
   .php, .powerShell, .python, .r, .ruby, .sass, .scala, .sql, .swift, .visualBasic, .xml, .yaml]

theorem mem_all (language : Language) : language ∈ all := by
  cases language <;> decide

/-- The token by which the macro names a language. -/
def token : Language → Text
  | .actionScript => "actionscript".toList
  | .ada => "ada".toList
  | .appleScript => "applescript".toList
  | .bash => "bash".toList
  | .c => "c".toList
  | .cSharp => "c#".toList
  | .cPlusPlus => "c++".toList
  | .css => "css".toList
  | .erlang => "erlang".toList
  | .go => "go".toList
  | .groovy => "groovy".toList
  | .haskell => "haskell".toList
  | .html => "html".toList
  | .java => "java".toList
  | .javaScript => "javascript".toList
  | .json => "json".toList
  | .lua => "lua".toList
  | .plain => "none".toList
  | .nyan => "nyan".toList
  | .objectiveC => "objc".toList
  | .perl => "perl".toList
  | .php => "php".toList
  | .powerShell => "powershell".toList
  | .python => "python".toList
  | .r => "r".toList
  | .ruby => "ruby".toList
  | .sass => "sass".toList
  | .scala => "scala".toList
  | .sql => "sql".toList
  | .swift => "swift".toList
  | .visualBasic => "visualbasic".toList
  | .xml => "xml".toList
  | .yaml => "yaml".toList

/-- The language with a token, letter for letter. -/
def ofToken? (t : Text) : Option Language :=
  all.find? fun language => language.token = t

/-- The hints that stand for a language, all in lowercase. -/
def hints : Language → List String
  | .actionScript => ["actionscript", "actionscript 3", "actionscript3", "as3"]
  | .ada => ["ada", "ada95", "ada2005"]
  | .appleScript => ["applescript", "osascript"]
  | .bash =>
    ["abuild", "alpine abuild", "apkbuild", "bash", "bash session", "console", "gentoo ebuild",
     "gentoo eclass", "openrc", "openrc runscript", "sh", "shell", "shell-script",
     "shellsession", "tcsh", "zsh"]
  | .c => ["c"]
  | .cSharp => ["c#", "csharp", "eq", "uno"]
  | .cPlusPlus =>
    ["ags", "ags script", "asymptote", "byond", "c++", "cpp", "cuda", "dm", "dtrace",
     "dtrace-script", "edje data collection", "game maker language", "holyc", "metal", "mql4",
     "mql5", "oncrpc", "opencl", "rpc", "rpcgen", "squirrel", "swig", "unified parallel c",
     "x bitmap", "x pixmap", "xbm", "xc", "xdr", "xpm", "xs"]
  | .css => ["css"]
  | .erlang => ["erlang"]
  | .go => ["go", "golang", "v", "vlang"]
  | .groovy => ["groovy", "nextflow"]
  | .haskell =>
    ["c2hs", "c2hs haskell", "cabal", "cabal config", "dhall", "frege", "gf",
     "grammatical framework", "haskell", "purescript"]
  | .html => ["html", "kit", "mtml", "riot", "svelte", "vue", "xhtml"]
  | .java => ["apex", "chuck", "jasmin", "java", "unrealscript"]
  | .javaScript =>
    ["cycript", "javascript", "javascript+erb", "js", "json with comments", "json5", "jsonc",
     "jsonld", "jsx", "node", "tsx"]
  | .json =>
    ["ecere projects", "ipython notebook", "json", "jupyter notebook", "max", "max/msp",
     "maxmsp"]
  | .lua => ["lua", "terra"]
  | .plain => []
  | .nyan => ["nyan"]
  | .objectiveC =>
    ["obj-c", "obj-c++", "objc", "objc++", "objective-c", "objective-c++", "objectivec",
     "objectivec++"]
  | .perl => ["cperl", "perl", "perl-6", "perl6", "pod", "pod 6", "raku"]
  | .php => ["hack", "html+php", "inc", "php", "zephir"]
  | .powerShell => ["posh", "powershell", "pwsh"]
  | .python =>
    ["bazel", "bzl", "easybuild", "gn", "python", "python3", "ren'py", "renpy", "rusthon",
     "sage", "starlark"]
  | .r => ["r", "rscript", "splus"]
  | .ruby =>
    ["crystal", "hcl", "jruby", "macruby", "mirah", "rake", "rb", "rbx", "ruby", "terraform"]
  | .sass => ["sass", "scss"]
  | .scala => ["scala"]
  | .sql => ["hiveql", "plsql", "sql", "sqlpl", "tsql"]
  | .swift => ["swift"]
  | .visualBasic =>
    ["vba", "vb6", "visual basic 6", "visual basic for applications", "visual basic .net",
     "vbnet", "vb .net", "vb.net"]
  | .xml =>
    ["ant build system", "collada", "eagle", "genshi", "labview", "maven pom", "rss", "svg",
     "web ontology language", "wsdl", "xml", "xml property list", "xml+genshi", "xml+kid",
     "xpages", "xproc", "xsd", "xsl", "xslt"]
  | .yaml =>
    ["common workflow language", "cwl", "lookml", "raml", "salt", "saltstack", "saltstate",
     "spline font database", "unity3d asset", "yaml", "yml"]

/-- The aliases of a language: its hints as texts. -/
def aliases (language : Language) : List Text := language.hints.map String.toList

/-- The languages that have aliases, each with its list. -/
def aliasTable : List (Language × List Text) :=
  (all.filter fun language => language ≠ .plain).map fun language => (language, language.aliases)

/-! ### From a hint to a language -/

/-- Each alias with its language, in the order of the table. -/
def aliasEntries : List (Text × Language) :=
  aliasTable.flatMap fun entry => entry.2.map fun hint => (hint, entry.1)

/-- The language of an alias. Of several entries for one alias the last one counts. -/
def ofAlias? (t : Text) : Option Language :=
  (aliasEntries.reverse.find? fun entry => entry.1 = t).map Prod.snd

/-- The language that a hint stands for. An absent hint and one that no language lists stand for
`plain`. -/
def resolve : Option Text → Language
  | none => .plain
  | some hint => (ofAlias? hint.lowercase).getD .plain

/-- The first language of the table that lists a text among its own aliases. -/
def listing? (t : Text) : Option Language :=
  (aliasTable.find? fun entry => t ∈ entry.2).map Prod.fst

/-- The hint in the info string of a fenced code block: its first word. -/
def hintOfInfo? (info : Text) : Option Text := info.firstWord?

end Language

/-- A token that no language has. -/
structure UnknownLanguage where
  /-- The token as it was given. -/
  token : Text

/-- What is said of a token that no language has. -/
def UnknownLanguage.message (e : UnknownLanguage) : Text :=
  "unknown Confluence language: ".toList ++ e.token

/-- Reads the token of a language. -/
def Language.read (t : Text) : Except UnknownLanguage Language :=
  match Language.ofToken? t with
  | some language => .ok language
  | none => .error ⟨t⟩

end WikiMarkup
