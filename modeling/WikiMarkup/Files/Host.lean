import WikiMarkup.Files.Tree
/-!
# Hosts

A command reads and writes files, looks for files in directories, and reads its standard input. `Host`
says what it needs for this, and `World` is a host that is a plain value: a file tree with a working
directory and an input.

A file is meant either by a name, as a user writes it, or by its path from the root (`Location`). A name
has to be taken apart and followed; a path is found as it stands.
-/

namespace WikiMarkup

/-- A way to say which file is meant. -/
inductive Location where
  /-- The file that a name stands for in the working directory. -/
  | named (name : String)
  /-- The file at a path from the root. -/
  | rooted (p : Path)
deriving DecidableEq, Repr

/-- The name of a path from the root. -/
def Path.absolute (p : Path) : String := "/" ++ String.intercalate "/" p

/-- The name by which the system finds the file that is meant. -/
def Location.name : Location → String
  | .named name => name
  | .rooted p => p.absolute

/-- A place where commands can run. -/
class Host (m : Type → Type) where
  /-- The path of the working directory. -/
  workingDirectory : m Path
  /-- There is an entry at a location. -/
  hasEntry : Location → m Bool
  /-- The bytes of the file at a location. -/
  readFile : Location → m (Except FileError ByteArray)
  /-- Writes bytes to the file that a name stands for. -/
  writeFile : String → ByteArray → m (Except FileError Unit)
  /-- The bytes of the standard input. -/
  readInput : m (Except FileError ByteArray)

/-- A file tree with a working directory in it and a standard input. -/
structure World where
  /-- The file tree. -/
  tree : FileTree
  /-- The path of the working directory. -/
  cwd : Path
  /-- The standard input. -/
  input : ByteArray

namespace World

/-- There is an entry at a location. -/
def hasEntry (w : World) : Location → Bool
  | .named name => w.tree.hasEntry w.cwd name
  | .rooted p => (w.tree.get? p).isSome

/-- The bytes of the file at a location. -/
def read (w : World) : Location → Except FileError ByteArray
  | .named name => w.tree.read w.cwd name
  | .rooted p => w.tree.readAt p

end World

instance : Host (StateM World) where
  workingDirectory := do return (← get).cwd
  hasEntry location := do return (← get).hasEntry location
  readFile location := do return (← get).read location
  writeFile name bytes := do
    let w ← get
    match w.tree.write w.cwd name bytes with
    | .ok tree =>
      set { w with tree := tree }
      return .ok ()
    | .error e => return .error e
  readInput := do return .ok (← get).input

end WikiMarkup
