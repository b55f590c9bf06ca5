import WikiMarkup.Files.Error
import WikiMarkup.Text.Basic
/-!
# File trees

A file tree is a set of files and directories below a root, each at its own path. A name of a file, as a
user writes it, is resolved from a working directory: each of its parts leads from a directory to an
entry of that directory, `.` stays where it is and `..` leads to the directory above.
-/

namespace WikiMarkup

/-- The names that lead from the root to an entry. -/
abbrev Path := List String

/-- What stands at a path. -/
inductive Entry where
  | file (bytes : ByteArray)
  | directory
  /-- A file that may be neither read nor written. -/
  | locked

/-- The entries below a root. For one path the first entry counts. -/
structure FileTree where
  /-- The entries with their paths. -/
  entries : List (Path × Entry) := []

namespace FileTree

/-- The entry at a path. The root is a directory. -/
def get? (tree : FileTree) : Path → Option Entry
  | [] => some .directory
  | p => (tree.entries.find? fun e => e.1 = p).map Prod.snd

/-- A tree with an entry at a path, in place of any other one. -/
def put (tree : FileTree) (p : Path) (e : Entry) : FileTree := ⟨(p, e) :: tree.entries⟩

theorem get?_put_self (tree : FileTree) {p : Path} (h : p ≠ []) (e : Entry) :
    (tree.put p e).get? p = some e := by
  cases p with
  | nil => exact absurd rfl h
  | cons a p => simp [get?, put]

theorem get?_put_of_ne (tree : FileTree) {p q : Path} (h : q ≠ p) (e : Entry) :
    (tree.put p e).get? q = tree.get? q := by
  cases q with
  | nil => rfl
  | cons a q => simp [get?, put, Ne.symm h]

/-! ### Resolving names -/

/-- Where one part of a name leads from a path. The path has to be that of a directory. -/
def follow (tree : FileTree) (p : Path) (part : String) : Except FileError Path :=
  match tree.get? p with
  | none => .error .notFound
  | some (.file _) | some .locked => .error .notDirectory
  | some .directory =>
    if part = "" ∨ part = "." then .ok p
    else if part = ".." then .ok p.dropLast
    else .ok (p ++ [part])

/-- The parts of a name between its slashes. -/
def parts (name : String) : List String := (Text.split '/' name.toList).map String.ofList

/-- The path that a name stands for in a working directory. Nothing need exist at this path. -/
def resolve (tree : FileTree) (cwd : Path) (name : String) : Except FileError Path :=
  if name.isEmpty then .error .notFound
  else (parts name).foldlM tree.follow (if name.toList.head? = some '/' then [] else cwd)

/-- A name stands for an entry. -/
def hasEntry (tree : FileTree) (cwd : Path) (name : String) : Bool :=
  match tree.resolve cwd name with
  | .ok p => (tree.get? p).isSome
  | .error _ => false

/-- The bytes of the file at a path. -/
def readAt (tree : FileTree) (p : Path) : Except FileError ByteArray :=
  match tree.get? p with
  | some (.file bytes) => .ok bytes
  | some .directory => .error .isDirectory
  | some .locked => .error .permissionDenied
  | none => .error .notFound

/-- The bytes of the file that a name stands for. -/
def read (tree : FileTree) (cwd : Path) (name : String) : Except FileError ByteArray :=
  (tree.resolve cwd name).bind tree.readAt

/-- The path of the file that a name stands for, which may be a new file of an existing directory. -/
def target (tree : FileTree) (cwd : Path) (name : String) : Except FileError Path := do
  let lastPart := (parts name).getLast?
  let p ← if lastPart = some "" then tree.resolve cwd (String.ofList name.toList.dropLast)
    else tree.resolve cwd name
  match tree.get? p with
  | some .directory => .error .isDirectory
  | some (.file _) => if lastPart = some "" then .error .notDirectory else .ok p
  | some .locked => .error (if lastPart = some "" then .notDirectory else .permissionDenied)
  | none =>
    match tree.get? p.dropLast with
    | some .directory => if lastPart = some "" then .error .isDirectory else .ok p
    | some (.file _) | some .locked => .error .notDirectory
    | none => .error .notFound

/-- The tree after writing bytes to the file that a name stands for. -/
def write (tree : FileTree) (cwd : Path) (name : String) (bytes : ByteArray) :
    Except FileError FileTree :=
  (tree.target cwd name).map fun p => tree.put p (.file bytes)

end FileTree

end WikiMarkup
