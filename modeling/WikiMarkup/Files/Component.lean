import WikiMarkup.Files.Tree
/-!
# Components of names

Two names of files are written alike if they have the same components. Slashes that follow each other
count as one, slashes at the end do not count, and neither does a `.` but at the very beginning. So
`a//b` and `a/./b/` have the same components, while those of `./a` and of `a` differ.
-/

namespace WikiMarkup

/-- A component of the name of a file. -/
inductive Component where
  /-- The slash at the beginning of the name. -/
  | root
  /-- A `.` at the beginning of the name. -/
  | here
  /-- A `..`, which leads to the directory above. -/
  | above
  /-- The name of an entry. -/
  | entry (name : String)
deriving DecidableEq, Repr

/-- The component that a part between slashes stands for. Nothing and a `.` stand for none. -/
def Component.ofPart? (part : String) : Option Component :=
  if part = "" ∨ part = "." then none
  else if part = ".." then some .above
  else some (.entry part)

/-- The components of a name. -/
def components (name : String) : List Component :=
  let entries := (FileTree.parts name).filterMap Component.ofPart?
  if name.toList.head? = some '/' then .root :: entries
  else if (FileTree.parts name).head? = some "." then .here :: entries
  else entries

end WikiMarkup
