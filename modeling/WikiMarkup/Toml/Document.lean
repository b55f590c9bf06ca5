import WikiMarkup.Toml.Value
/-!
# The tables of a TOML document

A document names its tables in headers and, with dots, in keys. A table may be named in the header of
another one before its own header comes, but it can be opened only once. A table that keys with dots have
made belongs to such keys, and one that is written in braces is complete.
-/

namespace WikiMarkup.Toml

/-- How a table of a document has come about. -/
inductive Origin where
  /-- As a part of the name in a header. -/
  | implicit
  /-- As a part of a key with dots. -/
  | dotted
  /-- By its own header. -/
  | opened
deriving DecidableEq, Repr

/-- A part of a document that is still being read. -/
inductive Node where
  /-- A value that is complete. -/
  | value (v : Value)
  /-- A table that can still grow. -/
  | table (origin : Origin) (entries : List (Text × Node))
  /-- An array of tables that have headers. Only the last table can still grow. -/
  | tables (complete : List Node) (last : List (Text × Node))

/-- The entries of a table that can still grow. -/
abbrev Entries := List (Text × Node)

namespace Entries

/-- The node of a key. -/
def get? (entries : Entries) (key : Text) : Option Node :=
  (entries.find? fun e => e.1 = key).map Prod.snd

/-- Entries with one more at their end. -/
def add (entries : Entries) (key : Text) (node : Node) : Entries := entries ++ [(key, node)]

/-- Entries in which a key has another node. -/
def replace (entries : Entries) (key : Text) (node : Node) : Entries :=
  entries.map fun e => if e.1 = key then (key, node) else e

/-- Changes the table at the end of a path, and makes the tables on the way that do not exist. Keys with
dots go through no table that has its own header. -/
def modifyAt (dotted : Bool) (change : Origin → Entries → Option Entries) :
    List Text → Origin → Entries → Option Entries
  | [], origin, entries => change origin entries
  | key :: path, _, entries =>
    match entries.get? key with
    | none =>
      let origin := if dotted then Origin.dotted else .implicit
      (modifyAt dotted change path origin []).map fun sub => entries.add key (.table origin sub)
    | some (.value _) => none
    | some (.table origin sub) =>
      if dotted ∧ origin = .opened then none
      else
        (modifyAt dotted change path origin sub).map fun sub =>
          entries.replace key (.table origin sub)
    | some (.tables complete last) =>
      (modifyAt dotted change path .opened last).map fun last =>
        entries.replace key (.tables complete last)

/-- Gives a value to a key with dots. The table that the key is added to must itself have come about by
keys with dots, unless the key has none. -/
def insert (entries : Entries) (path : List Text) (key : Text) (v : Value) : Option Entries :=
  modifyAt true
    (fun origin sub =>
      if (path ≠ [] ∧ origin ≠ .dotted) ∨ (sub.get? key).isSome then none
      else some (sub.add key (.value v)))
    path .opened entries

/-- Opens the table that a header names. -/
def openTable (entries : Entries) (path : List Text) (key : Text) : Option Entries :=
  modifyAt false
    (fun _ sub =>
      match sub.get? key with
      | none => some (sub.add key (.table .opened []))
      | some (.table .implicit inner) => some (sub.replace key (.table .opened inner))
      | _ => none)
    path .opened entries

/-- Opens one more table of the array that a header names. -/
def openNext (entries : Entries) (path : List Text) (key : Text) : Option Entries :=
  modifyAt false
    (fun _ sub =>
      match sub.get? key with
      | none => some (sub.add key (.tables [] []))
      | some (.tables complete last) =>
        some (sub.replace key (.tables (complete ++ [.table .opened last]) []))
      | _ => none)
    path .opened entries

end Entries

mutual

/-- The value of a part of a document. -/
def Node.toValue : Node → Value
  | .value v => v
  | .table _ entries => .table (Node.toTable entries)
  | .tables complete last => .array (Node.toValues complete ++ [.table (Node.toTable last)])

/-- The values of several parts of a document. -/
def Node.toValues : List Node → List Value
  | [] => []
  | n :: ns => n.toValue :: Node.toValues ns

/-- The table with given entries. -/
def Node.toTable : List (Text × Node) → List (Text × Value)
  | [] => []
  | (key, n) :: r => (key, n.toValue) :: Node.toTable r

end

end WikiMarkup.Toml
