import WikiMarkup.Text.Basic
/-!
# Values of TOML documents
-/

namespace WikiMarkup.Toml

/-- A value of a TOML document. Numbers with fractions and points in time are kept as they are
written. -/
inductive Value where
  | string (t : Text)
  | integer (n : Int)
  | float (t : Text)
  | boolean (b : Bool)
  | datetime (t : Text)
  | array (items : List Value)
  | table (entries : List (Text × Value))

/-- The entries of a table. -/
abbrev Table := List (Text × Value)

/-- The value of a key in a table. -/
def Table.get? (table : Table) (key : Text) : Option Value :=
  (table.find? fun e => e.1 = key).map Prod.snd

end WikiMarkup.Toml
