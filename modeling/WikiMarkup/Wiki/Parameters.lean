import WikiMarkup.Text.Basic
/-!
# Parameters

Macros and images have parameters, each with a key and a value. However they are put together, they are
written in the order of their keys, and of two with one key the later one counts.
-/

namespace WikiMarkup.Wiki

/-- Parameters in the order of their keys, with one more put in. It takes the place of one with its
key. -/
def insertParameter (p : Text × Text) : List (Text × Text) → List (Text × Text)
  | [] => [p]
  | q :: qs =>
    if p.1 < q.1 then p :: q :: qs
    else if p.1 = q.1 then p :: qs
    else q :: insertParameter p qs

/-- The parameters of a list in the order of their keys. -/
def orderParameters (ps : List (Text × Text)) : List (Text × Text) :=
  ps.foldl (fun ordered p => insertParameter p ordered) []

/-- Parameters with their values, with a separator between each two of them. -/
def joinParameters (separator : Text) (parameters : List (Text × Text)) : Text :=
  Text.join separator (parameters.map fun p => p.1 ++ ['='] ++ p.2)

end WikiMarkup.Wiki
