import WikiMarkup.Document.Event
/-!
# Document trees

A document whose starts and ends match is a list of trees. `Tree.events` writes a tree as events:
a construct begins, its children follow in order, and the construct ends.
-/

namespace WikiMarkup

/-- A part of a document with all that it holds. -/
inductive Tree where
  /-- A part that holds nothing else. -/
  | leaf (leaf : Leaf)
  /-- A construct with its children in order. -/
  | node (tag : Tag) (children : List Tree)

instance : Inhabited Tree := ⟨.leaf .unsupported⟩

mutual

/-- The events of a tree. -/
def Tree.events : Tree → List Event
  | .leaf l => [.leaf l]
  | .node tag children => .start tag :: (Tree.eventsOfList children ++ [.finish])

/-- The events of several trees, one tree after the other. -/
def Tree.eventsOfList : List Tree → List Event
  | [] => []
  | t :: ts => t.events ++ Tree.eventsOfList ts

end

/-- A tree that only holds text. -/
def Tree.text (t : Text) : Tree := .leaf (.text t)

theorem Tree.eventsOfList_append (ts us : List Tree) :
    Tree.eventsOfList (ts ++ us) = Tree.eventsOfList ts ++ Tree.eventsOfList us := by
  induction ts with
  | nil => rfl
  | cons t ts ih => simp [Tree.eventsOfList, ih]

end WikiMarkup
