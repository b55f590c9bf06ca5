import WikiMarkup.Proofs.Render.Evaluation
import WikiMarkup.Proofs.Text.Pieces
import WikiMarkup.Proofs.Wiki.MarkedLine
/-!
# Nested lists

The wiki shows how deep an item stands by the markers of all the lists around it. No list knows how
deep it stands itself: it takes the text of its items apart into lines and puts its own marker
before each of them. The markers of a whole tree of lists come out right nevertheless
(`render_nestedList`): each item with a text is one line, in the order of the document, and the
line begins with the markers of the lists from the outermost to the innermost.

The invariant is about the lines that are not empty. Those of a piece of a tree are the lines of
its items below the lists of that piece, as if there were no list around (`Entry.partialLine`), and
a list turns them into the lines of the same items below one list more
(`Entry.markLine_partialLine`).
-/

namespace WikiMarkup.Wiki

/-! ### Trees of lists -/

/-- The own text of an item: one line that cannot be mistaken for a line of a list. -/
structure ItemText where
  content : Text
  /-- Whether the text stands in a paragraph of its own. -/
  inParagraph : Bool
  ne_nil : content ≠ []
  newline_notMem : '\n' ∉ content
  trim_eq : content.trim = content
  not_marked : startsWithMarker content = false

mutual

/-- The items of a list: each has a text or none, and then any number of lists. -/
inductive ListItems where
  | nil
  | cons (own : Option ItemText) (inner : NestedLists) (rest : ListItems)

/-- The lists in an item, each with its first number if it is ordered. -/
inductive NestedLists where
  | nil
  | cons (start : Option Nat) (items : ListItems) (rest : NestedLists)

end

/-- The text of an item in a document. -/
def ItemText.tree (t : ItemText) : Tree :=
  if t.inParagraph then .node .paragraph [.text t.content] else .text t.content

mutual

/-- The items of a list in a document. -/
def ListItems.trees : ListItems → List Tree
  | .nil => []
  | .cons own inner rest =>
    .node .item (own.toList.map ItemText.tree ++ inner.trees) :: rest.trees

/-- The lists of an item in a document. -/
def NestedLists.trees : NestedLists → List Tree
  | .nil => []
  | .cons start items rest => .node (.list start) items.trees :: rest.trees

end

/-- An item with a text, and for each list around it, from the outermost to the innermost, whether
the list is ordered. -/
structure Entry where
  path : List Bool
  text : ItemText

mutual

/-- The items with a text in the order of the document, below the lists of `path`. -/
def ListItems.entries (path : List Bool) : ListItems → List Entry
  | .nil => []
  | .cons own inner rest => own.toList.map (⟨path, ·⟩) ++ inner.entries path ++ rest.entries path

/-- The items with a text in several lists, all of them below the lists of `path`. -/
def NestedLists.entries (path : List Bool) : NestedLists → List Entry
  | .nil => []
  | .cons start items rest => items.entries (path ++ [start.isSome]) ++ rest.entries path

end

/-- The line of an item: the markers of its lists, a space and its text. -/
def Entry.line (e : Entry) : Text := e.path.map listMarker ++ ' ' :: e.text.content

/-! ### The lines of an item -/

namespace Entry

/-- The line of an item as far as only the lists of its path are known. An item without any list is
its text alone. -/
def partialLine (e : Entry) : Text := if e.path = [] then e.text.content else e.line

/-- The same item below one list more. -/
def below (ordered : Bool) (e : Entry) : Entry := { e with path := ordered :: e.path }

lemma partialLine_below (ordered : Bool) (e : Entry) :
    (e.below ordered).partialLine = (e.below ordered).line := if_neg (by simp [below])

/-- A list turns the line of an item into the line of the same item below that list. -/
lemma markLine_partialLine (ordered : Bool) (e : Entry) :
    markLine (listMarker ordered) e.partialLine = (e.below ordered).line := by
  obtain ⟨path, t⟩ := e
  cases path with
  | nil => exact if_neg (by simp [partialLine, t.not_marked])
  | cons o path => exact if_pos (startsWithMarker_listMarker o _)

lemma newline_notMem_line (e : Entry) : '\n' ∉ e.line := by
  simp [line, (newline_ne_listMarker _).symm, e.text.newline_notMem]

lemma trimStart_partialLine (e : Entry) : e.partialLine.trimStart = e.partialLine := by
  obtain ⟨path, t⟩ := e
  cases path with
  | nil => exact ((Text.trim_eq_iff _).1 t.trim_eq).1
  | cons o path => exact Text.trimStart_cons_of_not_isSpace (isSpace_listMarker o) _

lemma trimEnd_partialLine (e : Entry) : e.partialLine.trimEnd = e.partialLine := by
  have htext := ((Text.trim_eq_iff _).1 e.text.trim_eq).2
  rw [partialLine]
  split
  · exact htext
  · have hline : e.line = (e.path.map listMarker ++ [' ']) ++ e.text.content := by simp [line]
    rw [hline, Text.trimEnd_append e.text.ne_nil htext]

end Entry

mutual

lemma ListItems.entries_cons (ordered : Bool) (path : List Bool) (items : ListItems) :
    items.entries (ordered :: path) = (items.entries path).map (Entry.below ordered) := by
  match items with
  | .nil => rfl
  | .cons own inner rest =>
    have hinner := NestedLists.entries_cons ordered path inner
    have hrest := ListItems.entries_cons ordered path rest
    cases own <;> simp [ListItems.entries, Entry.below, hinner, hrest]

lemma NestedLists.entries_cons (ordered : Bool) (path : List Bool) (lists : NestedLists) :
    lists.entries (ordered :: path) = (lists.entries path).map (Entry.below ordered) := by
  match lists with
  | .nil => rfl
  | .cons start items rest =>
    have hitems := ListItems.entries_cons ordered (path ++ [start.isSome]) items
    have hrest := NestedLists.entries_cons ordered path rest
    simp [NestedLists.entries, hitems, hrest]

end

/-! ### The lines of a list -/

lemma pieces_join_lines (es : List Entry) :
    Text.pieces '\n' (Text.join ['\n'] (es.map Entry.line)) = es.map Entry.line := by
  refine Text.pieces_join (fun l hl => ?_) fun l hl => ?_
  · obtain ⟨e, -, rfl⟩ := List.mem_map.1 hl
    simp [Entry.line]
  · obtain ⟨e, -, rfl⟩ := List.mem_map.1 hl
    exact e.newline_notMem_line

/-- Trimming does not cut into the lines of items. -/
lemma listLines_of_entries {body : Text} {es : List Entry}
    (hbody : Text.pieces '\n' body = es.map Entry.partialLine) :
    listLines body = es.map Entry.partialLine := by
  have htrim : Text.pieces '\n' body.trim = Text.pieces '\n' body := by
    refine Text.pieces_trim (fun l hl => ?_) fun l hl => ?_
    · rw [hbody, List.head?_map] at hl
      obtain ⟨e, -, rfl⟩ := Option.map_eq_some_iff.1 hl
      exact e.trimStart_partialLine
    · rw [hbody, List.getLast?_map] at hl
      obtain ⟨e, -, rfl⟩ := Option.map_eq_some_iff.1 hl
      exact e.trimEnd_partialLine
  exact htrim.trans hbody

/-- A list writes the lines of its items below itself. -/
lemma list_of_entries {body : Text} {es : List Entry}
    (hbody : Text.pieces '\n' body = es.map Entry.partialLine) (start : Option Nat) :
    list body start.isSome start =
      "\n".toList ++ Text.join ['\n'] ((es.map (Entry.below start.isSome)).map Entry.line) ++
        "\n\n".toList := by
  have hlines : (es.map Entry.partialLine).map (markLine (listMarker start.isSome)) =
      (es.map (Entry.below start.isSome)).map Entry.line := by
    rw [List.map_map, List.map_map]
    exact List.map_congr_left fun e _ => e.markLine_partialLine start.isSome
  rw [list, listLines_of_entries hbody, hlines]

/-! ### Rendering -/

lemma paragraph_of_line (newlines : NewlineReplacement) {t : Text} (h : '\n' ∉ t)
    (htrim : t.trim = t) : paragraph newlines t = t ++ "\n\n".toList := by
  rw [paragraph]
  split
  · rw [Text.replaceNewlines_of_line _ h htrim]
  · rfl

section

variable (o : Options)

lemma ItemText.meaning_tree (t : ItemText) :
    ∃ out, t.tree.meaning (backend o).answer .flow = .ok out ∧
      Text.pieces '\n' out = [t.content] := by
  have hline := Text.pieces_of_notMem t.ne_nil t.newline_notMem
  have htext : (Tree.text t.content).meaning (backend o).answer .flow = .ok t.content := rfl
  cases hp : t.inParagraph with
  | false =>
    rw [ItemText.tree, hp]
    exact ⟨t.content, htext, hline⟩
  | true =>
    have hmeaning : (Tree.node .paragraph [Tree.text t.content]).meaning (backend o).answer .flow =
        .ok (paragraph o.newlines t.content) :=
      Tree.meaning_node_ok Place.flow_ne_image rfl (Tree.meaningOfList_singleton_ok htext)
    -- No option matters: there is no newline to replace, and nothing to trim.
    refine ⟨t.content ++ "\n\n".toList, ?_, ?_⟩
    · rw [ItemText.tree, hp, ← paragraph_of_line o.newlines t.newline_notMem t.trim_eq]
      exact hmeaning
    · have hend : t.content ++ "\n\n".toList = t.content ++ '\n' :: ['\n'] := rfl
      rw [hend, Text.pieces_append, hline]
      rfl

lemma meaningOfList_own (own : Option ItemText) :
    ∃ out, Tree.meaningOfList (backend o).answer .flow (own.toList.map ItemText.tree) = .ok out ∧
      Text.pieces '\n' out = (own.toList.map fun t => Entry.mk [] t).map Entry.partialLine := by
  cases own with
  | none => exact ⟨[], rfl, rfl⟩
  | some t =>
    obtain ⟨out, hout, hlines⟩ := t.meaning_tree o
    exact ⟨out, Tree.meaningOfList_singleton_ok hout, hlines⟩

/-- A list is rendered as the lines of its items. -/
lemma meaning_list (start : Option Nat) {items : ListItems} {body : Text}
    (h : Tree.meaningOfList (backend o).answer .flow items.trees = .ok body)
    (hbody : Text.pieces '\n' body = (items.entries []).map Entry.partialLine) :
    (Tree.node (.list start) items.trees).meaning (backend o).answer .flow =
      .ok ("\n".toList ++ Text.join ['\n'] ((items.entries [start.isSome]).map Entry.line) ++
        "\n\n".toList) := by
  rw [Tree.meaning_node_ok Place.flow_ne_image rfl h, ListItems.entries_cons,
    ← list_of_entries hbody]
  rfl

mutual

/-- The lines of the items of a list, before the list itself puts its marker before them. -/
lemma ListItems.meaning_trees (items : ListItems) :
    ∃ out, Tree.meaningOfList (backend o).answer .flow items.trees = .ok out ∧
      Text.pieces '\n' out = (items.entries []).map Entry.partialLine := by
  match items with
  | .nil => exact ⟨[], rfl, rfl⟩
  | .cons own inner rest =>
    obtain ⟨t, ht, htlines⟩ := meaningOfList_own o own
    obtain ⟨u, hu, hulines, hustart⟩ := NestedLists.meaning_trees inner
    obtain ⟨v, hv, hvlines⟩ := ListItems.meaning_trees rest
    have hbody := Tree.meaningOfList_append_ok ht hu
    have hitem : (Tree.node .item (own.toList.map ItemText.tree ++ inner.trees)).meaning
        (backend o).answer .flow = .ok (listItem (t ++ u)) :=
      Tree.meaning_node_ok Place.flow_ne_image rfl hbody
    refine ⟨listItem (t ++ u) ++ v, Tree.meaningOfList_cons_ok hitem hv, ?_⟩
    -- The newline behind an item ends its last line, as the one before a list ends the own text.
    have hout : listItem (t ++ u) ++ v = (t ++ u) ++ '\n' :: v := by simp [listItem]
    rw [hout, Text.pieces_append, Text.pieces_append_of_start hustart, htlines,
      hulines, hvlines, ListItems.entries, List.map_append, List.map_append]

/-- The lines of the lists in an item. The output begins with a newline, so that the first of the
lines does not run into the text of the item. -/
lemma NestedLists.meaning_trees (lists : NestedLists) :
    ∃ out, Tree.meaningOfList (backend o).answer .flow lists.trees = .ok out ∧
      Text.pieces '\n' out = (lists.entries []).map Entry.partialLine ∧
        (out = [] ∨ ∃ rest, out = '\n' :: rest) := by
  match lists with
  | .nil => exact ⟨[], rfl, rfl, .inl rfl⟩
  | .cons start items rest =>
    obtain ⟨body, hbody, hlines⟩ := ListItems.meaning_trees items
    obtain ⟨v, hv, hvlines, -⟩ := NestedLists.meaning_trees rest
    refine ⟨_, Tree.meaningOfList_cons_ok (meaning_list o start hbody hlines) hv, ?_,
      .inr ⟨_, rfl⟩⟩
    set es := items.entries [start.isSome] with hes
    -- These items have a list around them, so nothing of their lines is missing yet.
    have hpartial : es.map Entry.line = es.map Entry.partialLine := by
      rw [hes, ListItems.entries_cons, List.map_map, List.map_map]
      exact List.map_congr_left fun e _ => (e.partialLine_below _).symm
    have hout : "\n".toList ++ Text.join ['\n'] (es.map Entry.line) ++ "\n\n".toList ++ v =
        ('\n' :: Text.join ['\n'] (es.map Entry.line)) ++ '\n' :: '\n' :: v := by simp
    have hentries : (NestedLists.cons start items rest).entries [] = es ++ rest.entries [] := rfl
    rw [hout, Text.pieces_append, Text.pieces_cons_sep, Text.pieces_cons_sep, pieces_join_lines,
      hpartial, hvlines, hentries, List.map_append]

end

end

/-! ### Documents -/

lemma ItemText.tree_shaped (t : ItemText) : t.tree.Shaped true := by
  rw [ItemText.tree]
  split
  · exact .node rfl (List.forall_mem_singleton.2 (.leaf _))
  · exact .leaf _

mutual

lemma ListItems.trees_shaped (items : ListItems) : ∀ t ∈ items.trees, t.Shaped true := by
  intro t ht
  match items with
  | .nil => cases ht
  | .cons own inner rest =>
    rcases List.mem_cons.1 ht with rfl | ht
    · refine .node rfl fun u hu => ?_
      rcases List.mem_append.1 hu with hu | hu
      · obtain ⟨s, -, rfl⟩ := List.mem_map.1 hu
        exact s.tree_shaped
      · exact NestedLists.trees_shaped inner u hu
    · exact ListItems.trees_shaped rest t ht

lemma NestedLists.trees_shaped (lists : NestedLists) : ∀ t ∈ lists.trees, t.Shaped true := by
  intro t ht
  match lists with
  | .nil => cases ht
  | .cons start items rest =>
    rcases List.mem_cons.1 ht with rfl | ht
    · exact .node rfl (ListItems.trees_shaped items)
    · exact NestedLists.trees_shaped rest t ht

end

/-- **Nested lists.** A list of items with lists inside, to any depth, is rendered as one line for
each item with a text, in the order of the document. The line begins with the markers of the lists
around the item, from the outermost to the innermost. -/
theorem render_nestedList (o : Options) (start : Option Nat) (items : ListItems) :
    (backend o).render (Tree.node (.list start) items.trees).events =
      .ok ("\n".toList ++ Text.join ['\n'] ((items.entries [start.isSome]).map Entry.line) ++
        "\n\n".toList) := by
  obtain ⟨body, hbody, hlines⟩ := items.meaning_trees o
  exact render_events_ok (backend o) (.node rfl items.trees_shaped)
    (meaning_list o start hbody hlines)

/-- An item whose text stands in a paragraph. -/
def looseText : ItemText := ⟨"a -".toList, true, by decide, by decide, by decide, by decide⟩

/-- An item without a text, with an ordered list and an empty one in it, and then an item with a
text. -/
def mixedItems : ListItems :=
  .cons none (.cons (some 3) (.cons (some looseText) .nil .nil) (.cons none .nil .nil))
    (.cons (some looseText) .nil .nil)

example : (mixedItems.entries [false]).map Entry.line = ["*# a -".toList, "* a -".toList] := rfl

example : (backend {}).render (Tree.node (.list none) mixedItems.trees).events =
    .ok "\n*# a -\n* a -\n\n".toList := rfl

end WikiMarkup.Wiki
