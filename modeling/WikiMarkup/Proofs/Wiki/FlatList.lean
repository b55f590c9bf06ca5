import WikiMarkup.Proofs.Text.Infix
import WikiMarkup.Proofs.Wiki.MarkedLine
import WikiMarkup.Proofs.Wiki.Table
/-!
# Items over several lines

A list without lists in it takes every line of its items for an item. What the list writes is
therefore one line for each line of its items, and such a line begins with the marker of the list
and a space unless it begins like a line of a nested list: then a marker is put before it and no
space. An item of one line can begin so, for strong text is written between two of the markers for
bullets.

So each item gets one bullet with its content behind it if and only if no item has a line break in
its content and no item begins with strong text (`render_flatList`).
-/

namespace WikiMarkup.Wiki

open Text (Solid)

/-! ### The parts of an item -/

/-- A construct within a line. -/
def isInlineTag : Tag → Bool
  | .emphasis | .strong | .strikethrough | .link _ _ | .image _ _ => true
  | _ => false

/-- A part of an item that is no block. A text in it holds no newline and does not begin with the
marker of a list. -/
inductive InlinePart : Tree → Prop
  | text {t : Text} (hnewline : '\n' ∉ t) (hmarker : startsWithMarker t = false) :
      InlinePart (.text t)
  | code (t : Text) : InlinePart (.leaf (.code t))
  | softBreak : InlinePart (.leaf .softBreak)
  | node {tag : Tag} {ts : List Tree} (htag : isInlineTag tag = true)
      (hts : ∀ t ∈ ts, InlinePart t) : InlinePart (.node tag ts)

/-- The first part that is not an empty text is strong text. -/
def beginsStrong : List Tree → Bool
  | .leaf (.text []) :: ts => beginsStrong ts
  | .node .strong _ :: _ => true
  | _ => false

lemma InlinePart.shaped {t : Tree} (h : InlinePart t) : t.Shaped false := by
  induction h with
  | text | code | softBreak => exact .leaf _
  | @node tag ts htag _ ih =>
    refine .node ?_ ih
    cases tag <;> first | rfl | cases htag

lemma beginsStrong_cons {t : Tree} (ht : t ≠ .text []) (ts : List Tree) :
    beginsStrong (t :: ts) = beginsStrong [t] := by
  cases t with
  | node tag us => cases tag <;> rfl
  | leaf l =>
    cases l with
    | text u =>
      cases u with
      | nil => exact absurd rfl ht
      | cons c r => rfl
    | _ => rfl

lemma exists_link_eq (href : Text) (title : Option Text) (content : Text) :
    ∃ r, link href title content = '[' :: r := by
  rw [link]
  split <;> exact ⟨_, rfl⟩

lemma exists_image_eq (href : Text) (title : Option Text) (alt : Text) :
    ∃ r, image href title alt = '!' :: r := by
  rw [image]
  split <;> exact ⟨_, rfl⟩

section

variable (o : Options)

/-- What a part shows begins with a marker if and only if the part is strong text. -/
lemma InlinePart.meaning {t : Tree} (h : InlinePart t) :
    t = .text [] ∨ ∃ c r, t.meaning (backend o).answer .flow = .ok (c :: r) ∧
      startsWithMarker (c :: r) = beginsStrong [t] := by
  cases h with
  | @text t hnewline hmarker =>
    cases t with
    | nil => exact .inl rfl
    | cons c r => exact .inr ⟨c, r, rfl, hmarker⟩
  | code t => exact .inr ⟨'\x7b', _, rfl, rfl⟩
  | softBreak => exact .inr ⟨'\n', [], rfl, rfl⟩
  | @node tag ts htag hts =>
    refine .inr ?_
    obtain ⟨x, hx⟩ := Tree.exists_meaningOfList_ok fun t ht =>
      (hts t ht).shaped.exists_meaning_ok (exists_answer_ok o) tag.place
    have htable : tag.isTablePart = false := by cases tag <;> first | rfl | cases htag
    rw [Tree.meaning_node_ok Place.flow_ne_image htable hx]
    cases tag with
    | emphasis | strong | strikethrough => exact ⟨_, _, rfl, rfl⟩
    | link href title =>
      obtain ⟨r, hr⟩ := exists_link_eq href (nonempty? title) x
      rw [Tag.meaning_link]
      exact ⟨'[', r, congrArg Except.ok hr, rfl⟩
    | image href title =>
      obtain ⟨r, hr⟩ := exists_image_eq href (nonempty? title) x
      rw [Tag.meaning_image]
      exact ⟨'!', r, congrArg Except.ok hr, rfl⟩
    | _ => cases htag

/-- The content of an item begins with a marker if and only if the item begins with strong text. -/
lemma startsWithMarker_content {parts : List Tree} (h : ∀ t ∈ parts, InlinePart t) {content : Text}
    (hcontent : Tree.meaningOfList (backend o).answer .flow parts = .ok content) :
    startsWithMarker content = beginsStrong parts := by
  induction parts generalizing content with
  | nil =>
    obtain rfl := Except.ok.inj hcontent
    rfl
  | cons t ts ih =>
    obtain ⟨y, hy⟩ := Tree.exists_meaningOfList_ok fun u hu =>
      (h u (List.mem_cons_of_mem t hu)).shaped.exists_meaning_ok (exists_answer_ok o) .flow
    rcases (h t (by simp)).meaning o with rfl | ⟨c, r, hr, hmarker⟩
    · -- An empty text shows nothing.
      have hnil : (Tree.text []).meaning (backend o).answer .flow = .ok [] := rfl
      rw [Tree.meaningOfList_cons_ok hnil hy] at hcontent
      obtain rfl := Except.ok.inj hcontent
      exact ih (fun u hu => h u (by simp [hu])) hy
    · rw [Tree.meaningOfList_cons_ok hr hy] at hcontent
      obtain rfl := Except.ok.inj hcontent
      have hne : t ≠ .text [] := by
        rintro rfl
        cases hr
      rw [beginsStrong_cons hne, ← hmarker]
      rfl

end

/-! ### Lists of such items -/

/-- An item whose parts are no blocks. Its content is not blank and neither begins nor ends with
white space. -/
structure FlatItem (o : Options) where
  parts : List Tree
  parts_inline : ∀ t ∈ parts, InlinePart t
  not_blank : (cellContent o parts).isBlank = false
  trim_eq : (cellContent o parts).trim = cellContent o parts

namespace FlatItem

variable {o : Options}

/-- What the item holds, as it is rendered. -/
def content (i : FlatItem o) : Text := cellContent o i.parts

/-- The item in a document. -/
def tree (i : FlatItem o) : Tree := .node .item i.parts

lemma content_ne_nil (i : FlatItem o) : i.content ≠ [] := by
  intro hnil
  have hblank : Text.isBlank i.content = false := i.not_blank
  rw [hnil] at hblank
  cases hblank

lemma solid (i : FlatItem o) : Solid i.content :=
  Text.solid_of_trim_eq i.content_ne_nil i.trim_eq

lemma meaning_tree (i : FlatItem o) :
    i.tree.meaning (backend o).answer .flow = .ok (listItem i.content) :=
  Tree.meaning_node_ok Place.flow_ne_image rfl
    (meaningOfList_cell fun t ht => (i.parts_inline t ht).shaped)

lemma startsWithMarker_eq (i : FlatItem o) : startsWithMarker i.content = beginsStrong i.parts :=
  startsWithMarker_content o i.parts_inline
    (meaningOfList_cell fun t ht => (i.parts_inline t ht).shaped)

lemma tree_shaped (i : FlatItem o) : i.tree.Shaped true :=
  .node rfl fun t ht => (i.parts_inline t ht).shaped.toTrue

end FlatItem

/-- The lines of a text that begin with the marker of a list. -/
def markedLines (t : Text) : List Text := (t.split '\n').filter startsWithMarker

lemma markedLines_eq (t : Text) :
    markedLines t = (Text.pieces '\n' t).filter startsWithMarker := by
  rw [markedLines, Text.pieces, List.filter_filter]
  refine List.filter_congr fun l _ => ?_
  cases l <;> simp [startsWithMarker]

section

variable {o : Options} (items : List (FlatItem o))

/-- The lines of all items, in order. -/
def contentLines : List Text := items.flatMap fun i => Text.pieces '\n' i.content

lemma meaningOfList_items :
    Tree.meaningOfList (backend o).answer .flow (items.map FlatItem.tree) =
      .ok (items.flatMap fun i => listItem i.content) := by
  induction items with
  | nil => rfl
  | cons i items ih => exact Tree.meaningOfList_cons_ok i.meaning_tree ih

lemma pieces_items :
    Text.pieces '\n' (items.flatMap fun i => listItem i.content) = contentLines items := by
  induction items with
  | nil => rfl
  | cons i items ih =>
    have hbody : (i :: items).flatMap (fun i => listItem i.content) =
        i.content ++ '\n' :: items.flatMap fun i => listItem i.content := by
      simp [listItem]
    rw [hbody, Text.pieces_append, ih]
    rfl

/-- The first line of the items begins without white space. -/
lemma trimStart_head_contentLines {l : Text} (hl : l ∈ (contentLines items).head?) :
    Text.trimStart l = l := by
  cases items with
  | nil => cases hl
  | cons i items =>
    obtain ⟨c, r, fs, hpieces, hc⟩ :=
      i.solid.pieces_head (show Text.isSpace '\n' = true by decide)
    rw [contentLines, List.flatMap_cons, hpieces] at hl
    obtain rfl : c :: r = l := Option.some.inj hl
    exact Text.trimStart_cons_of_not_isSpace hc r

/-- The last line of the items ends without white space. -/
lemma trimEnd_getLast_contentLines {l : Text} (hl : l ∈ (contentLines items).getLast?) :
    Text.trimEnd l = l := by
  rcases List.eq_nil_or_concat items with rfl | ⟨init, i, rfl⟩
  · cases hl
  · obtain ⟨ls, r, c, hpieces, hc⟩ :=
      i.solid.pieces_last (show Text.isSpace '\n' = true by decide)
    have hend : contentLines (init.concat i) = (contentLines init ++ ls) ++ [r ++ [c]] := by
      simp [contentLines, hpieces]
    rw [hend, List.getLast?_concat] at hl
    obtain rfl := Option.some.inj hl
    exact Text.trimEnd_append_of_not_isSpace hc r

/-- Trimming does not cut into the items of a list. -/
lemma listLines_items :
    listLines (items.flatMap fun i => listItem i.content) = contentLines items := by
  have htrim : Text.pieces '\n' (Text.trim (items.flatMap fun i => listItem i.content)) =
      Text.pieces '\n' (items.flatMap fun i => listItem i.content) := by
    refine Text.pieces_trim (fun l hl => ?_) fun l hl => ?_
    · rw [pieces_items] at hl
      exact trimStart_head_contentLines items hl
    · rw [pieces_items] at hl
      exact trimEnd_getLast_contentLines items hl
  exact htrim.trans (pieces_items items)

/-- The output for the list. -/
def flatListOutput (ordered : Bool) : Text :=
  "\n".toList ++ Text.join ['\n'] ((contentLines items).map (markLine (listMarker ordered))) ++
    "\n\n".toList

lemma render_list_items (start : Option Nat) :
    (backend o).render (Tree.node (.list start) (items.map FlatItem.tree)).events =
      .ok (flatListOutput items start.isSome) := by
  have hmeaning : (Tree.node (.list start) (items.map FlatItem.tree)).meaning (backend o).answer
      .flow = .ok (list (items.flatMap fun i => listItem i.content) start.isSome start) :=
    Tree.meaning_node_ok Place.flow_ne_image rfl (meaningOfList_items items)
  have hshaped : (Tree.node (.list start) (items.map FlatItem.tree)).Shaped true := by
    refine .node rfl fun t ht => ?_
    obtain ⟨i, -, rfl⟩ := List.mem_map.1 ht
    exact i.tree_shaped
  rw [list, listLines_items] at hmeaning
  exact render_events_ok (backend o) hshaped hmeaning

lemma newline_notMem_of_mem_contentLines {l : Text} (hl : l ∈ contentLines items) : '\n' ∉ l := by
  obtain ⟨i, -, hl⟩ := List.mem_flatMap.1 hl
  exact Text.notMem_of_mem_split (List.mem_of_mem_filter hl)

/-- Every line of the items is a marked line of the output, and there are no others. -/
lemma markedLines_flatListOutput (ordered : Bool) :
    markedLines (flatListOutput items ordered) =
      (contentLines items).map (markLine (listMarker ordered)) := by
  set ls := (contentLines items).map (markLine (listMarker ordered)) with hls
  have hmarked : ∀ l ∈ ls, startsWithMarker l = true := by
    intro l hl
    obtain ⟨line, -, rfl⟩ := List.mem_map.1 hl
    exact startsWithMarker_markLine ordered line
  have hpieces : Text.pieces '\n' (flatListOutput items ordered) = ls := by
    refine Text.pieces_join_padded (fun l hl => ?_) fun l hl => ?_
    · exact ne_nil_of_startsWithMarker (hmarked l hl)
    · obtain ⟨line, hline, rfl⟩ := List.mem_map.1 hl
      exact newline_notMem_markLine ordered (newline_notMem_of_mem_contentLines items hline)
  rw [markedLines_eq, hpieces]
  exact List.filter_eq_self.2 hmarked

lemma contentLines_eq (h : ∀ i ∈ items, '\n' ∉ i.content) :
    contentLines items = items.map FlatItem.content := by
  induction items with
  | nil => rfl
  | cons i items ih =>
    have hline := Text.pieces_of_notMem i.content_ne_nil (h i (by simp))
    rw [contentLines, List.flatMap_cons, hline, List.map_cons, ← ih fun j hj => h j (by simp [hj])]
    rfl

/-- Each item has one bullet if and only if its content is one line that begins with no marker. -/
lemma map_markLine_eq_iff (ordered : Bool) :
    (contentLines items).map (markLine (listMarker ordered)) =
        items.map (fun i => listMarker ordered :: ' ' :: i.content) ↔
      ∀ i ∈ items, '\n' ∉ i.content ∧ startsWithMarker i.content = false := by
  constructor
  · intro h
    have hline : ∀ i ∈ items, '\n' ∉ i.content := by
      intro i hi hmem
      have hbullet : listMarker ordered :: ' ' :: i.content ∈
          (contentLines items).map (markLine (listMarker ordered)) := by
        rw [h]
        exact List.mem_map_of_mem hi
      obtain ⟨l, hl, heq⟩ := List.mem_map.1 hbullet
      refine newline_notMem_markLine ordered (newline_notMem_of_mem_contentLines items hl) ?_
      rw [heq]
      exact List.mem_cons_of_mem _ (List.mem_cons_of_mem _ hmem)
    rw [contentLines_eq items hline, List.map_map, List.map_inj_left] at h
    intro i hi
    refine ⟨hline i hi, ?_⟩
    by_contra hmarker
    have hbullet : markLine (listMarker ordered) i.content = _ := h i hi
    rw [markLine, if_pos (by simpa using hmarker)] at hbullet
    have hlength := congrArg List.length hbullet
    simp at hlength
  · intro h
    rw [contentLines_eq items fun i hi => (h i hi).1, List.map_map]
    refine List.map_congr_left fun i hi => ?_
    exact if_neg (by simp [(h i hi).2])

/-- **Items and bullets.** A list whose items hold no blocks is rendered as one line for each line
of its items. These are its only lines that begin with a marker. Each item gets one of them, in
order, with one marker, a space and the content of the item, if and only if no content goes over
several lines and no item begins with strong text. -/
theorem render_flatList (start : Option Nat) :
    (backend o).render (Tree.node (.list start) (items.map FlatItem.tree)).events =
        .ok (flatListOutput items start.isSome) ∧
      markedLines (flatListOutput items start.isSome) =
        (contentLines items).map (markLine (listMarker start.isSome)) ∧
      (markedLines (flatListOutput items start.isSome) =
          items.map (fun i => listMarker start.isSome :: ' ' :: i.content) ↔
        ∀ i ∈ items, '\n' ∉ i.content ∧ beginsStrong i.parts = false) := by
  have hlines := markedLines_flatListOutput items start.isSome
  refine ⟨render_list_items items start, hlines, ?_⟩
  rw [hlines, map_markLine_eq_iff]
  simp only [FlatItem.startsWithMarker_eq]

end

/-- An item that is strong text. -/
def strongItem : FlatItem {} where
  parts := [.node .strong [.text "b".toList]]
  parts_inline := by
    refine List.forall_mem_singleton.2 (.node rfl (List.forall_mem_singleton.2 (.text ?_ rfl)))
    decide
  not_blank := by decide
  trim_eq := by decide

/-- An item over two lines. -/
def brokenItem : FlatItem {} where
  parts := [.text "a".toList, .leaf .softBreak, .leaf (.code "b".toList)]
  parts_inline := by
    refine List.forall_mem_cons.2 ⟨.text (by decide) rfl, List.forall_mem_cons.2 ⟨.softBreak, ?_⟩⟩
    exact List.forall_mem_singleton.2 (.code _)
  not_blank := by decide
  trim_eq := by decide

/-- Strong text takes its bullet for the marker of a nested list, and an item over two lines has two
bullets. -/
theorem bullets_of_strongItem_brokenItem :
    (backend {}).render (Tree.node (.list none) [strongItem.tree]).events =
        .ok "\n**b*\n\n".toList ∧
      markedLines "\n**b*\n\n".toList ≠ ['*' :: ' ' :: strongItem.content] ∧
      (backend {}).render (Tree.node (.list none) [brokenItem.tree]).events =
        .ok "\n* a\n* \x7b\x7bb\x7d\x7d\n\n".toList ∧
      (markedLines "\n* a\n* \x7b\x7bb\x7d\x7d\n\n".toList).length = 2 := by
  refine ⟨rfl, ?_, rfl, rfl⟩
  decide

end WikiMarkup.Wiki
