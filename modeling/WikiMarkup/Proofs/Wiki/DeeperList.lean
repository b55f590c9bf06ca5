import WikiMarkup.Proofs.Render.Evaluation
import WikiMarkup.Proofs.Text.LineEnds
import WikiMarkup.Proofs.Wiki.MarkedLine
/-!
# A list as the only content of an item

A list that is all that an item holds is one level deeper in the output: each of its lines has the
marker of the outer list directly in front and is the same line otherwise (`list_listItem_list`).
This does not depend on what the inner list holds. The outer list trims what it gets and takes it
apart into lines again, and the lines of any list withstand both (`WrittenLines`): each of them
begins with a marker, and the last one does not end with white space, since the inner list has
trimmed its own body before. The lines of the outer list are of the same kind, so this goes on to
any depth (`render_inLists`).
-/

namespace WikiMarkup.Wiki

/-- A list as it stands in the output, by its lines. -/
def listOfLines (lines : List Text) : Text :=
  "\n".toList ++ Text.join ['\n'] lines ++ "\n\n".toList

lemma list_eq_listOfLines (body : Text) (ordered : Bool) (start : Option Nat) :
    list body ordered start =
      listOfLines ((listLines body).map (markLine (listMarker ordered))) := rfl

/-- Lines as a list writes them. -/
structure WrittenLines (lines : List Text) : Prop where
  marked : ∀ l ∈ lines, startsWithMarker l = true
  newline_notMem : ∀ l ∈ lines, '\n' ∉ l
  trimEnd_last : ∀ l ∈ lines.getLast?, Text.trimEnd l = l

lemma trimStart_of_startsWithMarker {l : Text} (h : startsWithMarker l = true) :
    Text.trimStart l = l := by
  cases l with
  | nil => rfl
  | cons c r =>
    have hc : c = '#' ∨ c = '*' := by simpa [startsWithMarker] using h
    refine Text.trimStart_cons_of_not_isSpace ?_ r
    rcases hc with rfl | rfl <;> rfl

namespace WrittenLines

variable {lines : List Text} (h : WrittenLines lines)

include h

lemma pieces_listOfLines : Text.pieces '\n' (listOfLines lines) = lines :=
  Text.pieces_join_padded (fun l hl => ne_nil_of_startsWithMarker (h.marked l hl)) h.newline_notMem

/-- No line is lost when the list is trimmed and taken apart. -/
lemma listLines_listItem : listLines (listItem (listOfLines lines)) = lines := by
  have hpieces : Text.pieces '\n' (listItem (listOfLines lines)) = lines := by
    rw [listItem, Text.pieces_append, h.pieces_listOfLines, Text.pieces_nil, List.append_nil]
  have htrim : Text.pieces '\n' (Text.trim (listItem (listOfLines lines))) =
      Text.pieces '\n' (listItem (listOfLines lines)) := by
    refine Text.pieces_trim (fun l hl => ?_) fun l hl => ?_
    · rw [hpieces] at hl
      exact trimStart_of_startsWithMarker (h.marked l (List.mem_of_mem_head? hl))
    · rw [hpieces] at hl
      exact h.trimEnd_last l hl
  exact htrim.trans hpieces

/-- Each line gets one marker more, and no space. -/
lemma list_listItem (ordered : Bool) (start : Option Nat) :
    list (listItem (listOfLines lines)) ordered start =
      listOfLines (lines.map (listMarker ordered :: ·)) := by
  have hmark : lines.map (markLine (listMarker ordered)) =
      lines.map (listMarker ordered :: ·) :=
    List.map_congr_left fun l hl => if_pos (h.marked l hl)
  rw [list_eq_listOfLines, h.listLines_listItem, hmark]

lemma deeper (ordered : Bool) : WrittenLines (lines.map (listMarker ordered :: ·)) := by
  refine ⟨fun l hl => ?_, fun l hl => ?_, fun l hl => ?_⟩
  · obtain ⟨k, -, rfl⟩ := List.mem_map.1 hl
    exact startsWithMarker_listMarker ordered k
  · obtain ⟨k, hk, rfl⟩ := List.mem_map.1 hl
    simp [newline_ne_listMarker, h.newline_notMem k hk]
  · rw [List.getLast?_map] at hl
    obtain ⟨k, hk, rfl⟩ := Option.map_eq_some_iff.1 hl
    have hne := ne_nil_of_startsWithMarker (h.marked k (List.mem_of_getLast? hk))
    exact Text.trimEnd_append hne (h.trimEnd_last k hk) [listMarker ordered]

end WrittenLines

/-- The last line of a list's body does not end with white space, as the body is trimmed. -/
lemma last_listLines {body l : Text} (hl : l ∈ (listLines body).getLast?) :
    l ≠ [] ∧ Text.trimEnd l = l := by
  by_cases hnil : Text.trim body = []
  · rw [listLines, hnil] at hl
    cases hl
  · have hsolid := Text.solid_of_trim_eq hnil (Text.trim_trim body)
    obtain ⟨ls, r, c, hpieces, hc⟩ := hsolid.pieces_last (show Text.isSpace '\n' = true by decide)
    have hlines : listLines body = ls ++ [r ++ [c]] := hpieces
    rw [hlines, List.getLast?_concat] at hl
    obtain rfl := Option.some.inj hl
    exact ⟨by simp, Text.trimEnd_append_of_not_isSpace hc r⟩

/-- Whatever its body is, a list writes such lines. -/
lemma writtenLines_list (body : Text) (ordered : Bool) :
    WrittenLines ((listLines body).map (markLine (listMarker ordered))) := by
  refine ⟨fun l hl => ?_, fun l hl => ?_, fun l hl => ?_⟩
  · obtain ⟨k, -, rfl⟩ := List.mem_map.1 hl
    exact startsWithMarker_markLine ordered k
  · obtain ⟨k, hk, rfl⟩ := List.mem_map.1 hl
    exact newline_notMem_markLine ordered (Text.notMem_of_mem_split (List.mem_of_mem_filter hk))
  · rw [List.getLast?_map] at hl
    obtain ⟨k, hk, rfl⟩ := Option.map_eq_some_iff.1 hl
    obtain ⟨hne, htrim⟩ := last_listLines hk
    obtain ⟨u, hu⟩ := exists_markLine_eq (listMarker ordered) k
    rw [hu]
    exact Text.trimEnd_append hne htrim u

/-! ### Lists in items -/

lemma pieces_list (body : Text) (ordered : Bool) (start : Option Nat) :
    Text.pieces '\n' (list body ordered start) =
      (listLines body).map (markLine (listMarker ordered)) :=
  (writtenLines_list body ordered).pieces_listOfLines

/-- **A list in an item.** A list that is all that an item of another list holds is written with its
own lines that are not empty, in their order, and with the marker of the other list directly in
front of each. These are the lines of the result, and each of them begins with the two markers. -/
theorem list_listItem_list (body : Text) (inner outer : Bool) (first first' : Option Nat) :
    list (listItem (list body inner first)) outer first' =
        "\n".toList ++ Text.join ['\n']
          ((Text.pieces '\n' (list body inner first)).map (listMarker outer :: ·)) ++
            "\n\n".toList ∧
      Text.pieces '\n' (list (listItem (list body inner first)) outer first') =
        (Text.pieces '\n' (list body inner first)).map (listMarker outer :: ·) ∧
      ∀ l ∈ Text.pieces '\n' (list (listItem (list body inner first)) outer first'),
        [listMarker outer, listMarker inner] <+: l := by
  have hlines := writtenLines_list body inner
  have hlist : list (listItem (list body inner first)) outer first' =
      listOfLines ((Text.pieces '\n' (list body inner first)).map (listMarker outer :: ·)) := by
    rw [pieces_list]
    exact hlines.list_listItem outer first'
  have hpieces : Text.pieces '\n' (list (listItem (list body inner first)) outer first') =
      (Text.pieces '\n' (list body inner first)).map (listMarker outer :: ·) := by
    rw [hlist, pieces_list]
    exact (hlines.deeper outer).pieces_listOfLines
  refine ⟨hlist, hpieces, fun l hl => ?_⟩
  rw [hpieces, pieces_list, List.map_map] at hl
  obtain ⟨k, -, rfl⟩ := List.mem_map.1 hl
  exact List.cons_prefix_cons.2 ⟨rfl, prefix_markLine (listMarker inner) k⟩

/-! ### Lists in lists, to any depth -/

/-- A part of a document in lists with one item each, the lists of `path` from the outermost to the
innermost. -/
def inLists (path : List (Option Nat)) (t : Tree) : Tree :=
  path.foldr (fun start inner => .node (.list start) [.node .item [inner]]) t

/-- The markers of the lists of a path. -/
def pathMarkers (path : List (Option Nat)) : Text :=
  path.map fun start => listMarker start.isSome

lemma inLists_shaped (path : List (Option Nat)) {t : Tree} (h : t.Shaped true) :
    (inLists path t).Shaped true := by
  induction path with
  | nil => exact h
  | cons start path ih =>
    exact .node rfl (List.forall_mem_singleton.2 (.node rfl (List.forall_mem_singleton.2 ih)))

section

variable (o : Options)

section

variable {lines : List Text} (h : WrittenLines lines) {t : Tree}
  (ht : t.meaning (backend o).answer .flow = .ok (listOfLines lines))

include h ht

/-- One list more around a list. -/
lemma WrittenLines.meaning_inList (start : Option Nat) :
    (Tree.node (.list start) [.node .item [t]]).meaning (backend o).answer .flow =
      .ok (listOfLines (lines.map (listMarker start.isSome :: ·))) := by
  have hitem : (Tree.node .item [t]).meaning (backend o).answer .flow =
      .ok (listItem (listOfLines lines)) :=
    Tree.meaning_node_ok Place.flow_ne_image rfl (Tree.meaningOfList_singleton_ok ht)
  rw [← h.list_listItem start.isSome start]
  exact Tree.meaning_node_ok Place.flow_ne_image rfl (Tree.meaningOfList_singleton_ok hitem)

lemma WrittenLines.meaning_inLists (path : List (Option Nat)) :
    (inLists path t).meaning (backend o).answer .flow =
        .ok (listOfLines (lines.map (pathMarkers path ++ ·))) ∧
      WrittenLines (lines.map (pathMarkers path ++ ·)) := by
  induction path with
  | nil =>
    have hnil : lines.map (pathMarkers [] ++ ·) = lines := List.map_id lines
    rw [hnil]
    exact ⟨ht, h⟩
  | cons start path ih =>
    -- The first list of the path is the outermost one, so its marker is the last to come.
    obtain ⟨hmeaning, hlines⟩ := ih
    have hcons : lines.map (pathMarkers (start :: path) ++ ·) =
        (lines.map (pathMarkers path ++ ·)).map (listMarker start.isSome :: ·) := by
      rw [List.map_map]
      rfl
    rw [hcons]
    exact ⟨hlines.meaning_inList o hmeaning start, hlines.deeper start.isSome⟩

end

variable {start : Option Nat} {ts : List Tree}

/-- A list that is rendered means the lines that it is rendered as. -/
lemma exists_meaning_list (hts : ∀ t ∈ ts, t.Shaped true) {out : Text}
    (hout : (backend o).render (Tree.node (.list start) ts).events = .ok out) :
    ∃ lines, WrittenLines lines ∧ out = listOfLines lines ∧
      (Tree.node (.list start) ts).meaning (backend o).answer .flow = .ok out := by
  have hevents : Tree.eventsOfList [.node (.list start) ts] =
      (Tree.node (.list start) ts).events := List.append_nil _
  have hshaped : (Tree.node (.list start) ts).Shaped true := .node rfl hts
  rw [← hevents, render_eq_meaningOfList _ (List.forall_mem_singleton.2 hshaped)] at hout
  cases hbody : Tree.meaningOfList (backend o).answer (Tag.list start).place ts with
  | error err =>
    rw [Tree.meaningOfList, Tree.meaning_node _ Place.flow_ne_image rfl, hbody] at hout
    cases hout
  | ok body =>
    have hlist : (Tree.node (.list start) ts).meaning (backend o).answer .flow =
        .ok (list body start.isSome start) :=
      Tree.meaning_node_ok Place.flow_ne_image rfl hbody
    rw [Tree.meaningOfList_singleton_ok hlist] at hout
    obtain rfl := Except.ok.inj hout
    exact ⟨_, writtenLines_list body start.isSome, rfl, hlist⟩

/-- **Lists in lists.** A list that stands alone in an item of a list, and this one in an item of
another, to any depth, is rendered with its own lines, each behind the markers of all those lists
from the outermost to the innermost. -/
theorem render_inLists (hts : ∀ t ∈ ts, t.Shaped true) {out : Text}
    (hout : (backend o).render (Tree.node (.list start) ts).events = .ok out)
    (path : List (Option Nat)) :
    (backend o).render (inLists path (.node (.list start) ts)).events =
      .ok (listOfLines ((Text.pieces '\n' out).map (pathMarkers path ++ ·))) := by
  obtain ⟨lines, hlines, rfl, hmeaning⟩ := exists_meaning_list o hts hout
  rw [hlines.pieces_listOfLines]
  exact render_events_ok (backend o) (inLists_shaped path (.node rfl hts))
    (hlines.meaning_inLists o hmeaning path).1

end

/-- A list whose item holds a rule, a blank line and a text that begins with a marker, in an ordered
list and this one in a bullet list. -/
example : (backend {}).render (inLists [none, some 1] (.node (.list none)
    [.node .item [.leaf .rule, .leaf (.html " \n".toList), .text "#a".toList]])).events =
      .ok "\n*#* ----\n*#*  \n*#*#a\n\n".toList := rfl

end WikiMarkup.Wiki
