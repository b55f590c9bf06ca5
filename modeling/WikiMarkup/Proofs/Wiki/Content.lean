import WikiMarkup.Proofs.Render.Evaluation
import WikiMarkup.Proofs.Text.Ink
import WikiMarkup.Proofs.Text.Pieces
/-!
# The content of a document reaches the output

The content of a document is its text, its code and its HTML blocks, in the order of the events.
The wiki backend trims, takes lists apart into lines, replaces line ends and leaves out blank
attributes, but it neither drops nor reorders any content: up to white space, the content is a
subsequence of the output (`content_sublist_render`).

A backend keeps content if each of its answers does (`Backend.KeepsContent`). What the whole
document keeps follows from this for every backend, by the recursion that gives a document its
meaning.
-/

namespace WikiMarkup

/-- The content that an event carries. -/
def Event.content : Event → Text
  | .leaf (.text t) => t
  | .leaf (.code t) => t
  | .leaf (.html t) => t
  | _ => []

/-- The content of a sequence of events. -/
def contentOf (es : List Event) : Text := es.flatMap Event.content

lemma contentOf_append (es es' : List Event) :
    contentOf (es ++ es') = contentOf es ++ contentOf es' :=
  List.flatMap_append

lemma contentOf_singleton (e : Event) : contentOf [e] = e.content :=
  List.append_nil _

lemma contentOf_node (tag : Tag) (ts : List Tree) :
    contentOf (Tree.node tag ts).events = contentOf (Tree.eventsOfList ts) := by
  rw [Tree.events, contentOf, List.flatMap_cons, List.flatMap_append]
  exact List.append_nil _

/-- What a question hands over for the output. -/
def Call.content : Call → Text
  | .paragraph t | .heading t _ | .strong t | .emphasis t | .strikethrough t | .codeSpan t
  | .blockQuote t | .link _ _ t | .list t _ _ | .listItem t | .image _ _ t | .tableRow t
  | .tableCell t _ _ | .codeBlock t _ | .text t | .html t => t
  | .table header body => header ++ body
  | .lineBreak | .horizontalRule | .checkbox _ | .softBreak | .inlineHtml _ => []

/-- The backend never loses what it is handed: the ink of the content is a subsequence of the ink of
the answer. -/
def Backend.KeepsContent (b : Backend) : Prop :=
  ∀ (c : Call) (out : Text), b.answer c = .ok out → c.content.ink.Sublist out.ink

/-! ### Any backend that keeps content -/

/-- If `x` gives an output, the ink of `t` is a subsequence of its ink. -/
def Keeps (t : Text) (x : Except RenderError Text) : Prop :=
  ∀ out, x = .ok out → t.ink.Sublist out.ink

namespace Keeps

lemma nil (x : Except RenderError Text) : Keeps [] x := by
  intro out _
  exact List.nil_sublist _

lemma pure (t : Text) : Keeps t (.ok t) := by
  rintro out ⟨⟩
  exact List.Sublist.refl _

lemma bind {t : Text} {x : Except RenderError Text} {f : Text → Except RenderError Text}
    (hx : Keeps t x) (hf : ∀ s, Keeps s (f s)) : Keeps t (x >>= f) := by
  intro out hout
  cases x with
  | error err => cases hout
  | ok s => exact (hx s rfl).trans (hf s out hout)

lemma bind₂ {t t' : Text} {x x' : Except RenderError Text}
    {f : Text → Text → Except RenderError Text} (hx : Keeps t x) (hx' : Keeps t' x')
    (hf : ∀ s s', Keeps (s ++ s') (f s s')) :
    Keeps (t ++ t') (x >>= fun s => x' >>= fun s' => f s s') := by
  intro out hout
  cases x with
  | error err => cases hout
  | ok s =>
    cases x' with
    | error err => cases hout
    | ok s' =>
      have happend : (t ++ t').ink.Sublist (s ++ s').ink := by
        rw [Text.ink_append, Text.ink_append]
        exact (hx s rfl).append (hx' s' rfl)
      exact happend.trans (hf s s' out hout)

lemma append {t t' : Text} {x x' : Except RenderError Text} (hx : Keeps t x) (hx' : Keeps t' x') :
    Keeps (t ++ t') (x >>= fun s => x' >>= fun s' => .ok (s ++ s')) :=
  hx.bind₂ hx' fun s s' => pure (s ++ s')

lemma list {b : Backend} {place : Place} {ts : List Tree}
    (h : ∀ t ∈ ts, Keeps (contentOf t.events) (t.meaning b.answer place)) :
    Keeps (contentOf (Tree.eventsOfList ts)) (Tree.meaningOfList b.answer place ts) := by
  induction ts with
  | nil => exact Keeps.pure []
  | cons t ts ih =>
    rw [Tree.eventsOfList, contentOf_append, Tree.meaningOfList]
    exact (h t (by simp)).append (ih fun u hu => h u (by simp [hu]))

end Keeps

/-- The question for a construct hands over all of its content. -/
lemma Tag.ink_content {tag : Tag} {content : Text} {c : Call} (h : tag.call? content = some c) :
    c.content.ink = content.ink := by
  cases tag with
  | codeBlock info =>
    rw [Tag.call?_codeBlock] at h
    obtain rfl := Option.some.inj h
    exact Text.ink_withoutFinal (by decide) content
  | table | tableHead | tableRow | tableCell | unmarked => cases h
  | _ =>
    obtain rfl := Option.some.inj h
    rfl

namespace Backend.KeepsContent

variable {b : Backend} (hb : b.KeepsContent)

include hb

lemma leaf (place : Place) (l : Leaf) :
    Keeps (contentOf [.leaf l]) (l.meaning b.answer place) := by
  rw [contentOf_singleton]
  cases l with
  | text t =>
    rw [Leaf.meaning]
    split
    · exact hb (.text t)
    · exact Keeps.pure t
  | code t =>
    rw [Leaf.meaning]
    split
    · exact Keeps.pure t
    · exact hb (.codeSpan t)
  | html t => exact hb (.html t)
  | _ => exact Keeps.nil _

lemma tag (tag : Tag) (content : Text) : Keeps content (tag.meaning b.answer content) := by
  rw [Tag.meaning]
  split
  · rename_i c hc
    intro out hout
    have hcontent := hb c out hout
    rwa [Tag.ink_content hc] at hcontent
  · exact Keeps.pure content

lemma cells (header : Bool) (alignments : List Alignment) {cells : List (List Tree)}
    (h : ∀ cell ∈ cells, Keeps (contentOf (Tree.eventsOfList cell))
      (Tree.meaningOfList b.answer .flow cell)) (column : Nat) :
    Keeps (contentOf (Tree.eventsOfList (cells.map (.node .tableCell))))
      (Tree.meaningOfCells b.answer header alignments column (cells.map (.node .tableCell))) := by
  induction cells generalizing column with
  | nil => exact Keeps.pure []
  | cons cell cells ih =>
    rw [List.map_cons, Tree.eventsOfList, contentOf_append, contentOf_node, Tree.meaningOfCells]
    have hcell := (h cell (by simp)).bind fun content =>
      hb (.tableCell content header ((alignments[column]?).getD .unspecified))
    have happend := hcell.append (ih (fun c hc => h c (by simp [hc])) (column + 1))
    rwa [bind_assoc] at happend

lemma rows (alignments : List Alignment) {rows : List (List (List Tree))}
    (h : ∀ cells ∈ rows, ∀ cell ∈ cells, Keeps (contentOf (Tree.eventsOfList cell))
      (Tree.meaningOfList b.answer .flow cell)) :
    Keeps (contentOf (Tree.eventsOfList (rows.map (Tree.row .tableRow))))
      (Tree.meaningOfRows b.answer alignments (rows.map (Tree.row .tableRow))) := by
  induction rows with
  | nil => exact Keeps.pure []
  | cons cells rows ih =>
    rw [List.map_cons, Tree.eventsOfList, contentOf_append, Tree.row, contentOf_node,
      Tree.meaningOfRows]
    have hrow := (hb.cells false alignments (h cells (by simp)) 0).bind fun content =>
      hb (.tableRow content)
    have happend := hrow.append (ih fun c hc => h c (by simp [hc]))
    rwa [bind_assoc] at happend

lemma table {place : Place} (hplace : place ≠ .image) (alignments : List Alignment)
    {header : List (List Tree)} {rows : List (List (List Tree))}
    (hheader : ∀ cell ∈ header, Keeps (contentOf (Tree.eventsOfList cell))
      (Tree.meaningOfList b.answer .flow cell))
    (hrows : ∀ cells ∈ rows, ∀ cell ∈ cells, Keeps (contentOf (Tree.eventsOfList cell))
      (Tree.meaningOfList b.answer .flow cell)) :
    Keeps (contentOf (Tree.table alignments header rows).events)
      ((Tree.table alignments header rows).meaning b.answer place) := by
  rw [Tree.meaning_table b.answer hplace, Tree.table, contentOf_node, Tree.eventsOfList,
    contentOf_append, Tree.row, contentOf_node]
  have hrow := (hb.cells true alignments hheader 0).bind fun content =>
    hb (.tableRow content)
  have htable := hrow.bind₂ (hb.rows alignments hrows) fun row body => hb (.table row body)
  rwa [bind_assoc] at htable

lemma tree {tables : Bool} {t : Tree} (h : t.Shaped tables) (place : Place) :
    Keeps (contentOf t.events) (t.meaning b.answer place) := by
  refine Tree.Shaped.inductionOnPlace
    (motive := fun _ place t => Keeps (contentOf t.events) (t.meaning b.answer place))
    ?leaf ?image ?node ?table h place
  case leaf =>
    intro tables place l
    rw [Tree.events, Tree.meaning]
    exact hb.leaf place l
  case image =>
    intro tables tag ts ih
    rw [contentOf_node, Tree.meaning]
    exact Keeps.list ih
  case node =>
    intro tables place tag ts hplace htag ih
    rw [contentOf_node, Tree.meaning_node b.answer hplace htag]
    exact (Keeps.list ih).bind (hb.tag tag)
  case table =>
    intro place alignments header rows hplace hheader hrows
    refine hb.table hplace alignments (fun cell hcell => ?_) fun cells hcells cell hcell => ?_
    · exact Keeps.list (hheader cell hcell)
    · exact Keeps.list (hrows cells hcells cell hcell)

end Backend.KeepsContent

/-! ### The wiki backend -/

namespace Wiki

lemma ink_sublist_paragraph (newlines : NewlineReplacement) (t : Text) :
    t.ink.Sublist (paragraph newlines t).ink := by
  rw [paragraph]
  split
  · rw [Text.ink_append]
    exact (Text.ink_sublist_replaceNewlines t _).trans (List.sublist_append_left _ _)
  · rw [Text.ink_append]
    exact List.sublist_append_left _ _

lemma ink_sublist_link (href : Text) (title : Option Text) (t : Text) :
    t.ink.Sublist (link href title t).ink := by
  cases t with
  | nil => exact List.nil_sublist _
  | cons c t =>
    have hlink : link href title (c :: t) =
        "[".toList ++ (c :: t) ++ ("|".toList ++ href ++ "]".toList) := by
      simp [link]
    rw [hlink]
    exact Text.ink_sublist_infix _ _ _

lemma ink_sublist_image (href : Text) (title : Option Text) (alt : Text) :
    alt.ink.Sublist (image href title alt).ink := by
  by_cases hblank : alt.isBlank = true
  · rw [Text.ink_eq_nil_of_isBlank hblank]
    exact List.nil_sublist _
  · rw [image, imageParameters_eq, imageParameter, if_neg hblank, List.singleton_append]
    refine (Text.ink_sublist_ink ?_).trans (Text.ink_sublist_infix _ _ _)
    rw [joinParameters, List.map_cons]
    exact ((List.suffix_append _ alt).isInfix.trans
      (Text.prefix_join_cons _ _ _).isInfix).sublist

/-- Every line of a list keeps its characters behind the markers. -/
lemma ink_sublist_markLine (marker : Char) (line : Text) :
    line.ink.Sublist (markLine marker line).ink := by
  refine Text.ink_sublist_ink ?_
  rw [markLine]
  split
  · exact List.sublist_cons_self _ _
  · exact (List.sublist_cons_self _ _).trans (List.sublist_cons_self _ _)

lemma ink_sublist_list (body : Text) (ordered : Bool) (start : Option Nat) :
    body.ink.Sublist (list body ordered start).ink := by
  have hlines : (listLines body).flatMap Text.ink = body.ink := by
    rw [listLines, Text.flatMap_ink_filter, Text.flatMap_ink_split (by decide), Text.ink_trim]
  have hmarked : ∀ ls : List Text, (ls.flatMap Text.ink).Sublist
      ((ls.map (markLine (listMarker ordered))).flatMap Text.ink) := by
    intro ls
    induction ls with
    | nil => exact List.Sublist.refl _
    | cons l ls ih => exact (ink_sublist_markLine _ l).append ih
  rw [list]
  refine List.Sublist.trans ?_ (Text.ink_sublist_infix _ _ _)
  rw [Text.ink_join (by decide), ← hlines]
  exact hmarked _

lemma ink_sublist_tableRow {cells out : Text} (h : tableRow cells = .ok out) :
    cells.ink.Sublist out.ink := by
  rw [tableRow] at h
  split at h
  · obtain rfl := Except.ok.inj h
    rw [List.append_assoc]
    exact Text.ink_sublist_ink (List.sublist_append_left _ _)
  · cases h

lemma ink_sublist_tableCell (t : Text) (header : Bool) (alignment : Alignment) :
    t.ink.Sublist (tableCell t header alignment).ink := by
  cases t with
  | nil => exact List.nil_sublist _
  | cons c t => exact Text.ink_sublist_ink (List.sublist_append_right _ _)

/-- No construct of the wiki loses what it is handed. -/
theorem backend_keepsContent (o : Options) : (backend o).KeepsContent := by
  intro c out hout
  cases c with
  | tableRow t => exact ink_sublist_tableRow hout
  | paragraph t => exact Except.ok.inj hout ▸ ink_sublist_paragraph o.newlines t
  | link href title t => exact Except.ok.inj hout ▸ ink_sublist_link href title t
  | image href title alt => exact Except.ok.inj hout ▸ ink_sublist_image href title alt
  | list body ordered start => exact Except.ok.inj hout ▸ ink_sublist_list body ordered start
  | tableCell t header alignment =>
    exact Except.ok.inj hout ▸ ink_sublist_tableCell t header alignment
  | listItem body =>
    exact Except.ok.inj hout ▸ Text.ink_sublist_ink (List.sublist_append_left _ _)
  | blockQuote t =>
    rw [Call.content, ← Text.ink_trim]
    exact Except.ok.inj hout ▸ Text.ink_sublist_infix _ _ _
  | table header body =>
    rw [Call.content, ← Text.ink_trim]
    exact Except.ok.inj hout ▸ Text.ink_sublist_infix _ _ _
  | heading | strong | emphasis | strikethrough | codeSpan | codeBlock =>
    exact Except.ok.inj hout ▸ Text.ink_sublist_infix _ _ _
  | text | html => exact Except.ok.inj hout ▸ List.Sublist.refl _
  | lineBreak | horizontalRule | checkbox | softBreak | inlineHtml => exact List.nil_sublist _

end Wiki

/-- **No content is lost or reordered.** Up to white space, the content of a document whose tables
have their shape is a subsequence of what the wiki backend renders it as. -/
theorem content_sublist_render (o : Options) {ts : List Tree} (h : ∀ t ∈ ts, t.Shaped true)
    {out : Text} (hout : (Wiki.backend o).render (Tree.eventsOfList ts) = .ok out) :
    (contentOf (Tree.eventsOfList ts)).ink.Sublist out.ink := by
  have hkeeps : Keeps (contentOf (Tree.eventsOfList ts))
      (Tree.meaningOfList (Wiki.backend o).answer .flow ts) :=
    Keeps.list fun t ht => (Wiki.backend_keepsContent o).tree (h t ht) .flow
  refine hkeeps out ?_
  rw [← render_eq_meaningOfList (Wiki.backend o) h]
  exact hout

/-- A list item with a paragraph over two lines and a quote. -/
def itemWithQuote : Tree :=
  .node (.list none) [.node .item
    [.node .paragraph [.text "a ".toList, .leaf .softBreak, .leaf (.code "b".toList)],
      .node .blockQuote [.text "\nc ".toList]]]

lemma itemWithQuote_shaped : itemWithQuote.Shaped true := by
  refine .node rfl (List.forall_mem_singleton.2 (.node rfl ?_))
  refine List.forall_mem_cons.2 ⟨.node rfl ?_, List.forall_mem_singleton.2 (.node rfl ?_)⟩
  · simp [Tree.text, Tree.Shaped.leaf]
  · exact List.forall_mem_singleton.2 (.leaf _)

theorem content_sublist_itemWithQuote :
    (∀ t ∈ [itemWithQuote], t.Shaped true) ∧
      (Wiki.backend { newlines := .space }).render (Tree.eventsOfList [itemWithQuote]) =
        .ok "\n* a  \x7b\x7bb\x7d\x7d\n* \x7bquote\x7dc\x7bquote\x7d\n\n".toList ∧
      (Text.ink (contentOf (Tree.eventsOfList [itemWithQuote]))).Sublist
        (Text.ink "\n* a  \x7b\x7bb\x7d\x7d\n* \x7bquote\x7dc\x7bquote\x7d\n\n".toList) := by
  have hshaped : ∀ t ∈ [itemWithQuote], t.Shaped true :=
    List.forall_mem_singleton.2 itemWithQuote_shaped
  have hout : (Wiki.backend { newlines := .space }).render (Tree.eventsOfList [itemWithQuote]) =
      .ok "\n* a  \x7b\x7bb\x7d\x7d\n* \x7bquote\x7dc\x7bquote\x7d\n\n".toList := by
    rfl
  exact ⟨hshaped, hout, content_sublist_render _ hshaped hout⟩

end WikiMarkup
