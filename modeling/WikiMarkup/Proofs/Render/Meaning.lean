import Mathlib.Tactic.Common
import WikiMarkup.Proofs.Document.Shape
import WikiMarkup.Proofs.Text.Words
import WikiMarkup.Render
/-!
# The meaning of a document

A document means what its parts mean: the children of a construct are rendered from left to right,
their output is put together, and then the backend is asked once for the construct itself. The
definitions below say this by recursion on the trees of a document. They need no record of what is
open, since a tree says by itself where its parts stand.

The meaning is given in any monad in which questions can be put. With `Except` it is the rendered
document or the first error, and with a record of the questions it also says what was asked.
-/

namespace WikiMarkup

/-- Where a part of a document stands, as far as its own meaning depends on it. -/
inductive Place where
  /-- Neither directly in a code block nor anywhere in an image. -/
  | flow
  /-- Directly in a code block. -/
  | code
  /-- In an image, at any depth. -/
  | image
deriving DecidableEq, Repr

/-- The place of the children of a construct that does not itself stand in an image. -/
def Tag.place : Tag → Place
  | .codeBlock _ => .code
  | .image _ _ => .image
  | _ => .flow

/-- An induction over the trees whose tables have their shape and over the places where they stand.
In an image anything may stand. Elsewhere a construct is a table in its shape or no part of one, and
the cells of a table hold no tables. -/
@[elab_as_elim]
theorem Tree.Shaped.inductionOnPlace {motive : Bool → Place → Tree → Prop}
    (leaf : ∀ tables place l, motive tables place (.leaf l))
    (image : ∀ tables tag ts, (∀ t ∈ ts, motive tables .image t) →
      motive tables .image (.node tag ts))
    (node : ∀ tables place tag ts, place ≠ .image → tag.isTablePart = false →
      (∀ t ∈ ts, motive tables tag.place t) → motive tables place (.node tag ts))
    (table : ∀ place alignments header rows, place ≠ .image →
      (∀ cell ∈ header, ∀ t ∈ cell, motive false .flow t) →
      (∀ cells ∈ rows, ∀ cell ∈ cells, ∀ t ∈ cell, motive false .flow t) →
      motive true place (Tree.table alignments header rows))
    {tables : Bool} {t : Tree} (h : t.Shaped tables) (place : Place) : motive tables place t := by
  have himage : ∀ tables t, motive tables .image t := by
    intro tables t
    induction t using Tree.inductionOnChildren with
    | leaf l => exact leaf tables .image l
    | node tag ts ih => exact image tables tag ts ih
  induction h generalizing place with
  | leaf l => exact leaf _ place l
  | @image tables href title ts =>
    by_cases hplace : place = .image
    · rw [hplace]
      exact himage tables _
    · exact node tables place _ ts hplace rfl fun t _ => himage tables t
  | @node tables tag ts htag _ ih =>
    by_cases hplace : place = .image
    · rw [hplace]
      exact himage tables _
    · exact node tables place tag ts hplace htag fun t ht => ih t ht tag.place
  | @table alignments header rows _ _ hheader hrows =>
    by_cases hplace : place = .image
    · rw [hplace]
      exact himage true _
    · exact table place alignments header rows hplace
        (fun cell hcell t ht => hheader cell hcell t ht .flow)
        fun cells hcells cell hcell t ht => hrows cells hcells cell hcell t ht .flow

/-- The code of a code block, without one newline at its end if there is one. -/
def codeOfContent (content : Text) : Text :=
  match content.reverse with
  | '\n' :: r => r.reverse
  | _ => content

/-- The question for a construct with a given content. Constructs without markup have none, and
neither have the parts of a table, which only a table asks for. An empty title counts as none, and
of an info string the first word between white space. -/
def Tag.call? (content : Text) : Tag → Option Call
  | .paragraph => some (.paragraph content)
  | .heading level => some (.heading content level)
  | .blockQuote => some (.blockQuote content)
  | .codeBlock info =>
    some (.codeBlock (codeOfContent content)
      (info.bind fun t => (t.splitOnP Text.isSpace).find? (· ≠ [])))
  | .list start => some (.list content start.isSome start)
  | .item => some (.listItem content)
  | .emphasis => some (.emphasis content)
  | .strong => some (.strong content)
  | .strikethrough => some (.strikethrough content)
  | .link href title => some (.link href (if title = [] then none else some title) content)
  | .image href title => some (.image href (if title = [] then none else some title) content)
  | .table _ | .tableHead | .tableRow | .tableCell | .unmarked => none

lemma codeOfContent_eq (content : Text) : codeOfContent content = content.withoutFinal '\n' := by
  have hlast : content.getLast? = content.reverse.head? := List.head?_reverse.symm
  rw [codeOfContent, Text.withoutFinal, hlast]
  split
  · rename_i r hreverse
    have hcontent : content = r.reverse ++ ['\n'] := by
      rw [← List.reverse_reverse content, hreverse, List.reverse_cons]
    rw [hreverse, List.head?_cons, if_pos rfl, hcontent, List.dropLast_concat]
  · rename_i hno
    rw [if_neg]
    intro hhead
    obtain ⟨r, hr⟩ := List.head?_eq_some_iff.1 hhead
    exact hno r hr

lemma ite_eq_nonempty? (title : Text) :
    (if title = [] then none else some title) = nonempty? title := by
  cases title <;> rfl

/-- A code block is asked for as the walk does it. -/
lemma Tag.call?_codeBlock (content : Text) (info : Option Text) :
    Tag.call? content (.codeBlock info) =
      some (.codeBlock (content.withoutFinal '\n') (info.bind Language.hintOfInfo?)) := by
  have hhint : ∀ t : Text, (t.splitOnP Text.isSpace).find? (· ≠ []) = Language.hintOfInfo? t :=
    Text.find?_splitOnP_isSpace
  rw [Tag.call?, codeOfContent_eq]
  simp only [hhint]

lemma Tag.call?_link (content href title : Text) :
    Tag.call? content (.link href title) = some (.link href (nonempty? title) content) := by
  rw [Tag.call?, ite_eq_nonempty?]

lemma Tag.call?_image (content href title : Text) :
    Tag.call? content (.image href title) = some (.image href (nonempty? title) content) := by
  rw [Tag.call?, ite_eq_nonempty?]

section

variable {m : Type → Type} [Monad m] (ask : Call → m Text)

/-- A construct with a given content. -/
def Tag.meaning (tag : Tag) (content : Text) : m Text :=
  match tag.call? content with
  | some c => ask c
  | none => pure content

lemma Tag.meaning_codeBlock (content : Text) (info : Option Text) :
    (Tag.codeBlock info).meaning ask content =
      ask (.codeBlock (content.withoutFinal '\n') (info.bind Language.hintOfInfo?)) := by
  rw [Tag.meaning, Tag.call?_codeBlock]

lemma Tag.meaning_link (content href title : Text) :
    (Tag.link href title).meaning ask content = ask (.link href (nonempty? title) content) := by
  rw [Tag.meaning, Tag.call?_link]

lemma Tag.meaning_image (content href title : Text) :
    (Tag.image href title).meaning ask content = ask (.image href (nonempty? title) content) := by
  rw [Tag.meaning, Tag.call?_image]

/-- A part that holds nothing else. Text in a code block or an image and code in an image are taken
as they stand. -/
def Leaf.meaning (place : Place) : Leaf → m Text
  | .text t => if place = .flow then ask (.text t) else pure t
  | .code t => if place = .image then pure t else ask (.codeSpan t)
  | .html t => ask (.html t)
  | .inlineHtml t => ask (.inlineHtml t)
  | .softBreak => ask .softBreak
  | .hardBreak => ask .lineBreak
  | .rule => ask .horizontalRule
  | .taskMarker checked => ask (.checkbox checked)
  | .unsupported => pure []

mutual

/-- A tree. In an image only what it holds counts. -/
def Tree.meaning : Place → Tree → m Text
  | place, .leaf l => l.meaning ask place
  | .image, .node _ ts => Tree.meaningOfList .image ts
  | _, .node (.table alignments) ts => Tree.meaningOfTable alignments ts
  | _, .node tag ts => do
    let content ← Tree.meaningOfList tag.place ts
    tag.meaning ask content

/-- Several trees, one after the other. -/
def Tree.meaningOfList : Place → List Tree → m Text
  | _, [] => pure []
  | place, t :: ts => do
    let first ← Tree.meaning place t
    let rest ← Tree.meaningOfList place ts
    pure (first ++ rest)

/-- A table: its header row, then its body rows, then the table itself. -/
def Tree.meaningOfTable (alignments : List Alignment) : List Tree → m Text
  | .node .tableHead cells :: rows => do
    let cells ← Tree.meaningOfCells true alignments 0 cells
    let header ← ask (.tableRow cells)
    let body ← Tree.meaningOfRows alignments rows
    ask (.table header body)
  | _ => ask (.table [] [])

/-- The body rows of a table. -/
def Tree.meaningOfRows (alignments : List Alignment) : List Tree → m Text
  | .node .tableRow cells :: rows => do
    let cells ← Tree.meaningOfCells false alignments 0 cells
    let row ← ask (.tableRow cells)
    let rest ← Tree.meaningOfRows alignments rows
    pure (row ++ rest)
  | _ => pure []

/-- The cells of a row from a column on. A column past the last alignment has none. -/
def Tree.meaningOfCells (header : Bool) (alignments : List Alignment) :
    Nat → List Tree → m Text
  | column, .node .tableCell ts :: cells => do
    let content ← Tree.meaningOfList .flow ts
    let cell ← ask (.tableCell content header ((alignments[column]?).getD .unspecified))
    let rest ← Tree.meaningOfCells header alignments (column + 1) cells
    pure (cell ++ rest)
  | _, _ => pure []

end

/-- Outside images a construct that is no part of a table is asked for with what it holds. -/
lemma Tree.meaning_node {place : Place} (hplace : place ≠ .image) {tag : Tag}
    (htag : tag.isTablePart = false) (ts : List Tree) :
    (Tree.node tag ts).meaning ask place =
      Tree.meaningOfList ask tag.place ts >>= fun content => tag.meaning ask content := by
  cases place with
  | image => exact absurd rfl hplace
  | _ => cases tag <;> first | rfl | simp [Tag.isTablePart] at htag

/-- Outside images a table in its shape is asked for with its header row and its body rows. -/
lemma Tree.meaning_table {place : Place} (hplace : place ≠ .image) (alignments : List Alignment)
    (header : List (List Tree)) (rows : List (List (List Tree))) :
    (Tree.table alignments header rows).meaning ask place =
      Tree.meaningOfCells ask true alignments 0 (header.map (.node .tableCell)) >>= fun cells =>
        ask (.tableRow cells) >>= fun row =>
          Tree.meaningOfRows ask alignments (rows.map (Tree.row .tableRow)) >>= fun body =>
            ask (.table row body) := by
  cases place with
  | image => exact absurd rfl hplace
  | _ => rfl

end

/-! ### Documents without errors -/

section

variable {ask : Call → Except RenderError Text} {place : Place} {x y : Text}

lemma Tree.meaningOfList_cons_ok {t : Tree} {ts : List Tree} (h : t.meaning ask place = .ok x)
    (hts : Tree.meaningOfList ask place ts = .ok y) :
    Tree.meaningOfList ask place (t :: ts) = .ok (x ++ y) := by
  rw [Tree.meaningOfList, h, hts]
  rfl

lemma Tree.meaningOfList_singleton_ok {t : Tree} (h : t.meaning ask place = .ok x) :
    Tree.meaningOfList ask place [t] = .ok x := by
  rw [Tree.meaningOfList_cons_ok h rfl, List.append_nil]

lemma Tree.meaningOfList_append_ok {ts us : List Tree}
    (hts : Tree.meaningOfList ask place ts = .ok x)
    (hus : Tree.meaningOfList ask place us = .ok y) :
    Tree.meaningOfList ask place (ts ++ us) = .ok (x ++ y) := by
  induction ts generalizing x with
  | nil =>
    cases hts
    exact hus
  | cons t ts ih =>
    rw [Tree.meaningOfList] at hts
    cases ht : t.meaning ask place with
    | error err =>
      rw [ht] at hts
      cases hts
    | ok x₁ =>
      cases hrest : Tree.meaningOfList ask place ts with
      | error err =>
        rw [ht, hrest] at hts
        cases hts
      | ok x₂ =>
        rw [ht, hrest] at hts
        cases hts
        rw [List.append_assoc]
        exact Tree.meaningOfList_cons_ok ht (ih hrest)

lemma Tree.meaning_node_ok (hplace : place ≠ .image) {tag : Tag}
    (htag : tag.isTablePart = false) {ts : List Tree}
    (h : Tree.meaningOfList ask tag.place ts = .ok x) :
    (Tree.node tag ts).meaning ask place = tag.meaning ask x := by
  rw [Tree.meaning_node ask hplace htag, h]
  rfl

lemma Tree.exists_meaningOfList_ok {ts : List Tree}
    (h : ∀ t ∈ ts, ∃ x, t.meaning ask place = .ok x) :
    ∃ x, Tree.meaningOfList ask place ts = .ok x := by
  induction ts with
  | nil => exact ⟨[], rfl⟩
  | cons t ts ih =>
    obtain ⟨x, hx⟩ := h t (by simp)
    obtain ⟨y, hy⟩ := ih fun u hu => h u (by simp [hu])
    exact ⟨x ++ y, Tree.meaningOfList_cons_ok hx hy⟩

end

/-! Only for the row of a table can there be an error. -/

section

variable {ask : Call → Except RenderError Text}
  (hask : ∀ c, (∀ row, c ≠ .tableRow row) → ∃ x, ask c = .ok x)

include hask

lemma Leaf.exists_meaning_ok (place : Place) (l : Leaf) : ∃ x, l.meaning ask place = .ok x := by
  have htext : ∀ t : Text, ∃ x, (pure t : Except RenderError Text) = .ok x := fun t => ⟨t, rfl⟩
  cases l with
  | text t =>
    rw [Leaf.meaning]
    split
    · exact hask _ (by simp)
    · exact htext t
  | code t =>
    rw [Leaf.meaning]
    split
    · exact htext t
    · exact hask _ (by simp)
  | unsupported => exact htext []
  | _ => exact hask _ (by simp)

lemma Tag.exists_meaning_ok (tag : Tag) (content : Text) :
    ∃ x, tag.meaning ask content = .ok x := by
  rw [Tag.meaning]
  split
  · rename_i c hc
    refine hask c ?_
    rintro row rfl
    cases tag <;> cases hc
  · exact ⟨content, rfl⟩

/-- A tree without tables means something. -/
lemma Tree.Shaped.exists_meaning_ok {t : Tree} (h : t.Shaped false) (place : Place) :
    ∃ x, t.meaning ask place = .ok x := by
  refine Tree.Shaped.inductionOnPlace
    (motive := fun tables place t => tables = false → ∃ x, t.meaning ask place = .ok x)
    ?leaf ?image ?node ?table h place rfl
  case leaf =>
    intro tables place l _
    rw [Tree.meaning]
    exact l.exists_meaning_ok hask place
  case image =>
    intro tables tag ts ih hno
    exact Tree.exists_meaningOfList_ok fun t ht => ih t ht hno
  case node =>
    intro tables place tag ts hplace htag ih hno
    obtain ⟨x, hx⟩ := Tree.exists_meaningOfList_ok fun t ht => ih t ht hno
    rw [Tree.meaning_node_ok hplace htag hx]
    exact tag.exists_meaning_ok hask x
  case table =>
    intro place alignments header rows _ _ _ hno
    cases hno

end

end WikiMarkup
