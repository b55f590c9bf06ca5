import WikiMarkup.Proofs.Render.Balanced
import WikiMarkup.Proofs.Text.Infix
import WikiMarkup.Proofs.Wiki.MarkedLine
import WikiMarkup.Proofs.Wiki.Row
import WikiMarkup.Wiki.Backend
/-!
# Code inside quotes and lists

A quote or a list gets what it holds as text, and does not know which part of it is code. Quotes
only trim that text, and a code block stands in it untouched, at any depth. A list takes the text
apart into lines and puts its marker before each, so the lines of the code are marked as if they
were items, and its empty lines are lost. `shownIn` says what becomes of a code block in any quotes
and lists around it, and `code_infix_render` that this is what the output holds in one piece: the
block itself if there is no list among them.

The proof follows the constructs around the block from the inside to the outside. The invariant is
that the block, as far as it has been rewritten, is one piece of the output of the construct and is
solid: no white space stands at its ends, so that trimming stops before it.
-/

namespace WikiMarkup.Wiki

open Text (Solid)

/-! ### What a list does to a piece of its body -/

/-- A piece of the body of a list behind the marker of the list. The first line is only the end of a
line of the list, whose marker stands before the piece. The other lines are marked, and those that
are empty are left out. -/
def markPiece (marker : Char) (t : Text) : Text :=
  match t.split '\n' with
  | [] => []
  | first :: rest =>
    Text.join ['\n'] (first :: (rest.filter fun l => !l.isEmpty).map (markLine marker))

lemma markPiece_eq (marker : Char) {t first : Text} {rest : List Text}
    (h : t.split '\n' = first :: rest) :
    markPiece marker t =
      Text.join ['\n'] (first :: (rest.filter fun l => !l.isEmpty).map (markLine marker)) := by
  rw [markPiece, h]

section

variable (marker : Char) {p t : Text} (hp : Solid p)

include hp

/-- A piece is one line, or it has a first line and a last one with other lines between them. -/
lemma lines_of_solid :
    '\n' ∉ p ∨ ∃ c r mid l d, p.split '\n' = (c :: r) :: (mid ++ [l ++ [d]]) ∧
      Text.isSpace c = false ∧ Text.isSpace d = false := by
  obtain ⟨c, r, rest, hhead, hc⟩ := hp.split_head (show Text.isSpace '\n' = true by decide)
  obtain ⟨init, l, d, hlast, hd⟩ := hp.split_last (show Text.isSpace '\n' = true by decide)
  rcases List.eq_nil_or_concat rest with rfl | ⟨mid, last, rfl⟩
  · refine .inl ?_
    have hjoin := Text.join_split '\n' p
    rw [hhead] at hjoin
    have hmem : c :: r ∈ p.split '\n' := by rw [hhead]; exact List.mem_singleton_self _
    rw [← hjoin]
    exact Text.notMem_of_mem_split hmem
  · refine .inr ⟨c, r, mid, l, d, ?_, hc, hd⟩
    rw [List.concat_eq_append] at hhead
    have hconcat : (c :: r) :: mid ++ [last] = init ++ [l ++ [d]] := by
      rw [List.cons_append, ← hhead, hlast]
    obtain ⟨-, hlasts⟩ := List.append_inj' hconcat rfl
    rw [hhead, List.singleton_inj.1 hlasts]

omit hp in
lemma markPiece_line (h : '\n' ∉ p) : markPiece marker p = p := by
  rw [markPiece_eq marker (Text.split_of_notMem h)]
  rfl

omit hp in
lemma markPiece_lines {first last : Text} {mid : List Text}
    (h : p.split '\n' = first :: (mid ++ [last])) (hlast : last ≠ []) :
    markPiece marker p = Text.join ['\n']
      (first :: ((mid.filter fun l => !l.isEmpty).map (markLine marker) ++
        [markLine marker last])) := by
  rw [markPiece_eq marker h, List.filter_append, List.map_append]
  simp [hlast]

/-- A list marks the lines of a piece of its body and keeps them together. -/
lemma markPiece_infix_join (h : p <:+: t) :
    markPiece marker p <:+:
      Text.join ['\n'] ((Text.pieces '\n' t).map (markLine marker)) := by
  obtain ⟨x, y, rfl⟩ := h
  obtain ⟨xs, a, hx⟩ := Text.exists_split_eq_concat '\n' x
  obtain ⟨b, ys, hy⟩ := Text.exists_split_eq_cons '\n' y
  rcases lines_of_solid hp with hline | ⟨c, r, mid, l, d, hlines, hc, hd⟩
  · -- The piece lies within one line.
    have hsplit : Text.split '\n' (x ++ p ++ y) = xs ++ (a ++ p ++ b) :: ys :=
      Text.split_append_text (Text.split_append_text hx (Text.split_of_notMem hline)) hy
    have hne : a ++ p ++ b ≠ [] := by
      obtain ⟨c, r, rfl, -⟩ := hp.head
      simp
    obtain ⟨u, hu⟩ := exists_markLine_eq marker (a ++ p ++ b)
    have hwithin : p <:+: markLine marker (a ++ p ++ b) :=
      ⟨u ++ a, b, by rw [hu]; simp only [List.append_assoc]⟩
    rw [markPiece_line marker hline, Text.pieces, hsplit, List.filter_append,
      List.filter_cons_of_pos (by simpa using hne), List.map_append, List.map_cons]
    exact hwithin.trans (Text.infix_join_append ['\n'] _ [_] _)
  · -- The first line of the piece ends a line and its last line begins one.
    have hstart : Text.split '\n' (x ++ p) = xs ++ (a ++ c :: r) :: mid ++ [l ++ [d]] := by
      rw [Text.split_append_text hx hlines]
      simp
    have hsplit : Text.split '\n' (x ++ p ++ y) =
        xs ++ ((a ++ c :: r) :: (mid ++ [l ++ [d] ++ b]) ++ ys) := by
      rw [Text.split_append_text hstart hy]
      simp
    have hpieces : Text.pieces '\n' (x ++ p ++ y) = (xs.filter fun l => !l.isEmpty) ++
        ((a ++ c :: r) :: ((mid.filter fun l => !l.isEmpty) ++ [l ++ [d] ++ b]) ++
          ys.filter fun l => !l.isEmpty) := by
      rw [Text.pieces, hsplit]
      simp
    obtain ⟨u, hu⟩ := exists_markLine_eq marker (a ++ c :: r)
    have hlast : l ++ [d] ≠ [] := by simp
    rw [markPiece_lines marker hlines hlast, hpieces, List.map_append, List.map_append,
      List.map_cons, List.map_append, List.map_singleton, hu, markLine_append marker hlast b,
      ← List.append_assoc u a]
    refine List.IsInfix.trans ?_ (Text.infix_join_append ['\n'] _ _ _)
    rw [Text.join_append_ends]
    exact List.infix_append _ _ _

/-- A marked piece is solid again. -/
lemma markPiece_solid : Solid (markPiece marker p) := by
  rcases lines_of_solid hp with hline | ⟨c, r, mid, l, d, hlines, hc, hd⟩
  · rwa [markPiece_line marker hline]
  · obtain ⟨u, hu⟩ := exists_markLine_eq marker (l ++ [d])
    rw [markPiece_lines marker hlines (by simp), hu, ← List.append_assoc]
    refine ⟨⟨c, _, Text.join_append_cons_left ['\n'] [c] r _, hc⟩, ?_⟩
    exact ⟨_, d, Text.join_append_join ['\n'] (u ++ l) [d] (_ :: _) [], hd⟩

end

/-! ### Quotes and lists -/

/-- A construct that hands on what it holds, trimmed or line by line. -/
inductive Container where
  | blockQuote
  | list (start : Option Nat)
  | item
  | unmarked
deriving DecidableEq, Repr

namespace Container

/-- The tag of the construct. -/
def tag : Container → Tag
  | .blockQuote => .blockQuote
  | .list start => .list start
  | .item => .item
  | .unmarked => .unmarked

/-- The open construct. -/
def construct : Container → Construct
  | .blockQuote => .blockQuote
  | .list start => .list start
  | .item => .item
  | .unmarked => .unmarked

/-- What the output of the construct shows of a piece of what it holds. -/
def shows : Container → Text → Text
  | .list start, t => markPiece (listMarker start.isSome) t
  | _, t => t

lemma shows_solid (c : Container) {p : Text} (hp : Solid p) : Solid (c.shows p) := by
  cases c with
  | list start => exact markPiece_solid _ hp
  | _ => exact hp

/-- A piece of what the construct holds is one of its output, as far as the construct shows it. -/
lemma shows_infix (o : Options) (c : Container) {p content : Text} (hp : Solid p)
    (h : p <:+: content) :
    ∃ out, c.tag.meaning (backend o).answer content = .ok out ∧ c.shows p <:+: out := by
  cases c with
  | blockQuote =>
    refine ⟨Wiki.blockQuote content, rfl, (hp.infix_trim h).trans ?_⟩
    exact List.infix_append _ _ _
  | list start =>
    refine ⟨Wiki.list content start.isSome start, rfl, ?_⟩
    have hlines := markPiece_infix_join (listMarker start.isSome) hp (hp.infix_trim h)
    exact hlines.trans (List.infix_append _ _ _)
  | item => exact ⟨listItem content, rfl, h.trans (List.prefix_append _ _).isInfix⟩
  | unmarked => exact ⟨content, rfl, h⟩

lemma start_tag {w : Walk} (hw : w.images = 0) (c : Container) :
    w.start c.tag = w.push c.construct := by
  cases c <;> simp only [tag, Walk.start, Walk.inImage_of_images hw] <;> rfl

end Container

/-- The tree stands among `ts` within the containers of `path`, the outermost one first. -/
inductive StandsIn (tree : Tree) : (path : List Container) → (ts : List Tree) → Prop
  | here {ts : List Tree} (htree : tree ∈ ts) : StandsIn tree [] ts
  | inside {c : Container} {path : List Container} {us ts : List Tree}
      (hus : Tree.node c.tag us ∈ ts) (htree : StandsIn tree path us) :
      StandsIn tree (c :: path) ts

/-- What the containers of `path`, the outermost one first, show of a text. -/
def shownIn (path : List Container) (t : Text) : Text := path.foldr Container.shows t

lemma shownIn_solid (path : List Container) {p : Text} (hp : Solid p) : Solid (shownIn path p) := by
  induction path with
  | nil => exact hp
  | cons c path ih => exact c.shows_solid ih

/-- Without lists a text is shown as it is. -/
lemma shownIn_eq {path : List Container} (h : ∀ start, .list start ∉ path) (t : Text) :
    shownIn path t = t := by
  induction path with
  | nil => rfl
  | cons c path ih =>
    have hrest := ih fun start hmem => h start (List.mem_cons_of_mem _ hmem)
    cases c with
    | list start => exact absurd List.mem_cons_self (h start)
    | _ => exact hrest

section

variable (o : Options) {tree : Tree} {p : Text}

/-- A container adds what it shows of a piece of what it holds. -/
lemma adds_container (c : Container) {us : List Tree} (hp : Solid p)
    (h : ∀ w : Walk, w.place = .flow → w.Adds (backend o) (Tree.eventsOfList us) (p <:+: ·))
    {w : Walk} (hw : w.place = .flow) :
    w.Adds (backend o) (Tree.node c.tag us).events (c.shows p <:+: ·) := by
  intro rest w' hrun
  have hzero := Walk.images_of_place (w := w) (by simp [hw])
  have hplace : (w.push c.construct).place = .flow := by
    cases c <;> exact Walk.place_push hzero rfl (by simp [Container.construct])
  have hadds : ∀ k, w.start c.tag = w.push k →
      (w.push k).Adds (backend o) (Tree.eventsOfList us) (p <:+: ·) := by
    intro k hk
    rw [← hk, c.start_tag hzero]
    exact h _ hplace
  have hpart : c.tag.isTablePart = false := by cases c <;> rfl
  rw [Tree.events] at hrun
  obtain ⟨content, out, s, hcontent, hout, hrest⟩ :=
    Walk.traverse_node_of_flow (by simp [hw]) hpart hadds hrun
  obtain ⟨shown, hshown, hpiece⟩ := c.shows_infix o hp hcontent
  obtain rfl := Except.ok.inj (hshown.symm.trans hout)
  refine ⟨[], shown, s, hpiece, ?_⟩
  rw [← Walk.append_eq_grow]
  exact hrest

/-- A tree among others adds its piece to the output of all of them. -/
lemma adds_of_mem {t : Tree} {ts : List Tree} (ht : t ∈ ts)
    (h : ∀ w : Walk, w.place = .flow → w.Adds (backend o) t.events (p <:+: ·))
    {w : Walk} (hw : w.place = .flow) :
    w.Adds (backend o) (Tree.eventsOfList ts) (p <:+: ·) := by
  obtain ⟨before, after, rfl⟩ := List.append_of_mem ht
  have hplace : ∀ header u s, ((w.grow header u).withTable s).place = .flow := by
    simpa using hw
  have hbefore := Walk.adds_eventsOfList (b := backend o) before w
  have hafter := fun v => Walk.adds_eventsOfList (b := backend o) after v
  have htree := hbefore.append fun header u s =>
    (h _ (hplace header u s)).append fun _ _ _ => hafter _
  rw [Tree.eventsOfList_append, Tree.eventsOfList]
  refine htree.mono ?_
  rintro - ⟨x, -, -, ⟨y, z, hy, -, rfl⟩, rfl⟩
  rw [← List.append_assoc]
  exact hy.trans (List.infix_append x y z)

lemma StandsIn.adds {path : List Container} {ts : List Tree} (h : StandsIn tree path ts)
    (hp : Solid p)
    (htree : ∀ w : Walk, w.place = .flow → w.Adds (backend o) tree.events (p <:+: ·))
    {w : Walk} (hw : w.place = .flow) :
    w.Adds (backend o) (Tree.eventsOfList ts) (shownIn path p <:+: ·) := by
  induction h generalizing w with
  | here hmem => exact adds_of_mem o hmem htree hw
  | @inside c path us ts hus _ ih =>
    exact adds_of_mem o hus (fun v hv => adds_container o c (shownIn_solid path hp)
      (fun v' hv' => ih hv') hv) hw

end

/-! ### Code blocks -/

/-- A code block that only holds text. -/
def codeTree (info : Option Text) (texts : List Text) : Tree :=
  .node (.codeBlock info) (texts.map .text)

/-- The code of a code block, without the newline before the closing fence. -/
def codeOf (texts : List Text) : Text := Text.withoutFinal '\n' texts.flatten

/-- A code block as a macro: its header, its code and its end. -/
def codeMacro (o : Options) (info : Option Text) (texts : List Text) : Text :=
  codeHeader o (codeOf texts) (Language.resolve (info.bind Language.hintOfInfo?)) ++
    "\n".toList ++ codeOf texts ++ "\n\x7bcode\x7d".toList

section

variable (o : Options) (info : Option Text) (texts : List Text)

lemma codeMacro_solid : Solid (codeMacro o info texts) := by
  have hend : "\n\x7bcode\x7d".toList = "\n\x7bcode".toList ++ ['\x7d'] := rfl
  have hlast : ∃ r, codeMacro o info texts = r ++ ['\x7d'] := by
    rw [codeMacro, hend, ← List.append_assoc]
    exact ⟨_, rfl⟩
  obtain ⟨r, hr⟩ := hlast
  exact ⟨⟨'\x7b', _, rfl, by decide⟩, ⟨r, '\x7d', hr, by decide⟩⟩

lemma meaningOfList_texts (ask : Call → Except RenderError Text) :
    Tree.meaningOfList ask .code (texts.map .text) = .ok texts.flatten := by
  induction texts with
  | nil => rfl
  | cons t texts ih => exact Tree.meaningOfList_cons_ok rfl ih

lemma codeTree_shaped : (codeTree info texts).Shaped false := by
  refine .node rfl fun t ht => ?_
  obtain ⟨u, -, rfl⟩ := List.mem_map.1 ht
  exact .leaf _

lemma meaning_codeTree {place : Place} (hplace : place ≠ .image) :
    (codeTree info texts).meaning (backend o).answer place =
      .ok (codeBlock o (codeOf texts) (info.bind Language.hintOfInfo?)) := by
  rw [codeTree, Tree.meaning_node_ok hplace rfl (meaningOfList_texts texts _),
    Tag.meaning_codeBlock]
  rfl

lemma codeBlock_eq_codeMacro :
    codeBlock o (codeOf texts) (info.bind Language.hintOfInfo?) =
      codeMacro o info texts ++ "\n\n".toList := by
  have hend : "\n\x7bcode\x7d\n\n".toList = "\n\x7bcode\x7d".toList ++ "\n\n".toList := rfl
  rw [codeBlock, hend, codeMacro, ← List.append_assoc]

lemma adds_codeTree {w : Walk} (hw : w.place = .flow) :
    w.Adds (backend o) (codeTree info texts).events (codeMacro o info texts <:+: ·) := by
  intro rest w' hrun
  obtain ⟨s, -, hwrites⟩ :=
    (codeTree_shaped info texts).evaluates (backend o).answer .flow w.table
  rw [hwrites w hw rfl rest, meaning_codeTree o info texts Place.flow_ne_image,
    codeBlock_eq_codeMacro] at hrun
  refine ⟨[], _, s, (List.prefix_append _ "\n\n".toList).isInfix, ?_⟩
  rw [← Walk.append_eq_grow]
  exact hrun

/-- What the containers around a code block show of it is one piece of the whole output. -/
lemma StandsIn.infix_render {path : List Container} {ts : List Tree}
    (h : StandsIn (codeTree info texts) path ts) {out : Text}
    (hout : (backend o).render (Tree.eventsOfList ts) = .ok out) :
    shownIn path (codeMacro o info texts) <:+: out := by
  have hadds := h.adds o (codeMacro_solid o info texts)
    (fun _ hw => adds_codeTree o info texts hw) (w := {}) rfl
  rw [render_eq_output] at hout
  cases hrun : Walk.traverse (backend o).answer {} (Tree.eventsOfList ts) with
  | error err =>
    rw [hrun] at hout
    cases hout
  | ok w' =>
    rw [hrun] at hout
    obtain rfl := Except.ok.inj hout
    rw [← List.append_nil (Tree.eventsOfList ts)] at hrun
    obtain ⟨header, t, s, ht, hend⟩ := hadds [] w' hrun
    obtain rfl := Except.ok.inj hend
    exact ht

end

/-- **Code in quotes and lists.** In every document that is rendered, whatever it holds besides, a
code block within quotes, lists, items and constructs without markup is shown in one piece. The
quotes leave it as it is, so without lists among them the output holds its header, its code to the
letter and its end. Each list puts its marker before each line behind the header, and leaves out the
empty ones. -/
theorem code_infix_render (o : Options) {info : Option Text} {texts : List Text}
    {path : List Container} {ts : List Tree} (h : StandsIn (codeTree info texts) path ts)
    {out : Text} (hout : (backend o).render (Tree.eventsOfList ts) = .ok out) :
    shownIn path (codeMacro o info texts) <:+: out ∧
      ((∀ start, .list start ∉ path) → codeMacro o info texts <:+: out) := by
  have hshown := h.infix_render o info texts hout
  refine ⟨hshown, fun hpath => ?_⟩
  rwa [shownIn_eq hpath] at hshown

/-- Code with an empty line and with a line that begins like a line of a list. -/
def shellCode : List Text := ["#a\n\n".toList, "b\n".toList]

/-- The code in a quote, behind a table row that stands outside of any table. -/
def quotedCode : Tree :=
  .node .blockQuote
    [.node .tableRow [.text "|".toList], .node .unmarked [codeTree none shellCode]]

/-- The output for the code in a quote. -/
def quotedCodeOutput : Text :=
  "\x7bquote\x7d||\n".toList ++
    "\x7bcode:collapse=false|language=none|linenumbers=false|theme=Confluence\x7d\n".toList ++
    "#a\n\nb\n\x7bcode\x7d\x7bquote\x7d".toList

theorem code_infix_quotedCode :
    StandsIn (codeTree none shellCode) [.blockQuote, .unmarked] [quotedCode] ∧
      (backend {}).render (Tree.eventsOfList [quotedCode]) = .ok quotedCodeOutput ∧
      codeMacro {} none shellCode <:+: quotedCodeOutput := by
  have hunmarked : StandsIn (codeTree none shellCode) [.unmarked]
      [.node .tableRow [.text "|".toList], .node .unmarked [codeTree none shellCode]] :=
    .inside (List.mem_cons_of_mem _ (List.mem_singleton_self _)) (.here (List.mem_singleton_self _))
  have hin : StandsIn (codeTree none shellCode) [.blockQuote, .unmarked] [quotedCode] :=
    .inside (List.mem_singleton_self _) hunmarked
  have hout : (backend {}).render (Tree.eventsOfList [quotedCode]) = .ok quotedCodeOutput := by rfl
  exact ⟨hin, hout, (code_infix_render {} hin hout).2 (by simp)⟩

/-- The code in an item of a list. -/
def listedCode : Tree := .node (.list none) [.node .item [codeTree none shellCode]]

/-- The output for the code in a list. Its lines have bullets, the first of them looks like one of a
nested list, and the empty line is gone. -/
def listedCodeOutput : Text :=
  "\n* ".toList ++
    "\x7bcode:collapse=false|language=none|linenumbers=false|theme=Confluence\x7d\n".toList ++
    "*#a\n* b\n* \x7bcode\x7d\n\n".toList

/-- In a list the code is not shown to the letter. -/
theorem code_not_infix_listedCode :
    StandsIn (codeTree none shellCode) [.list none, .item] [listedCode] ∧
      (backend {}).render (Tree.eventsOfList [listedCode]) = .ok listedCodeOutput ∧
      ¬codeMacro {} none shellCode <:+: listedCodeOutput := by
  refine ⟨?_, rfl, ?_⟩
  · exact .inside (List.mem_singleton_self _) (.inside (List.mem_singleton_self _)
      (.here (List.mem_singleton_self _)))
  · rw [← contains_iff]
    decide

end WikiMarkup.Wiki
