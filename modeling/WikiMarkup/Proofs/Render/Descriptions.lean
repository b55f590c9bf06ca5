import WikiMarkup.Proofs.Render.Evaluation
import WikiMarkup.Proofs.Render.OpenTags
import WikiMarkup.Wiki.Backend
/-!
# Descriptions of images

The description of an image is plain. No tag inside an image counts: if a start and its end are
taken away there, and all that stands between them is kept, then nothing changes, neither the
rendered document nor the questions put to the backend nor the walk itself. So an image is asked for
once, with a description that only the parts without parts of their own make up: text and code as
they stand, and whatever the backend has for any other part (`description_plain`).
-/

namespace WikiMarkup

/-! ### The plain description -/

/-- What a part shows inside an image: text and code as they stand, and what the backend has for any
other part. -/
def Leaf.description (b : Backend) : Leaf → Text
  | .text t => t
  | .code t => t
  | .html t => b.html t
  | .inlineHtml t => b.inlineHtml t
  | .softBreak => b.softBreak
  | .hardBreak => b.lineBreak
  | .rule => b.horizontalRule
  | .taskMarker checked => b.checkbox checked
  | .unsupported => []

/-- The question that a part inside an image puts. There is none for text and code. -/
def Leaf.innerCall? : Leaf → Option Call
  | .html t => some (.html t)
  | .inlineHtml t => some (.inlineHtml t)
  | .softBreak => some .softBreak
  | .hardBreak => some .lineBreak
  | .rule => some .horizontalRule
  | .taskMarker checked => some (.checkbox checked)
  | .text _ | .code _ | .unsupported => none

/-- The part that an event stands for, if it has no parts of its own. -/
def Event.leaf? : Event → Option Leaf
  | .leaf l => some l
  | .start _ | .finish => none

/-- The description that events inside an image make up. -/
def descriptionOf (b : Backend) (es : List Event) : Text :=
  (es.filterMap Event.leaf?).flatMap (Leaf.description b)

/-- The questions that events inside an image put, with their answers. -/
def innerCalls (b : Backend) (es : List Event) : List (Call × Except RenderError Text) :=
  (es.filterMap fun e => e.leaf?.bind Leaf.innerCall?).map fun c => (c, b.answer c)

/-- An image with what stands in it. -/
def shownImage (b : Backend) (href title : Text) (es : List Event) : Text :=
  b.image href (nonempty? title) (descriptionOf b es)

/-- The questions that an image puts, with their answers: those for what stands in it, and then the
one for itself. -/
def imageCalls (b : Backend) (href title : Text) (es : List Event) :
    List (Call × Except RenderError Text) :=
  innerCalls b es ++
    [(.image href (nonempty? title) (descriptionOf b es), .ok (shownImage b href title es))]

section

variable (b : Backend)

lemma descriptionOf_leaf (l : Leaf) : descriptionOf b [.leaf l] = l.description b :=
  List.append_nil _

lemma descriptionOf_append (es es' : List Event) :
    descriptionOf b (es ++ es') = descriptionOf b es ++ descriptionOf b es' := by
  simp [descriptionOf]

lemma innerCalls_leaf (l : Leaf) :
    innerCalls b [.leaf l] = (l.innerCall?.map fun c => (c, b.answer c)).toList := by
  cases l <;> rfl

lemma innerCalls_append (es es' : List Event) :
    innerCalls b (es ++ es') = innerCalls b es ++ innerCalls b es' := by
  simp [innerCalls]

/-- A start and an end show nothing and ask for nothing inside an image. -/
lemma descriptionOf_node (tag : Tag) (es : List Event) :
    descriptionOf b (.start tag :: (es ++ [.finish])) = descriptionOf b es := by
  simp [descriptionOf, List.filterMap_cons, Event.leaf?]

lemma innerCalls_node (tag : Tag) (es : List Event) :
    innerCalls b (.start tag :: (es ++ [.finish])) = innerCalls b es := by
  simp [innerCalls, Event.leaf?]

end

/-! ### The meaning of what stands inside an image -/

section

variable (b : Backend)

/-- A computation answers with `t` and asks for nothing but what is recorded in `calls`. -/
def Answers (x : Recorded Text) (t : Text) (calls : List (Call × Except RenderError Text)) : Prop :=
  ∀ log, x.run.run log = (.ok t, log ++ calls)

variable {b}

lemma Answers.bind {x : Recorded Text} {f : Text → Recorded Text} {t t' : Text}
    {calls calls' : List (Call × Except RenderError Text)} (hx : Answers x t calls)
    (hf : Answers (f t) t' calls') : Answers (x >>= f) t' (calls ++ calls') := by
  intro log
  rw [ExceptT.run_bind, StateT.run_bind, hx, ← List.append_assoc]
  exact hf _

lemma Answers.pure (t : Text) : Answers (Pure.pure t) t [] := by
  intro log
  rw [List.append_nil]
  rfl

lemma Leaf.answers_meaning_image (l : Leaf) :
    Answers (l.meaning b.record .image) (descriptionOf b [.leaf l]) (innerCalls b [.leaf l]) := by
  rw [descriptionOf_leaf, innerCalls_leaf]
  cases l with
  | text t | code t | unsupported => exact Answers.pure _
  | _ => exact fun log => rfl

lemma Tree.answers_meaningOfList {place : Place} {ts : List Tree}
    (h : ∀ t ∈ ts, Answers (t.meaning b.record place) (descriptionOf b t.events)
      (innerCalls b t.events)) :
    Answers (Tree.meaningOfList b.record place ts) (descriptionOf b (Tree.eventsOfList ts))
      (innerCalls b (Tree.eventsOfList ts)) := by
  induction ts with
  | nil => exact Answers.pure []
  | cons t ts ih =>
    have hts := ih fun u hu => h u (by simp [hu])
    rw [Tree.meaningOfList, Tree.eventsOfList, descriptionOf_append, innerCalls_append]
    refine (h t (by simp)).bind ?_
    rw [← List.append_nil (innerCalls b (Tree.eventsOfList ts))]
    exact hts.bind (Answers.pure _)

lemma Tree.answers_meaning_image (t : Tree) :
    Answers (t.meaning b.record .image) (descriptionOf b t.events) (innerCalls b t.events) := by
  induction t using Tree.inductionOnChildren with
  | leaf l =>
    rw [Tree.meaning, Tree.events]
    exact l.answers_meaning_image
  | node tag ts ih =>
    rw [Tree.meaning, Tree.events, descriptionOf_node, innerCalls_node]
    exact Tree.answers_meaningOfList ih

end

variable {m : Type → Type} [Monad m] [LawfulMonad m] (ask : Call → m Text)

/-- Inside an image any tree is evaluated, whatever its tables are like. -/
lemma Tree.evaluates_image (t : Tree) :
    Evaluates ask false .image t.events (t.meaning ask .image) := by
  induction t using Tree.inductionOnChildren with
  | leaf l =>
    rw [Tree.events, Tree.meaning]
    exact Evaluates.leaf l
  | node tag ts ih => exact Evaluates.image_node tag (Evaluates.list ih)

/-! ### Walks inside and around an image -/

namespace Walk

/-- What is written with a record of its questions is written by the walk itself. -/
lemma Writes.run_eq {b : Backend} {w : Walk} {es : List Event} {x : Recorded Text}
    {s : TableState} {t : Text} {calls : List (Call × Except RenderError Text)}
    (h : w.Writes b.record es x s) (hx : Answers x t calls) :
    w.run b es = ((w.append t).withTable s, .ok ()) ∧ w.calls b es = calls := by
  have hrecord := run_traverse_record b w es []
  have hwrites := h []
  rw [List.append_nil] at hwrites
  rw [hwrites, ExceptT.run_bind, StateT.run_bind, hx, List.nil_append, List.nil_append] at hrecord
  obtain ⟨hwalk, hcalls⟩ := Prod.mk.inj hrecord
  exact ⟨traverse_answer_eq_ok_iff.1 hwalk.symm, hcalls.symm⟩

lemma start_append_finish (tag : Tag) (es after : List Event) :
    .start tag :: (es ++ [.finish]) ++ after = .start tag :: (es ++ .finish :: after) := by
  simp

variable {b : Backend} {v : Walk}

/-- Inside an image the events of any trees only add their description. -/
lemma run_eventsOfList_of_image (hv : v.place = .image) (ts : List Tree) :
    v.run b (Tree.eventsOfList ts) =
        (v.append (descriptionOf b (Tree.eventsOfList ts)), .ok ()) ∧
      v.calls b (Tree.eventsOfList ts) = innerCalls b (Tree.eventsOfList ts) := by
  obtain ⟨s, hs, hwrites⟩ :=
    Evaluates.list (fun t (_ : t ∈ ts) => t.evaluates_image b.record) v.table
  obtain rfl := hs rfl
  have hrun := (hwrites v hv rfl).run_eq
    (Tree.answers_meaningOfList fun t _ => t.answers_meaning_image)
  rwa [← table_append v, withTable_table] at hrun

/-- Inside an image a start and its end change nothing. -/
lemma run_node_of_image (hv : v.place = .image) (tag : Tag) (ts : List Tree) (after : List Event) :
    v.run b (.start tag :: (Tree.eventsOfList ts ++ .finish :: after)) =
        v.run b (Tree.eventsOfList ts ++ after) ∧
      v.calls b (.start tag :: (Tree.eventsOfList ts ++ .finish :: after)) =
        v.calls b (Tree.eventsOfList ts ++ after) := by
  have hnode : Tree.eventsOfList [.node tag ts] =
      .start tag :: (Tree.eventsOfList ts ++ [.finish]) := by
    simp [Tree.eventsOfList, Tree.events]
  obtain ⟨hrun, hcalls⟩ := run_eventsOfList_of_image (b := b) hv [.node tag ts]
  obtain ⟨hrun', hcalls'⟩ := run_eventsOfList_of_image (b := b) hv ts
  rw [hnode, descriptionOf_node] at hrun
  rw [hnode, innerCalls_node] at hcalls
  rw [← start_append_finish, run_append, run_append, calls_append, calls_append, hrun, hrun',
    hcalls, hcalls']
  exact ⟨rfl, rfl⟩

/-- An image is asked for when it is closed, and shown in its place. -/
lemma run_image (hv : v.place ≠ .image) (href title : Text) (ts : List Tree) (after : List Event) :
    v.run b (.start (.image href title) :: (Tree.eventsOfList ts ++ .finish :: after)) =
        (v.append (shownImage b href title (Tree.eventsOfList ts))).run b after ∧
      v.calls b (.start (.image href title) :: (Tree.eventsOfList ts ++ .finish :: after)) =
        imageCalls b href title (Tree.eventsOfList ts) ++
          (v.append (shownImage b href title (Tree.eventsOfList ts))).calls b after := by
  have hinner := Evaluates.list fun t (_ : t ∈ ts) => t.evaluates_image b.record
  have htag : (Tag.image href title).isTablePart = false := rfl
  obtain ⟨s, hs, hwrites⟩ := Evaluates.flow_node hv htag hinner v.table
  obtain rfl := hs rfl
  have hanswers : Answers ((Tree.node (.image href title) ts).meaning b.record v.place)
      (shownImage b href title (Tree.eventsOfList ts))
      (imageCalls b href title (Tree.eventsOfList ts)) := by
    rw [Tree.meaning_node b.record hv htag]
    refine (Tree.answers_meaningOfList fun t _ => t.answers_meaning_image).bind fun log => ?_
    rw [Tag.meaning_image]
    rfl
  obtain ⟨hrun, hcalls⟩ := (hwrites v rfl rfl).run_eq hanswers
  rw [Tree.events] at hrun hcalls
  rw [← table_append v, withTable_table] at hrun
  rw [← start_append_finish, run_append, calls_append, hrun, hcalls]
  exact ⟨rfl, rfl⟩

variable (b)

/-- **Descriptions are plain.** In any sequence of events, and whatever the walk has rendered before,
a start inside an open image and the end that closes it can be left out: the result is the same,
and so are the questions put to the backend and the walk for the next document. A closed image that
is reached outside of all others asks for what stands in it, part by part, and then once for itself
with its plain description. It is shown where it stands, and the walk goes on behind it. -/
theorem description_plain (w : Walk) (before after : List Event) (ts : List Tree) :
    (inOpenImage (openedBehind [] before) = true → ∀ tag,
      w.render b (before ++ .start tag :: (Tree.eventsOfList ts ++ .finish :: after)) =
          w.render b (before ++ (Tree.eventsOfList ts ++ after)) ∧
        w.restart.calls b (before ++ .start tag :: (Tree.eventsOfList ts ++ .finish :: after)) =
          w.restart.calls b (before ++ (Tree.eventsOfList ts ++ after))) ∧
      (inOpenImage (openedBehind [] before) = false → ∀ v href title,
        w.restart.run b before = (v, .ok ()) →
          w.restart.run b (before ++
              .start (.image href title) :: (Tree.eventsOfList ts ++ .finish :: after)) =
            (v.append (shownImage b href title (Tree.eventsOfList ts))).run b after ∧
          w.restart.calls b (before ++
              .start (.image href title) :: (Tree.eventsOfList ts ++ .finish :: after)) =
            w.restart.calls b before ++ (imageCalls b href title (Tree.eventsOfList ts) ++
              (v.append (shownImage b href title (Tree.eventsOfList ts))).calls b after)) := by
  constructor
  · intro hin tag
    rw [render, render, run_append, run_append, calls_append, calls_append]
    rcases hbefore : w.restart.run b before with ⟨v, err | u⟩
    · exact ⟨rfl, rfl⟩
    · have hv : v.place = .image := (w.tracks_restart.run hbefore).place_eq_image_iff.2 hin
      obtain ⟨hrun, hcalls⟩ := run_node_of_image (b := b) hv tag ts after
      simp only [hrun, hcalls, and_self]
  · intro hout v href title hbefore
    have hv : v.place ≠ .image := by
      rw [ne_eq, (w.tracks_restart.run hbefore).place_eq_image_iff, hout]
      simp
    obtain ⟨hrun, hcalls⟩ := run_image (b := b) hv href title ts after
    rw [run_append, calls_append, hbefore]
    exact ⟨hrun, congrArg _ hcalls⟩

/-- What comes before the description of an image in a body row of a table. -/
def cellImageStart : List Event :=
  [.start (.table [.left]), .start .tableRow, .start .tableCell, .start (.image "i".toList [])]

/-- Code and a line break, as the content of a header row. -/
def imageContent : List Tree := [.node .tableHead [.leaf (.code "a".toList), .leaf .hardBreak]]

/-- What follows the description: the end of the image and of its cell, and another cell. -/
def cellImageEnd : List Event :=
  [.finish, .finish, .start .tableCell, .finish, .finish, .finish]

/-- A table in the image has no effect on the table around it, and the image is asked for once. -/
theorem description_plain_cellImage :
    inOpenImage (openedBehind [] cellImageStart) = true ∧
      (Walk.render (Wiki.backend {}) {} (cellImageStart ++
          .start (.table [.right]) :: (Tree.eventsOfList imageContent ++
            .finish :: cellImageEnd))).1 = .ok "\n|!i|alt=a\n!| |\n".toList ∧
      inOpenImage (openedBehind [] [.start .strong]) = false ∧
      Walk.calls (Wiki.backend {}) {} ([.start .strong] ++
          .start (.image "i".toList []) :: (Tree.eventsOfList imageContent ++
            .finish :: [.finish])) =
        [(.lineBreak, .ok "\n".toList),
          (.image "i".toList none "a\n".toList, .ok "!i|alt=a\n!".toList),
          (.strong "!i|alt=a\n!".toList, .ok "*!i|alt=a\n!*".toList)] := by
  have hin : inOpenImage (openedBehind [] cellImageStart) = true := rfl
  have hout : inOpenImage (openedBehind [] [.start .strong]) = false := rfl
  have htable := (description_plain (Wiki.backend {}) {} cellImageStart cellImageEnd
    imageContent).1 hin (.table [.right])
  have himage := (description_plain (Wiki.backend {}) {} [.start .strong] [.finish]
    imageContent).2 hout (Walk.push {} .strong) "i".toList [] rfl
  exact ⟨hin, (congrArg Prod.fst htable.1).trans rfl, hout, himage.2.trans rfl⟩

end Walk

end WikiMarkup
