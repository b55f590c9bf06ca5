import WikiMarkup.Proofs.Document.Images
import WikiMarkup.Proofs.Render.Meaning
/-!
# Walks in any monad

`Walk.traverse` is a walk over events that leaves open how questions are put. A walk with a backend
and the list of the questions that it puts are two instances of it (`traverse_answer`,
`run_traverse_record`), so what is shown of traversals is shown of both at once.

The rest of the file says what the steps of a walk do to the innermost open construct.
-/

namespace WikiMarkup

section

variable {m : Type → Type} [Monad m] (ask : Call → m Text)

/-- The piece of output that a request asks for, by any way to put questions. -/
def Request.piece : Request → m Text
  | .verbatim t => pure t
  | .call c => ask c
  | .headerRow cells => ask (.tableRow cells)

/-- Walks over a sequence of events, by any way to put questions. -/
def Walk.traverse (w : Walk) : List Event → m Walk
  | [] => pure w
  | e :: es => do
    let t ← (w.accept e).2.piece ask
    Walk.traverse ((w.accept e).1.deliver (w.accept e).2 t) es

end

/-- What puts questions to a backend and keeps a record of them with their answers. -/
abbrev Recorded := ExceptT RenderError (StateM (List (Call × Except RenderError Text)))

/-- Puts a question to a backend and records it. -/
def Backend.record (b : Backend) (c : Call) : Recorded Text :=
  ExceptT.mk do
    modify (· ++ [(c, b.answer c)])
    pure (b.answer c)

lemma Request.piece_answer (b : Backend) (r : Request) : r.piece b.answer = r.answer b := by
  cases r <;> rfl

/-- What is recorded of a request: the question that it puts, if there is one. -/
def Request.record (b : Backend) (r : Request) : List (Call × Except RenderError Text) :=
  match r.call? with
  | some c => [(c, b.answer c)]
  | none => []

lemma Request.run_piece_record (b : Backend) (r : Request)
    (log : List (Call × Except RenderError Text)) :
    (r.piece b.record).run.run log = (r.answer b, log ++ r.record b) := by
  cases r with
  | verbatim t =>
    change (Except.ok t, log) = (Except.ok t, log ++ [])
    rw [List.append_nil]
  | call c => rfl
  | headerRow cells => rfl

namespace Walk

/-! ### A walk with a backend -/

theorem traverse_answer (b : Backend) (w : Walk) (es : List Event) :
    w.traverse b.answer es = (w.run b es).2.map fun _ => (w.run b es).1 := by
  induction es generalizing w with
  | nil => rfl
  | cons e es ih =>
    rw [traverse, run, Request.piece_answer]
    cases (w.accept e).2.answer b with
    | ok t => exact ih _
    | error err => rfl

lemma traverse_answer_eq_ok_iff {b : Backend} {w w' : Walk} {es : List Event} :
    w.traverse b.answer es = .ok w' ↔ w.run b es = (w', .ok ()) := by
  rw [traverse_answer]
  rcases w.run b es with ⟨v, _ | ⟨⟩⟩ <;> simp [Except.map]

/-- The document that a walk renders is the output of the traversal that asks the backend. -/
theorem render_fst (b : Backend) (w : Walk) (es : List Event) :
    (w.render b es).1 = (w.restart.traverse b.answer es).map Walk.output := by
  rw [traverse_answer, render]
  rcases w.restart.run b es with ⟨w', _ | _⟩ <;> rfl

/-- The traversal that records its questions records those of the walk. -/
theorem run_traverse_record (b : Backend) (w : Walk) (es : List Event)
    (log : List (Call × Except RenderError Text)) :
    (w.traverse b.record es).run.run log = (w.traverse b.answer es, log ++ w.calls b es) := by
  induction es generalizing w log with
  | nil => simp [traverse, calls]; rfl
  | cons e es ih =>
    rw [traverse, traverse, calls, ExceptT.run_bind, StateT.run_bind, Request.run_piece_record,
      Request.piece_answer]
    cases (w.accept e).2.answer b with
    | ok t =>
      have hrest := ih ((w.accept e).1.deliver (w.accept e).2 t) (log ++ (w.accept e).2.record b)
      rw [List.append_assoc] at hrest
      exact hrest
    | error err => rfl

/-- A walk over two sequences of events is a walk over the second one from where the first one has
led, unless that ended with an error. -/
theorem run_append (b : Backend) (w : Walk) (es es' : List Event) :
    w.run b (es ++ es') =
      match w.run b es with
      | (v, .ok ()) => v.run b es'
      | (v, .error err) => (v, .error err) := by
  induction es generalizing w with
  | nil => rfl
  | cons e es ih =>
    rw [List.cons_append, run, run]
    cases (w.accept e).2.answer b with
    | ok t => exact ih _
    | error err => rfl

/-- The questions of a walk: what is recorded of the first event, and then the questions of the rest,
unless the first event ends the walk with an error. -/
lemma calls_cons (b : Backend) (w : Walk) (e : Event) (es : List Event) :
    w.calls b (e :: es) =
      (w.accept e).2.record b ++
        match (w.accept e).2.answer b with
        | .ok t => ((w.accept e).1.deliver (w.accept e).2 t).calls b es
        | .error _ => [] := by
  rw [calls]
  cases (w.accept e).2.answer b with
  | ok t => rfl
  | error err => exact (List.append_nil _).symm

theorem calls_append (b : Backend) (w : Walk) (es es' : List Event) :
    w.calls b (es ++ es') =
      w.calls b es ++
        match w.run b es with
        | (v, .ok ()) => v.calls b es'
        | (_, .error _) => [] := by
  induction es generalizing w with
  | nil => rfl
  | cons e es ih =>
    rw [List.cons_append, calls, calls, run]
    cases (w.accept e).2.answer b with
    | ok t => simp only [ih, List.append_assoc]
    | error err => exact (List.append_nil _).symm

/-! ### The innermost open construct -/

/-- A walk at another place inside a table. -/
def withTable (w : Walk) (s : TableState) : Walk := { w with table := s }

/-- The place of the next event. -/
def place (w : Walk) : Place :=
  if w.inImage then .image else if w.inCodeBlock then .code else .flow

@[simp] lemma append_nil (w : Walk) : w.append [] = w := by
  obtain ⟨output, _ | ⟨node, rest⟩, images, table⟩ := w <;> simp [append]

@[simp] lemma append_append (w : Walk) (s t : Text) :
    (w.append s).append t = w.append (s ++ t) := by
  obtain ⟨output, _ | ⟨node, rest⟩, images, table⟩ := w <;> simp [append]

@[simp] lemma table_append (w : Walk) (t : Text) : (w.append t).table = w.table := by
  obtain ⟨output, _ | ⟨node, rest⟩, images, table⟩ := w <;> rfl

@[simp] lemma place_append (w : Walk) (t : Text) : (w.append t).place = w.place := by
  obtain ⟨output, _ | ⟨⟨c, content⟩, rest⟩, images, table⟩ := w
  · rfl
  · cases c <;> rfl

@[simp] lemma append_withTable (w : Walk) (s : TableState) (t : Text) :
    (w.withTable s).append t = (w.append t).withTable s := by
  obtain ⟨output, _ | ⟨node, rest⟩, images, table⟩ := w <;> rfl

/-- Output goes to the content of the innermost open construct or, if that is a table, to its
header. -/
lemma deliver_cases (w : Walk) (r : Request) (t : Text) :
    w.deliver r t = w.append t ∨
      ∃ header content rest, w.openNodes = ⟨.table header, content⟩ :: rest ∧
        w.deliver r t = { w with openNodes := ⟨.table (header ++ t), content⟩ :: rest } := by
  cases r with
  | headerRow cells =>
    rw [deliver, appendHeader]
    split
    · rename_i header content rest hopen
      exact .inr ⟨header, content, rest, hopen, rfl⟩
    · exact .inl rfl
  | _ => exact .inl rfl

@[simp] lemma withTable_withTable (w : Walk) (s s' : TableState) :
    (w.withTable s).withTable s' = w.withTable s' := rfl

@[simp] lemma withTable_table (w : Walk) : w.withTable w.table = w := rfl

@[simp] lemma images_withTable (w : Walk) (s : TableState) :
    (w.withTable s).images = w.images := rfl

@[simp] lemma place_withTable (w : Walk) (s : TableState) : (w.withTable s).place = w.place := rfl

lemma push_withTable (w : Walk) (s : TableState) (c : Construct) :
    (w.withTable s).push c = (w.push c).withTable s := rfl

lemma place_eq_image_iff (w : Walk) : w.place = .image ↔ w.images ≠ 0 := by
  rw [place, inImage]
  split
  · simp_all; omega
  · split <;> simp_all

/-- A construct that is closed leaves the walk as it was when the construct was opened, but for the
place inside a table. -/
lemma finish_push (w : Walk) (c : Construct) (content : Text) (s : TableState) :
    (((w.push c).append content).withTable s).finish =
      (w.withTable (tableAfter s c), closing ⟨c, content⟩) := by
  cases h : c.isImage <;> simp [push, append, withTable, finish, h]

/-- A tag opens one construct. It is an image if and only if the tag is one outside all others. -/
lemma start_eq_push (w : Walk) (tag : Tag) :
    ∃ s c, w.start tag = (w.withTable s).push c ∧ c.isImage = (tag.isImage && !w.inImage) := by
  cases himage : w.inImage with
  | true =>
    refine ⟨w.table, .unmarked, by simp [start, himage], ?_⟩
    simp [Construct.isImage]
  | false =>
    cases tag with
    | table alignments => exact ⟨⟨false, alignments, 0⟩, _, by simp only [start, himage]; rfl, rfl⟩
    | tableHead =>
      exact ⟨⟨true, w.table.alignments, 0⟩, _, by simp only [start, himage]; rfl, rfl⟩
    | tableRow =>
      exact ⟨⟨w.table.inHead, w.table.alignments, 0⟩, _, by simp only [start, himage]; rfl, rfl⟩
    | _ => exact ⟨w.table, _, by simp only [start, himage]; rfl, rfl⟩

end Walk

end WikiMarkup
