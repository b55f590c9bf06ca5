import WikiMarkup.Proofs.Render.OpenTags
/-!
# The questions of a walk

A walk knows its backend by the answers alone. Another backend that gives the same answers to the
questions of a walk is led through the same walk and asked the same questions (`Walk.render_congr`),
however it would answer any other question.

What a walk may ask is settled by the events. The end of a construct asks about the tag that has
opened it, and only tags outside images open a construct with markup; any other question is about a
part without parts of its own (`Walk.isAskedBy_of_mem_calls`). The invariant is that what the open
constructs may ask all belongs to tags that have started before (`Walk.OpenFrom`).
-/

namespace WikiMarkup

/-! ### Backends with the same answers -/

section

variable {b b' : Backend} {w : Walk} {es : List Event}

lemma Request.answer_congr {r : Request} (h : ∀ q ∈ r.record b, b'.answer q.1 = b.answer q.1) :
    r.answer b' = r.answer b ∧ r.record b' = r.record b := by
  cases r with
  | verbatim t => exact ⟨rfl, rfl⟩
  | call c =>
    have hc : b'.answer c = b.answer c := h (c, b.answer c) List.mem_cons_self
    exact ⟨hc, congrArg (fun a => [(c, a)]) hc⟩
  | headerRow cells =>
    have hrow : b'.answer (.tableRow cells) = b.answer (.tableRow cells) :=
      h (.tableRow cells, b.answer (.tableRow cells)) List.mem_cons_self
    exact ⟨hrow, congrArg (fun a => [(Call.tableRow cells, a)]) hrow⟩

namespace Walk

/-- A walk depends on the answers to its own questions only. -/
lemma run_congr (h : ∀ q ∈ w.calls b es, b'.answer q.1 = b.answer q.1) :
    w.run b' es = w.run b es ∧ w.calls b' es = w.calls b es := by
  induction es generalizing w with
  | nil => exact ⟨rfl, rfl⟩
  | cons e es ih =>
    rw [calls_cons] at h
    obtain ⟨hanswer, hrecord⟩ :=
      Request.answer_congr fun q hq => h q (List.mem_append_left _ hq)
    rw [run, run, calls_cons, calls_cons, hanswer, hrecord]
    cases hok : (w.accept e).2.answer b with
    | error err => exact ⟨rfl, rfl⟩
    | ok t =>
      rw [hok] at h
      obtain ⟨hrun, hcalls⟩ := ih fun q hq => h q (List.mem_append_right _ hq)
      exact ⟨hrun, congrArg _ hcalls⟩

theorem render_congr (h : ∀ q ∈ w.restart.calls b es, b'.answer q.1 = b.answer q.1) :
    w.render b' es = w.render b es ∧ w.restart.calls b' es = w.restart.calls b es := by
  obtain ⟨hrun, hcalls⟩ := run_congr h
  rw [render, render, hrun]
  exact ⟨rfl, hcalls⟩

end Walk

end

/-! ### Where questions come from -/

/-- The question may be put when the construct of the tag ends. -/
def Tag.Asks (tag : Tag) (c : Call) : Prop :=
  match tag with
  | .table _ => ∃ header body, c = .table header body
  | .tableHead | .tableRow => ∃ cells, c = .tableRow cells
  | .tableCell => ∃ content header alignment, c = .tableCell content header alignment
  | tag => ∃ content, tag.call? content = some c

/-- The question about a part without parts of its own, where it is not taken as it stands. -/
def Leaf.call? : Leaf → Option Call
  | .text t => some (.text t)
  | .code t => some (.codeSpan t)
  | .html t => some (.html t)
  | .inlineHtml t => some (.inlineHtml t)
  | .softBreak => some .softBreak
  | .hardBreak => some .lineBreak
  | .rule => some .horizontalRule
  | .taskMarker checked => some (.checkbox checked)
  | .unsupported => none

/-- The question belongs to one of the events: to the start of a tag outside images, or to a part
without parts of its own. -/
def Call.IsAskedBy (c : Call) (es : List Event) : Prop :=
  (∃ tag ∈ startsOutsideImages [] es, tag.Asks c) ∨ ∃ l, .leaf l ∈ es ∧ l.call? = some c

/-- The question may be put when the construct ends, whatever it holds by then. What a table holds
is its header row too. -/
def Construct.Asks (c : Construct) (q : Call) : Prop :=
  match c with
  | .table _ => ∃ header body, q = .table header body
  | c => ∃ content, (Walk.closing ⟨c, content⟩).call? = some q

namespace Walk

lemma asks_of_closing {node : Node} {q : Call} (h : (closing node).call? = some q) :
    node.construct.Asks q := by
  obtain ⟨c, content⟩ := node
  cases c with
  | table header => exact ⟨header, content, (Option.some.inj h).symm⟩
  | _ => exact ⟨content, h⟩

/-- Outside images a tag opens a construct that asks what the tag asks, and inside images one that
asks nothing. -/
lemma exists_openNodes_start (w : Walk) (tag : Tag) :
    ∃ c, (w.start tag).openNodes = ⟨c, []⟩ :: w.openNodes ∧
      ∀ q, Construct.Asks c q → w.inImage = false ∧ tag.Asks q := by
  cases himage : w.inImage with
  | true =>
    refine ⟨.unmarked, by simp [start, himage, push], ?_⟩
    rintro q ⟨content, hq⟩
    cases hq
  | false =>
    cases tag with
    | tableHead | tableRow =>
      refine ⟨_, by simp only [start, himage]; rfl, ?_⟩
      rintro q ⟨content, hq⟩
      exact ⟨rfl, content, (Option.some.inj hq).symm⟩
    | tableCell =>
      refine ⟨_, by simp only [start, himage]; rfl, ?_⟩
      rintro q ⟨content, hq⟩
      exact ⟨rfl, content, _, _, (Option.some.inj hq).symm⟩
    | codeBlock info =>
      refine ⟨_, by simp only [start, himage]; rfl, ?_⟩
      rintro q ⟨content, hq⟩
      exact ⟨rfl, content, (Tag.call?_codeBlock content info).trans hq⟩
    | link href title =>
      refine ⟨_, by simp only [start, himage]; rfl, ?_⟩
      rintro q ⟨content, hq⟩
      exact ⟨rfl, content, (Tag.call?_link content href title).trans hq⟩
    | image href title =>
      refine ⟨_, by simp only [start, himage]; rfl, ?_⟩
      rintro q ⟨content, hq⟩
      exact ⟨rfl, content, (Tag.call?_image content href title).trans hq⟩
    | _ =>
      refine ⟨_, by simp only [start, himage]; rfl, ?_⟩
      exact fun q hq => ⟨rfl, hq⟩

lemma call?_requestOf {w : Walk} {l : Leaf} {q : Call} (h : (w.requestOf l).call? = some q) :
    l.call? = some q := by
  cases l with
  | text t =>
    rw [requestOf] at h
    split at h
    · cases h
    · exact h
  | code t =>
    rw [requestOf] at h
    split at h
    · cases h
    · exact h
  | _ => exact h

/-- Whatever an open construct may ask, a tag among `starts` asks. -/
def OpenFrom (w : Walk) (starts : List Tag) : Prop :=
  ∀ node ∈ w.openNodes, ∀ q, node.construct.Asks q → ∃ tag ∈ starts, tag.Asks q

namespace OpenFrom

variable {w : Walk} {starts opened : List Tag}

lemma append (h : w.OpenFrom starts) (t : Text) : (w.append t).OpenFrom starts := by
  obtain ⟨output, _ | ⟨node, rest⟩, images, table⟩ := w
  · exact h
  · exact List.forall_mem_cons.2 (List.forall_mem_cons.1 h)

lemma deliver (h : w.OpenFrom starts) (r : Request) (t : Text) :
    (w.deliver r t).OpenFrom starts := by
  rcases w.deliver_cases r t with happend | ⟨header, content, rest, hopen, hheader⟩
  · rw [happend]
    exact h.append t
  · -- The header row is part of what the table holds, so the table still asks the same.
    rw [OpenFrom, hopen] at h
    rw [hheader]
    exact List.forall_mem_cons.2 (List.forall_mem_cons.1 h)

/-- An event adds no more to the open constructs than the tag that it starts outside images. -/
lemma accept (h : w.OpenFrom starts) (hw : w.Tracks opened) (e : Event) :
    (w.accept e).1.OpenFrom (starts ++ (e.outerStart? opened).toList) := by
  have hkept : ∀ node ∈ w.openNodes, ∀ q, node.construct.Asks q →
      ∃ tag ∈ starts ++ (e.outerStart? opened).toList, tag.Asks q := by
    intro node hnode q hq
    obtain ⟨tag, htag, hasks⟩ := h node hnode q hq
    exact ⟨tag, List.mem_append_left _ htag, hasks⟩
  cases e with
  | start tag =>
    obtain ⟨c, hopen, hc⟩ := w.exists_openNodes_start tag
    rw [OpenFrom, Walk.accept, hopen]
    refine List.forall_mem_cons.2 ⟨?_, hkept⟩
    intro q hq
    obtain ⟨himage, hasks⟩ := hc q hq
    rw [hw.inImage_eq] at himage
    exact ⟨tag, by simp [Event.outerStart?, himage], hasks⟩
  | finish =>
    rw [Walk.accept, finish]
    split
    · exact hkept
    · rename_i node rest hopen
      rw [hopen] at hkept
      exact (List.forall_mem_cons.1 hkept).2
  | leaf l => exact hkept

/-- What an event asks, a tag has asked for that has started before, or the event itself does. -/
lemma asks_of_accept (h : w.OpenFrom starts) {e : Event} {q : Call}
    (hq : (w.accept e).2.call? = some q) :
    (∃ tag ∈ starts, tag.Asks q) ∨ ∃ l, e = .leaf l ∧ l.call? = some q := by
  cases e with
  | start tag => cases hq
  | leaf l => exact .inr ⟨l, rfl, call?_requestOf hq⟩
  | finish =>
    rw [Walk.accept, finish] at hq
    split at hq
    · cases hq
    · rename_i node rest hopen
      have hnode : node ∈ w.openNodes := hopen ▸ List.mem_cons_self
      exact .inl (h node hnode q (asks_of_closing hq))

lemma asks_of_mem_calls {b : Backend} {es : List Event} {q : Call × Except RenderError Text}
    (h : w.OpenFrom starts) (hw : w.Tracks opened) (hq : q ∈ w.calls b es) :
    (∃ tag ∈ starts ++ startsOutsideImages opened es, tag.Asks q.1) ∨
      ∃ l, .leaf l ∈ es ∧ l.call? = some q.1 := by
  induction es generalizing w starts opened with
  | nil => cases hq
  | cons e es ih =>
    rw [calls_cons] at hq
    rcases List.mem_append.1 hq with hfirst | hrest
    · have hcall : (w.accept e).2.call? = some q.1 := by
        rw [Request.record] at hfirst
        split at hfirst
        · rename_i c hc
          rw [hc, List.mem_singleton.1 hfirst]
        · cases hfirst
      rcases h.asks_of_accept hcall with ⟨tag, htag, hasks⟩ | ⟨l, rfl, hl⟩
      · exact .inl ⟨tag, List.mem_append_left _ htag, hasks⟩
      · exact .inr ⟨l, List.mem_cons_self, hl⟩
    · cases hanswer : (w.accept e).2.answer b with
      | error err =>
        rw [hanswer] at hrest
        cases hrest
      | ok t =>
        rw [hanswer] at hrest
        rw [startsOutsideImages, ← List.append_assoc]
        exact (ih ((h.accept hw e).deliver _ t) ((hw.accept e).deliver _ t) hrest).imp_right
          fun ⟨l, hmem, hl⟩ => ⟨l, List.mem_cons_of_mem _ hmem, hl⟩

end OpenFrom

/-- **No question comes from nowhere.** Whatever a walk asks belongs to an event of the document. -/
theorem isAskedBy_of_mem_calls {b : Backend} {w : Walk} {es : List Event}
    {q : Call × Except RenderError Text} (hq : q ∈ w.restart.calls b es) : q.1.IsAskedBy es := by
  have hnone : w.restart.OpenFrom [] := fun node hnode => absurd hnode List.not_mem_nil
  exact hnone.asks_of_mem_calls w.tracks_restart hq

end Walk

end WikiMarkup
