import WikiMarkup.Proofs.Document.Core
import WikiMarkup.Proofs.Render.OpenTags
import WikiMarkup.Wiki.Backend
/-!
# Unbalanced events

A sequence of events whose starts and ends do not match is rendered as its balanced core
(`render_balancedCore`). A stray end asks for nothing and changes nothing, so the walk over the
events without them is the same walk. Behind a start that is never closed nothing reaches the output
any more: there is always a construct open, and the output of what follows goes to the innermost one
of them. So of all that is cut off only an error can be seen.
-/

namespace WikiMarkup

namespace Walk

section

variable {m : Type → Type} [Monad m] [LawfulMonad m] (ask : Call → m Text)

/-- Stray ends ask for nothing and change nothing. -/
lemma traverse_withoutStrayEnds {w : Walk} {opened : List Tag} (hw : w.Tracks opened)
    (es : List Event) :
    w.traverse ask (withoutStrayEnds opened.length es) = w.traverse ask es := by
  induction es generalizing w opened with
  | nil => rfl
  | cons e es ih =>
    have hkept : w.traverse ask (e :: withoutStrayEnds (e.opened opened).length es) =
        w.traverse ask (e :: es) := by
      rw [traverse, traverse]
      exact bind_congr fun t => ih ((hw.accept e).deliver _ t)
    cases e with
    | start tag => exact hkept
    | leaf l =>
      rw [withoutStrayEnds]
      exact hkept
    | finish =>
      cases opened with
      | cons tag opened => exact hkept
      | nil =>
        have hnone : w.openNodes = [] := List.length_eq_zero_iff.1 hw.length_openNodes
        have hstray : w.traverse ask (.finish :: es) = w.traverse ask es := by
          simp [traverse, accept, Walk.finish, hnone, Request.piece, deliver]
        rw [hstray]
        exact ih hw

end

/-! ### Behind a start that is never closed -/

lemma output_accept (w : Walk) (e : Event) : (w.accept e).1.output = w.output := by
  cases e with
  | start tag =>
    obtain ⟨s, c, hstart, -⟩ := w.start_eq_push tag
    rw [accept, hstart]
    rfl
  | finish =>
    rw [accept, finish]
    split <;> rfl
  | leaf l => rfl

lemma output_deliver {w : Walk} (hw : w.openNodes ≠ []) (r : Request) (t : Text) :
    (w.deliver r t).output = w.output := by
  obtain ⟨output, _ | ⟨⟨c, content⟩, rest⟩, images, table⟩ := w
  · exact absurd rfl hw
  · cases r with
    | headerRow cells => cases c <;> rfl
    | _ => rfl

variable {b : Backend} {w w' : Walk} {opened : List Tag}

/-- As long as the outermost construct is not closed, the output stays as it is. -/
lemma output_run_of_not_isClosed {n : Nat} {es : List Event} (hw : w.Tracks opened)
    (hn : n < opened.length) (h : isClosed n es = false) (hrun : w.run b es = (w', .ok ())) :
    w'.output = w.output := by
  induction es generalizing w opened n with
  | nil =>
    cases hrun
    rfl
  | cons e es ih =>
    rw [run] at hrun
    cases hanswer : (w.accept e).2.answer b with
    | error err =>
      rw [hanswer] at hrun
      cases hrun
    | ok t =>
      rw [hanswer] at hrun
      -- Behind the event there is still a construct open, and one more than `k` if not `n`.
      have hopen : ∃ k < (e.opened opened).length, isClosed k es = false := by
        cases e with
        | start tag => exact ⟨n + 1, Nat.succ_lt_succ hn, h⟩
        | leaf l =>
          rw [isClosed] at h
          exact ⟨n, hn, h⟩
        | finish =>
          cases n with
          | zero => cases h
          | succ n =>
            refine ⟨n, ?_, h⟩
            rw [Event.opened, List.length_tail]
            omega
      obtain ⟨k, hk, hclosed⟩ := hopen
      have haccept := hw.accept e
      have hne : (w.accept e).1.openNodes ≠ [] := by
        rw [← List.length_pos_iff, haccept.length_openNodes]
        omega
      rw [ih (haccept.deliver _ t) hk hclosed hrun, output_deliver hne, output_accept]

lemma output_run_of_beginsUnclosed {es : List Event} (hw : w.Tracks opened)
    (h : BeginsUnclosed es) (hrun : w.run b es = (w', .ok ())) : w'.output = w.output := by
  cases h with
  | nil =>
    cases hrun
    rfl
  | @start tag es hclosed =>
    have hstart : (w.start tag).append [] = w.start tag := append_nil _
    have hrun' : (w.start tag).run b es = (w', .ok ()) := by rwa [← hstart]
    rw [output_run_of_not_isClosed (hw.start tag) (Nat.succ_pos _) hclosed hrun']
    exact output_accept w (.start tag)

end Walk

variable (b : Backend) (es : List Event)

lemma render_withoutStrayEnds : b.render (withoutStrayEnds 0 es) = b.render es := by
  have hwalk : Walk.traverse b.answer {} (withoutStrayEnds 0 es) = Walk.traverse b.answer {} es :=
    Walk.traverse_withoutStrayEnds b.answer (Walk.tracks_restart {}) es
  exact (Walk.render_fst b {} _).trans
    ((congrArg (Except.map Walk.output) hwalk).trans (Walk.render_fst b {} es).symm)

lemma calls_withoutStrayEnds :
    Walk.calls b {} (withoutStrayEnds 0 es) = Walk.calls b {} es := by
  have hwalk : Walk.traverse b.record {} (withoutStrayEnds 0 es) = Walk.traverse b.record {} es :=
    Walk.traverse_withoutStrayEnds b.record (Walk.tracks_restart {}) es
  have hlog := congrArg (fun x => (x.run.run []).2) hwalk
  simpa [Walk.run_traverse_record] using hlog

/-- Of events that begin with a start which is never closed only an error is seen. -/
lemma render_append_of_beginsUnclosed {rest : List Event} (h : BeginsUnclosed rest) :
    (∀ t, b.render (es ++ rest) = .ok t → b.render es = .ok t) ∧
      ∀ err, b.render es = .error err → b.render (es ++ rest) = .error err := by
  have hnew : Walk.restart {} = {} := rfl
  simp only [Backend.render, Walk.render, hnew, Walk.run_append]
  rcases hrun : Walk.run b {} es with ⟨v, err | u⟩
  · simp
  · have hv := (Walk.tracks_restart {}).run hrun
    dsimp only
    rcases hrest : v.run b rest with ⟨w', err | u⟩
    · simp
    · simp [Walk.output_run_of_beginsUnclosed hv h hrest]

/-- **Unbalanced events.** Every sequence of events has a balanced core: the sequence without the
ends that find nothing open, up to the first start that is never closed. If the sequence is
rendered, so is its core, and with the same output. If the core cannot be rendered, the sequence
cannot either, for the same reason. The questions put to the backend for the core are the first ones
of those for the sequence. -/
theorem render_balancedCore :
    (∃ ts, balancedCore es = Tree.eventsOfList ts) ∧
      (∀ t, b.render es = .ok t → b.render (balancedCore es) = .ok t) ∧
      (∀ err, b.render (balancedCore es) = .error err → b.render es = .error err) ∧
      Walk.calls b {} (balancedCore es) <+: Walk.calls b {} es := by
  obtain ⟨rest, hes, hrest⟩ := exists_eq_beforeUnclosed_append (withoutStrayEnds 0 es)
  have hrender : b.render (balancedCore es ++ rest) = b.render es := by
    rw [balancedCore, ← hes, render_withoutStrayEnds]
  have hcalls : Walk.calls b {} (balancedCore es ++ rest) = Walk.calls b {} es := by
    rw [balancedCore, ← hes, calls_withoutStrayEnds]
  obtain ⟨hok, herror⟩ := render_append_of_beginsUnclosed b (balancedCore es) hrest
  rw [← hrender, ← hcalls, Walk.calls_append]
  exact ⟨exists_balancedCore_eq es, hok, herror, List.prefix_append _ _⟩

/-- Strong text between stray ends, and then a table that is never closed, with a row that is. -/
def openTable : List Event :=
  [.finish, .start .strong, .leaf (.text "a".toList), .finish, .finish,
    .start (.table [.left]), .start .tableRow, .start .tableCell, .finish, .finish]

/-- A row without cells behind a stray end, and then a paragraph that is never closed. -/
def emptyRow : List Event := [.finish, .start .tableRow, .finish, .start .paragraph]

theorem render_balancedCore_openTable :
    balancedCore openTable = [.start .strong, .leaf (.text "a".toList), .finish] ∧
      (Wiki.backend {}).render openTable = .ok "*a*".toList ∧
      (Wiki.backend {}).render (balancedCore openTable) = .ok "*a*".toList ∧
      (Wiki.backend {}).render (balancedCore emptyRow) = .error (.malformedTableRow []) ∧
      (Wiki.backend {}).render emptyRow = .error (.malformedTableRow []) := by
  have hrender : (Wiki.backend {}).render openTable = .ok "*a*".toList := rfl
  have herror : (Wiki.backend {}).render (balancedCore emptyRow) =
      .error (.malformedTableRow []) := rfl
  exact ⟨rfl, hrender, (render_balancedCore (Wiki.backend {}) openTable).2.1 _ hrender, herror,
    (render_balancedCore (Wiki.backend {}) emptyRow).2.2.1 _ herror⟩

end WikiMarkup
