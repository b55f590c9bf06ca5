import Mathlib.Tactic.Common
import WikiMarkup.Document.Tree
/-!
# The balanced core of a document

The starts and ends of a sequence of events need not match: an end may find nothing open, and a
start may never be closed. An end closes whatever was opened last. The core of the sequence is what
is left of it without the stray ends and without all that follows the first start that no end
closes. It is balanced, which means that it holds the events of a list of trees
(`exists_balancedCore_eq`).
-/

namespace WikiMarkup

/-- Some of the events closes a construct inside which `n` others are open before them. -/
def isClosed : Nat → List Event → Bool
  | _, [] => false
  | n, .start _ :: es => isClosed (n + 1) es
  | 0, .finish :: _ => true
  | n + 1, .finish :: es => isClosed n es
  | n, .leaf _ :: es => isClosed n es

/-- The events without the ends that find nothing open, if `n` constructs are open before them. -/
def withoutStrayEnds : Nat → List Event → List Event
  | _, [] => []
  | n, .start tag :: es => .start tag :: withoutStrayEnds (n + 1) es
  | 0, .finish :: es => withoutStrayEnds 0 es
  | n + 1, .finish :: es => .finish :: withoutStrayEnds n es
  | n, .leaf l :: es => .leaf l :: withoutStrayEnds n es

/-- The events before the first start that is never closed. -/
def beforeUnclosed : List Event → List Event
  | [] => []
  | .start tag :: es => if isClosed 0 es then .start tag :: beforeUnclosed es else []
  | e :: es => e :: beforeUnclosed es

/-- The events without stray ends, up to the first start that is never closed. -/
def balancedCore (es : List Event) : List Event := beforeUnclosed (withoutStrayEnds 0 es)

/-! ### What is cut off -/

/-- There are no events, or they begin with a start that none of them closes. -/
inductive BeginsUnclosed : List Event → Prop
  | nil : BeginsUnclosed []
  | start {tag : Tag} {es : List Event} (h : isClosed 0 es = false) :
      BeginsUnclosed (.start tag :: es)

lemma exists_eq_beforeUnclosed_append (es : List Event) :
    ∃ rest, es = beforeUnclosed es ++ rest ∧ BeginsUnclosed rest := by
  induction es with
  | nil => exact ⟨[], rfl, .nil⟩
  | cons e es ih =>
    obtain ⟨rest, hes, hrest⟩ := ih
    cases e with
    | start tag =>
      rw [beforeUnclosed]
      cases hclosed : isClosed 0 es with
      | true => exact ⟨rest, congrArg (.start tag :: ·) hes, hrest⟩
      | false => exact ⟨.start tag :: es, rfl, .start hclosed⟩
    | finish => exact ⟨rest, congrArg (.finish :: ·) hes, hrest⟩
    | leaf l => exact ⟨rest, congrArg (.leaf l :: ·) hes, hrest⟩

/-! ### The core is balanced -/

/-- An end that closes a construct closes those inside it before. -/
lemma isClosed_of_le {k n : Nat} (hk : k ≤ n) {es : List Event} (h : isClosed n es = true) :
    isClosed k es = true := by
  induction es generalizing k n with
  | nil => cases h
  | cons e es ih =>
    cases e with
    | start tag => exact ih (Nat.succ_le_succ hk) h
    | leaf l =>
      rw [isClosed] at h ⊢
      exact ih hk h
    | finish =>
      match k, n with
      | 0, _ => rfl
      | k + 1, n + 1 => exact ih (Nat.le_of_succ_le_succ hk) h

/-- The events close `n` constructs that were open before them, and are balanced otherwise. -/
inductive ClosesAll : Nat → List Event → Prop
  | balanced (ts : List Tree) : ClosesAll 0 (Tree.eventsOfList ts)
  | finish {n : Nat} {es : List Event} (ts : List Tree) (h : ClosesAll n es) :
      ClosesAll (n + 1) (Tree.eventsOfList ts ++ .finish :: es)

namespace ClosesAll

variable {n : Nat} {es : List Event}

lemma events_append (t : Tree) (h : ClosesAll n es) : ClosesAll n (t.events ++ es) := by
  cases h with
  | balanced ts => exact .balanced (t :: ts)
  | finish ts h =>
    rw [← List.append_assoc]
    exact .finish (t :: ts) h

lemma start (tag : Tag) (h : ClosesAll (n + 1) es) : ClosesAll n (.start tag :: es) := by
  cases h with
  | finish ts h =>
    have hevents := events_append (.node tag ts) h
    rw [Tree.events] at hevents
    simpa using hevents

end ClosesAll

/-- If all constructs that are open before some events are closed by them, then so they are by what
is left of the events. -/
lemma closesAll_beforeUnclosed {n : Nat} {es : List Event}
    (h : ∀ k < n, isClosed k (withoutStrayEnds n es) = true) :
    ClosesAll n (beforeUnclosed (withoutStrayEnds n es)) := by
  induction es generalizing n with
  | nil =>
    cases n with
    | zero => exact .balanced []
    | succ n => cases h 0 n.succ_pos
  | cons e es ih =>
    cases e with
    | leaf l =>
      simp only [withoutStrayEnds, isClosed] at h
      simp only [withoutStrayEnds, beforeUnclosed]
      exact (ih h).events_append (.leaf l)
    | finish =>
      cases n with
      | zero => exact ih (by simp)
      | succ n => exact .finish [] (ih fun k hk => h (k + 1) (Nat.succ_lt_succ hk))
    | start tag =>
      simp only [withoutStrayEnds, beforeUnclosed, isClosed] at h ⊢
      cases hclosed : isClosed 0 (withoutStrayEnds (n + 1) es) with
      | true =>
        refine (ih fun k hk => ?_).start tag
        cases k with
        | zero => exact hclosed
        | succ k => exact h k (Nat.lt_of_succ_lt_succ hk)
      | false =>
        -- A construct around the start would have to be closed behind it.
        cases n with
        | zero => exact .balanced []
        | succ n =>
          rw [isClosed_of_le (Nat.zero_le _) (h 0 n.succ_pos)] at hclosed
          cases hclosed

lemma exists_balancedCore_eq (es : List Event) :
    ∃ ts, balancedCore es = Tree.eventsOfList ts := by
  have hcore : ClosesAll 0 (balancedCore es) := closesAll_beforeUnclosed (by simp)
  generalize balancedCore es = core at hcore ⊢
  cases hcore with
  | balanced ts => exact ⟨ts, rfl⟩

end WikiMarkup
