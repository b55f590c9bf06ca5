import WikiMarkup.Proofs.Document.Images
import WikiMarkup.Proofs.Render.Traversal
/-!
# Open tags and open constructs

A walk keeps one open construct for each open tag. It need not be the construct of the tag, since
inside an image every construct is opened as one without markup, but the walk knows as much of the
open tags as it has to: how many there are, and whether there is an image among them. `Walk.Tracks`
says so, and every event keeps it, in balanced and in unbalanced sequences alike.
-/

namespace WikiMarkup

/-- For each of the open tags, whether it is an image that stands in no other one. -/
def outermostImages : List Tag → List Bool
  | [] => []
  | tag :: opened => (tag.isImage && !inOpenImage opened) :: outermostImages opened

lemma inOpenImage_cons (tag : Tag) (opened : List Tag) :
    inOpenImage (tag :: opened) = (tag.isImage || inOpenImage opened) := rfl

namespace Walk

/-- The walk has one open construct for each of the tags `opened`. Of the images among them it knows
the outermost one, as an image and in its count. -/
structure Tracks (w : Walk) (opened : List Tag) : Prop where
  nodes_eq : w.openNodes.map (fun node => node.construct.isImage) = outermostImages opened
  images_eq : w.images = if inOpenImage opened then 1 else 0

namespace Tracks

variable {w : Walk} {opened : List Tag}

lemma inImage_eq (h : w.Tracks opened) : w.inImage = inOpenImage opened := by
  rw [inImage, h.images_eq]
  cases inOpenImage opened <;> rfl

lemma place_eq_image_iff (h : w.Tracks opened) :
    w.place = .image ↔ inOpenImage opened = true := by
  rw [Walk.place_eq_image_iff, h.images_eq]
  cases inOpenImage opened <;> simp

lemma withTable (h : w.Tracks opened) (s : TableState) : (w.withTable s).Tracks opened :=
  ⟨h.nodes_eq, h.images_eq⟩

lemma push (h : w.Tracks opened) {tag : Tag} {c : Construct}
    (hc : c.isImage = (tag.isImage && !inOpenImage opened)) :
    (w.push c).Tracks (tag :: opened) := by
  refine ⟨?_, ?_⟩
  · simp [Walk.push, outermostImages, h.nodes_eq, hc]
  · rw [inOpenImage_cons, Walk.push, hc, h.images_eq]
    cases tag.isImage <;> cases inOpenImage opened <;> rfl

lemma start (h : w.Tracks opened) (tag : Tag) : (w.start tag).Tracks (tag :: opened) := by
  obtain ⟨s, c, hstart, hc⟩ := w.start_eq_push tag
  rw [h.inImage_eq] at hc
  rw [hstart]
  exact (h.withTable s).push hc

lemma finish (h : w.Tracks opened) : w.finish.1.Tracks opened.tail := by
  obtain ⟨output, nodes, images, table⟩ := w
  have hnodes := h.nodes_eq
  have himages := h.images_eq
  cases opened with
  | nil =>
    obtain rfl : nodes = [] := List.map_eq_nil_iff.1 hnodes
    exact h
  | cons tag opened =>
    obtain ⟨node, rest, rfl, hnode, hrest⟩ := List.map_eq_cons_iff.1 hnodes
    refine ⟨hrest, ?_⟩
    obtain rfl : images = if tag.isImage || inOpenImage opened then 1 else 0 := himages
    rw [List.tail_cons, Walk.finish]
    simp only [hnode]
    cases tag.isImage <;> cases inOpenImage opened <;> simp

lemma append (h : w.Tracks opened) (t : Text) : (w.append t).Tracks opened := by
  obtain ⟨output, _ | ⟨node, rest⟩, images, table⟩ := w <;> exact ⟨h.nodes_eq, h.images_eq⟩

lemma deliver (h : w.Tracks opened) (r : Request) (t : Text) : (w.deliver r t).Tracks opened := by
  rcases w.deliver_cases r t with happend | ⟨header, content, rest, hopen, hheader⟩
  · rw [happend]
    exact h.append t
  · rw [hheader]
    refine ⟨?_, h.images_eq⟩
    rw [← h.nodes_eq, hopen]
    rfl

/-- Each event keeps the walk in step with the open tags. -/
lemma accept (h : w.Tracks opened) (e : Event) : (w.accept e).1.Tracks (e.opened opened) := by
  cases e with
  | start tag => exact h.start tag
  | finish => exact h.finish
  | leaf l => exact h

lemma run {b : Backend} {es : List Event} {v : Walk} (h : w.Tracks opened)
    (hrun : w.run b es = (v, .ok ())) : v.Tracks (openedBehind opened es) := by
  induction es generalizing w opened with
  | nil =>
    cases hrun
    exact h
  | cons e es ih =>
    rw [Walk.run] at hrun
    cases hanswer : (w.accept e).2.answer b with
    | error err =>
      rw [hanswer] at hrun
      cases hrun
    | ok t =>
      rw [hanswer] at hrun
      exact ih ((h.accept e).deliver _ t) hrun

lemma length_openNodes (h : w.Tracks opened) : w.openNodes.length = opened.length := by
  have hlength : ∀ opened, (outermostImages opened).length = opened.length := by
    intro opened
    induction opened with
    | nil => rfl
    | cons tag opened ih => rw [outermostImages, List.length_cons, List.length_cons, ih]
  rw [← hlength, ← h.nodes_eq, List.length_map]

end Tracks

/-- A new walk has nothing open. -/
lemma tracks_restart (w : Walk) : w.restart.Tracks [] := ⟨rfl, rfl⟩

end Walk

end WikiMarkup
