import WikiMarkup.Proofs.Render.Reuse
/-!
# Open images

A walk does not look for an image among its open constructs. It counts the open images, upwards when
one begins and downwards when one ends, and nothing but the order of these steps ties the count to
the constructs. They agree in every state that a walk can reach (`Walk.Reachable.imagesInStep`),
whatever the documents are and however the backend answers. There is never more than one image open,
for inside an image every construct is opened as one without markup, images too.

The steps keep one relation between the count and the open constructs, `ImagesOpen`. It has one
constructor for each way to open a construct, so the end of a construct is its inversion.
-/

namespace WikiMarkup

/-! ### States of a walk -/

/-- What a walk is about to do. -/
inductive Phase where
  /-- It begins the next document. -/
  | idle
  /-- It takes the next event. -/
  | rendering
  /-- It waits for the answer to a request. -/
  | asking (r : Request)

/-- The phase behind a walk over some events. -/
def Phase.after : Except RenderError Unit → Phase
  | .ok _ => .rendering
  | .error _ => .idle

namespace Walk

/-- The states in which a walk can be, from a new walk on. Each request may be answered by another
backend, so a backend that answers the same question differently later on is allowed for. -/
inductive Reachable : Phase → Walk → Prop
  | new : Reachable .idle {}
  | restart {w : Walk} (h : Reachable .idle w) : Reachable .rendering w.restart
  | accept {w : Walk} (h : Reachable .rendering w) (e : Event) :
      Reachable (.asking (w.accept e).2) (w.accept e).1
  | deliver {w : Walk} {r : Request} {t : Text} (h : Reachable (.asking r) w) (b : Backend)
      (ht : r.answer b = .ok t) : Reachable .rendering (w.deliver r t)
  | stop {w : Walk} {r : Request} {err : RenderError} (h : Reachable (.asking r) w) (b : Backend)
      (herr : r.answer b = .error err) : Reachable .idle w
  | done {w : Walk} (h : Reachable .rendering w) : Reachable .idle w

lemma Reachable.run {w : Walk} (h : Reachable .rendering w) (b : Backend) (es : List Event) :
    Reachable (.after (w.run b es).2) (w.run b es).1 := by
  induction es generalizing w with
  | nil => exact h
  | cons e es ih =>
    have hasked := h.accept e
    rw [Walk.run]
    cases hanswer : (w.accept e).2.answer b with
    | ok t => exact ih (hasked.deliver b hanswer)
    | error err => exact hasked.stop b hanswer

lemma Reachable.render {w : Walk} (h : Reachable .idle w) (b : Backend) (es : List Event) :
    Reachable .idle (w.render b es).2 := by
  have hrun := h.restart.run b es
  rw [Walk.render]
  rcases hresult : w.restart.run b es with ⟨v, err | u⟩
  · rw [hresult] at hrun
    exact hrun
  · rw [hresult] at hrun
    exact hrun.done

lemma Reachable.documents {w : Walk} (h : Reachable .idle w) (b : Backend)
    (documents : List (List Event)) :
    Reachable .idle (documents.foldl (fun w es => (w.render b es).2) w) := by
  induction documents generalizing w with
  | nil => exact h
  | cons es documents ih => exact ih (h.render b es)

/-- All that `Walk.run` comes through is reachable: the states between two events of a document
behind others, and those in which an error has ended it. -/
theorem reachable_run (b : Backend) (documents : List (List Event)) (es : List Event) :
    Reachable (.after ((afterDocuments b documents).restart.run b es).2)
      ((afterDocuments b documents).restart.run b es).1 :=
  (Reachable.new.documents b documents).restart.run b es

end Walk

/-! ### Images among the open constructs -/

/-- Among the open constructs, the innermost one first, are `n` images. An image is opened outside
of all others, and inside of it only constructs without markup are opened. -/
inductive ImagesOpen : (n : Nat) → (nodes : List Node) → Prop
  | nil : ImagesOpen 0 []
  | outside {node : Node} {nodes : List Node} (hnode : node.construct.isImage = false)
      (h : ImagesOpen 0 nodes) : ImagesOpen 0 (node :: nodes)
  | image {node : Node} {nodes : List Node} (hnode : node.construct.isImage = true)
      (h : ImagesOpen 0 nodes) : ImagesOpen 1 (node :: nodes)
  | inside {node : Node} {nodes : List Node} (hnode : node.construct = .unmarked)
      (h : ImagesOpen 1 nodes) : ImagesOpen 1 (node :: nodes)

lemma isImage_of_unmarked {node : Node} (h : node.construct = .unmarked) :
    node.construct.isImage = false := by
  rw [h]
  rfl

namespace ImagesOpen

variable {n : Nat} {nodes : List Node}

lemma eq_countP (h : ImagesOpen n nodes) :
    n = nodes.countP fun node => node.construct.isImage := by
  induction h with
  | nil => rfl
  | outside hnode _ ih => simp [hnode, ← ih]
  | image hnode _ ih => simp [hnode, ← ih]
  | inside hnode _ ih => simp [isImage_of_unmarked hnode, ← ih]

lemma le_one (h : ImagesOpen n nodes) : n ≤ 1 := by
  cases h with
  | nil | outside => exact Nat.zero_le 1
  | image | inside => exact Nat.le_refl 1

lemma pos_iff (h : ImagesOpen n nodes) :
    0 < n ↔ ∃ node ∈ nodes, node.construct.isImage = true := by
  rw [h.eq_countP, List.countP_pos_iff]

/-- All that stands inside an image is without markup. -/
lemma unmarked_of_inner {inner outer : List Node} {node : Node}
    (h : ImagesOpen n (inner ++ node :: outer)) (hnode : node.construct.isImage = true) :
    ∀ m ∈ inner, m.construct = .unmarked := by
  induction inner with
  | nil => simp
  | cons m inner ih =>
    have hmem : node ∈ inner ++ node :: outer := by simp
    have hnone : ¬ImagesOpen 0 (inner ++ node :: outer) := fun hzero =>
      absurd (hzero.pos_iff.2 ⟨node, hmem, hnode⟩) (Nat.lt_irrefl 0)
    -- What `m` stands in has an image, so `m` has been opened inside of it.
    cases h with
    | outside _ h | image _ h => exact absurd h hnone
    | inside hm h => exact List.forall_mem_cons.2 ⟨hm, ih h⟩

/-- The innermost construct may be exchanged for another one that is an image, or one without
markup, as before. -/
lemma exchange {node node' : Node} (h : ImagesOpen n (node :: nodes))
    (himage : node'.construct.isImage = node.construct.isImage)
    (hunmarked : node.construct = .unmarked → node'.construct = .unmarked) :
    ImagesOpen n (node' :: nodes) := by
  cases h with
  | outside hnode h => exact .outside (himage.trans hnode) h
  | image hnode h => exact .image (himage.trans hnode) h
  | inside hnode h => exact .inside (hunmarked hnode) h

end ImagesOpen

namespace Walk

/-! ### Steps of a walk -/

/-- Outside images any construct may be opened. -/
lemma imagesOpen_push {w : Walk} (h : ImagesOpen 0 w.openNodes) (hzero : w.images = 0)
    (c : Construct) : ImagesOpen (w.push c).images (w.push c).openNodes := by
  cases hc : c.isImage with
  | true =>
    have himage : ImagesOpen 1 (⟨c, []⟩ :: w.openNodes) := .image hc h
    simpa [push, hc, hzero] using himage
  | false =>
    have houtside : ImagesOpen 0 (⟨c, []⟩ :: w.openNodes) := .outside hc h
    simpa [push, hc, hzero] using houtside

section

variable {w : Walk} (h : ImagesOpen w.images w.openNodes)

include h

lemma imagesOpen_start (tag : Tag) : ImagesOpen (w.start tag).images (w.start tag).openNodes := by
  by_cases hzero : w.images = 0
  · obtain ⟨s, c, hstart, -⟩ := w.start_eq_push tag
    rw [hzero] at h
    rw [hstart]
    exact imagesOpen_push h hzero c
  · have hone : w.images = 1 := by
      have hle := h.le_one
      omega
    have hinside : ImagesOpen w.images (⟨.unmarked, []⟩ :: w.openNodes) := by
      rw [hone] at h ⊢
      exact .inside rfl h
    rw [start_of_image (w.place_eq_image_iff.2 hzero)]
    exact hinside

lemma imagesOpen_finish : ImagesOpen w.finish.1.images w.finish.1.openNodes := by
  obtain ⟨output, nodes, images, table⟩ := w
  change ImagesOpen images nodes at h
  cases h with
  | nil => exact .nil
  | outside hnode h => simpa [finish, hnode] using h
  | image hnode h => simpa [finish, hnode] using h
  | inside hnode h => simpa [finish, isImage_of_unmarked hnode] using h

lemma imagesOpen_append (t : Text) : ImagesOpen (w.append t).images (w.append t).openNodes := by
  obtain ⟨output, _ | ⟨node, nodes⟩, images, table⟩ := w
  · exact h
  · exact h.exchange rfl id

lemma imagesOpen_deliver (r : Request) (t : Text) :
    ImagesOpen (w.deliver r t).images (w.deliver r t).openNodes := by
  rcases w.deliver_cases r t with happend | ⟨header, content, nodes, hopen, hheader⟩
  · rw [happend]
    exact imagesOpen_append h t
  · -- A header row changes a table, which is neither an image nor without markup.
    rw [hheader]
    rw [hopen] at h
    exact h.exchange rfl nofun

lemma imagesOpen_accept (e : Event) :
    ImagesOpen (w.accept e).1.images (w.accept e).1.openNodes := by
  cases e with
  | start tag => exact imagesOpen_start h tag
  | finish => exact imagesOpen_finish h
  | leaf l => exact h

end

lemma Reachable.imagesOpen {phase : Phase} {w : Walk} (h : Reachable phase w) :
    ImagesOpen w.images w.openNodes := by
  induction h with
  | new | restart => exact .nil
  | accept _ e ih => exact imagesOpen_accept ih e
  | deliver _ _ _ ih => exact imagesOpen_deliver ih _ _
  | stop _ _ _ ih | done _ ih => exact ih

/-! ### The count and the constructs -/

/-- The count of open images tells what the open constructs are. -/
structure ImagesInStep (w : Walk) : Prop where
  images_eq : w.images = w.openNodes.countP fun node => node.construct.isImage
  images_le_one : w.images ≤ 1
  inImage_iff : w.inImage = true ↔ ∃ node ∈ w.openNodes, node.construct.isImage = true
  /-- All that is open inside an image is without markup. -/
  unmarked_of_inner : ∀ inner node outer, w.openNodes = inner ++ node :: outer →
    node.construct.isImage = true → ∀ m ∈ inner, m.construct = .unmarked
  /-- Nothing else is opened there. -/
  start_eq_push : ∀ node ∈ w.openNodes, node.construct.isImage = true →
    ∀ tag, w.start tag = w.push .unmarked
  /-- An image that ends has been counted: the count goes down by one, and not below zero. -/
  images_finish : ∀ node outer, w.openNodes = node :: outer → node.construct.isImage = true →
    w.finish.1.images + 1 = w.images

/-- **Open images.** In every state that a walk can reach, its count of open images is the number of
images among its open constructs. There is one at most, inside of it only constructs without markup
are open and only such are opened, and the count does not go below zero when it ends. So the walk
takes itself to be inside an image if and only if one is open. -/
theorem Reachable.imagesInStep {phase : Phase} {w : Walk} (h : Reachable phase w) :
    w.ImagesInStep := by
  have hopen := h.imagesOpen
  have hin : w.inImage = true ↔ ∃ node ∈ w.openNodes, node.construct.isImage = true := by
    rw [inImage, decide_eq_true_iff, hopen.pos_iff]
  refine ⟨hopen.eq_countP, hopen.le_one, hin, ?_, ?_, ?_⟩
  · intro inner node outer hnodes
    rw [hnodes] at hopen
    exact hopen.unmarked_of_inner
  · intro node hmem hnode tag
    have hpos : 0 < w.images := hopen.pos_iff.2 ⟨node, hmem, hnode⟩
    exact start_of_image (w.place_eq_image_iff.2 (Nat.ne_of_gt hpos)) tag
  · intro node outer hnodes hnode
    have hpos : 0 < w.images := hopen.pos_iff.2 ⟨node, by simp [hnodes], hnode⟩
    simp only [finish, hnodes, hnode, if_true]
    omega

/-- A link with an image, in that image strong text with another image, and then a cell. Only the
inner image ends. -/
def openImage : List Event :=
  [.start (.link "l".toList []), .start (.image "i".toList []), .start .strong,
    .start (.image "j".toList []), .leaf (.text "a".toList), .finish, .start .tableCell]

/-- The walk in the middle of an image, behind documents of which none was rendered to its end. -/
def walkInImage : Walk :=
  ((afterDocuments (Wiki.backend {}) brokenDocuments).restart.run (Wiki.backend {}) openImage).1

theorem imagesInStep_walkInImage :
    Reachable .rendering walkInImage ∧ walkInImage.images = 1 ∧
      walkInImage.openNodes.map Node.construct =
        [.unmarked, .unmarked, .image "i".toList none, .link "l".toList none] ∧
      walkInImage.ImagesInStep := by
  have h : Reachable .rendering walkInImage :=
    reachable_run (Wiki.backend {}) brokenDocuments openImage
  exact ⟨h, rfl, rfl, h.imagesInStep⟩

end Walk

end WikiMarkup
