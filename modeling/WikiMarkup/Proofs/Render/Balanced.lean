import WikiMarkup.Proofs.Render.Evaluation
/-!
# Balanced events

The events of a list of trees are balanced. Whatever the trees are, and even if the tables among
them are out of shape, a walk over balanced events that ends without an error only adds to the
innermost open construct. What is open below is left as it was (`Walk.adds_eventsOfList`).
-/

namespace WikiMarkup

namespace Walk

/-- Adds to the innermost open construct: `header` to the header of a table, if it is one, and `t`
to what it holds. -/
def grow (w : Walk) (header t : Text) : Walk :=
  match w.openNodes with
  | ⟨.table h, content⟩ :: rest =>
    { w with openNodes := ⟨.table (h ++ header), content ++ t⟩ :: rest }
  | _ => w.append t

/-! ### What is added -/

lemma append_eq_grow (w : Walk) (t : Text) : w.append t = w.grow [] t := by
  obtain ⟨output, _ | ⟨⟨c, content⟩, rest⟩, images, table⟩ := w
  · rfl
  · cases c <;> simp [grow, append]

lemma appendHeader_eq_grow (w : Walk) (t : Text) :
    w.appendHeader t = w.grow t [] ∨ w.appendHeader t = w.grow [] t := by
  obtain ⟨output, _ | ⟨⟨c, content⟩, rest⟩, images, table⟩ := w
  · exact .inr rfl
  · cases c with
    | table h => exact .inl (by simp [grow, appendHeader])
    | _ => exact .inr rfl

lemma exists_deliver_eq_grow (w : Walk) (r : Request) (t : Text) :
    ∃ header u, w.deliver r t = w.grow header u := by
  cases r with
  | headerRow cells =>
    rcases w.appendHeader_eq_grow t with h | h
    · exact ⟨t, [], h⟩
    · exact ⟨[], t, h⟩
  | _ => exact ⟨[], t, w.append_eq_grow t⟩

lemma grow_grow (w : Walk) (header header' t t' : Text) :
    (w.grow header t).grow header' t' = w.grow (header ++ header') (t ++ t') := by
  obtain ⟨output, _ | ⟨⟨c, content⟩, rest⟩, images, table⟩ := w
  · simp [grow, append]
  · cases c <;> simp [grow, append]

lemma grow_withTable (w : Walk) (s : TableState) (header t : Text) :
    (w.withTable s).grow header t = (w.grow header t).withTable s := by
  obtain ⟨output, _ | ⟨⟨c, content⟩, rest⟩, images, table⟩ := w
  · rfl
  · cases c <;> rfl

@[simp] lemma place_grow (w : Walk) (header t : Text) : (w.grow header t).place = w.place := by
  obtain ⟨output, _ | ⟨⟨c, content⟩, rest⟩, images, table⟩ := w
  · rfl
  · cases c <;> rfl

/-- A construct that has just been opened grows like any text, but for the header of a table. -/
lemma exists_push_grow (w : Walk) (c : Construct) (header t : Text) :
    ∃ c', (w.push c).grow header t = (w.push c').append t := by
  cases c with
  | table h => exact ⟨.table (h ++ header), rfl⟩
  | _ => exact ⟨_, rfl⟩

/-! ### Walks that add -/

/-- From `w` on, unless an error ends the walk, the events `es` add an output with the property `P`
to the innermost open construct. Nothing else of the walk changes but the place inside a table. -/
def Adds (b : Backend) (w : Walk) (es : List Event) (P : Text → Prop) : Prop :=
  ∀ rest w', w.traverse b.answer (es ++ rest) = .ok w' →
    ∃ header t s, P t ∧ ((w.grow header t).withTable s).traverse b.answer rest = .ok w'

namespace Adds

variable {b : Backend} {w : Walk} {es es' : List Event} {P Q : Text → Prop}

lemma append (h : w.Adds b es P)
    (h' : ∀ header t s, ((w.grow header t).withTable s).Adds b es' Q) :
    w.Adds b (es ++ es') fun u => ∃ t t', P t ∧ Q t' ∧ u = t ++ t' := by
  intro rest w' hrun
  rw [List.append_assoc] at hrun
  obtain ⟨header, t, s, ht, hrun⟩ := h _ w' hrun
  obtain ⟨header', t', s', ht', hrun⟩ := h' header t s rest w' hrun
  refine ⟨header ++ header', t ++ t', s', ⟨t, t', ht, ht', rfl⟩, ?_⟩
  rwa [grow_withTable, grow_grow, withTable_withTable] at hrun

lemma mono (h : w.Adds b es P) (hPQ : ∀ t, P t → Q t) : w.Adds b es Q := by
  intro rest w' hrun
  obtain ⟨header, t, s, ht, hrun⟩ := h rest w' hrun
  exact ⟨header, t, s, hPQ t ht, hrun⟩

end Adds

variable {b : Backend}

lemma adds_nil (w : Walk) : w.Adds b [] fun _ => True := by
  intro rest w' hrun
  refine ⟨[], [], w.table, trivial, ?_⟩
  rw [← append_eq_grow, append_nil, withTable_table]
  exact hrun

lemma adds_leaf (w : Walk) (l : Leaf) : w.Adds b [.leaf l] fun _ => True := by
  intro rest w' hrun
  rw [List.singleton_append, traverse_leaf] at hrun
  cases ht : l.meaning b.answer w.place with
  | error err =>
    rw [ht] at hrun
    cases hrun
  | ok t =>
    rw [ht] at hrun
    refine ⟨[], t, (w.append t).table, trivial, ?_⟩
    rw [← append_eq_grow, withTable_table]
    exact hrun

/-- A construct adds whatever the backend answers for it, to the header of a table or elsewhere. -/
lemma adds_node {tag : Tag} {es : List Event} (h : ∀ w : Walk, w.Adds b es fun _ => True)
    (w : Walk) : w.Adds b (.start tag :: (es ++ [.finish])) fun _ => True := by
  intro rest w' hrun
  obtain ⟨s₀, c, hstart, -⟩ := w.start_eq_push tag
  rw [List.cons_append, traverse_start, hstart, List.append_assoc] at hrun
  obtain ⟨header, content, s, -, hrun⟩ := h _ _ w' hrun
  obtain ⟨c', hgrow⟩ := (w.withTable s₀).exists_push_grow c header content
  rw [hgrow, List.singleton_append, traverse_finish] at hrun
  cases ht : (closing ⟨c', content⟩).piece b.answer with
  | error err =>
    rw [ht] at hrun
    cases hrun
  | ok t =>
    rw [ht] at hrun
    obtain ⟨header', u, hdeliver⟩ := exists_deliver_eq_grow
      ((w.withTable s₀).withTable (tableAfter s c')) (closing ⟨c', content⟩) t
    refine ⟨header', u, tableAfter s c', trivial, ?_⟩
    rw [← grow_withTable, ← withTable_withTable w s₀, ← hdeliver]
    exact hrun

lemma adds_list {ts : List Tree} (h : ∀ t ∈ ts, ∀ w : Walk, w.Adds b t.events fun _ => True)
    (w : Walk) : w.Adds b (Tree.eventsOfList ts) fun _ => True := by
  induction ts generalizing w with
  | nil => exact adds_nil w
  | cons t ts ih =>
    have hrest := ih fun u hu => h u (by simp [hu])
    rw [Tree.eventsOfList]
    exact ((h t (by simp) w).append fun _ _ _ => hrest _).mono fun _ _ => trivial

lemma adds_events (t : Tree) (w : Walk) : w.Adds b t.events fun _ => True := by
  induction t using Tree.inductionOnChildren generalizing w with
  | leaf l =>
    rw [Tree.events]
    exact adds_leaf w l
  | node tag ts ih =>
    rw [Tree.events]
    exact adds_node (adds_list ih) w

/-- The events of any trees only add to the construct that they stand in. -/
lemma adds_eventsOfList (ts : List Tree) (w : Walk) :
    w.Adds b (Tree.eventsOfList ts) fun _ => True :=
  adds_list (fun t _ => adds_events t) w

/-! ### One construct -/

/-- Outside images a construct that is no part of a table hands on what the backend answers for it,
asked with all that it holds. -/
lemma traverse_node_of_flow {w w' : Walk} (hw : w.place ≠ .image) {tag : Tag}
    (htag : tag.isTablePart = false) {es rest : List Event} {P : Text → Prop}
    (h : ∀ c, w.start tag = w.push c → (w.push c).Adds b es P)
    (hrun : w.traverse b.answer (.start tag :: (es ++ [.finish]) ++ rest) = .ok w') :
    ∃ content t s, P content ∧ tag.meaning b.answer content = .ok t ∧
      ((w.append t).withTable s).traverse b.answer rest = .ok w' := by
  obtain ⟨c, hstart, -, hhead, htable, -, hclosing⟩ := start_of_flow b.answer hw htag
  have hgrow : ∀ header t, (w.push c).grow header t = (w.push c).append t := by
    intro header t
    cases c with
    | table h => exact absurd rfl (htable h)
    | _ => rfl
  have hdeliver : ∀ (v : Walk) content t, v.deliver (closing ⟨c, content⟩) t = v.append t := by
    intro v content t
    cases c with
    | tableHead => exact absurd rfl hhead
    | _ => rfl
  rw [List.cons_append, traverse_start, hstart, List.append_assoc] at hrun
  obtain ⟨header, content, s, hcontent, hrun⟩ := h c hstart _ w' hrun
  rw [hgrow, List.singleton_append, traverse_finish, hclosing] at hrun
  cases ht : tag.meaning b.answer content with
  | error err =>
    rw [ht] at hrun
    cases hrun
  | ok t =>
    rw [ht] at hrun
    refine ⟨content, t, tableAfter s c, hcontent, ht, ?_⟩
    rw [← append_withTable, ← hdeliver _ content]
    exact hrun

/-- A walk over such a construct that ends without an error has added the answer of the backend, and
nothing else but the place inside a table has changed. -/
lemma exists_run_node_eq {w w' : Walk} (hw : w.inImage = false) {tag : Tag}
    (htag : tag.isTablePart = false) {ts : List Tree}
    (hrun : w.run b (Tree.node tag ts).events = (w', .ok ())) :
    ∃ content t s, tag.meaning b.answer content = .ok t ∧ w' = (w.append t).withTable s := by
  have hzero : w.images = 0 := by simpa [inImage] using hw
  have hplace : w.place ≠ .image := by
    rw [Ne, place_eq_image_iff, not_not]
    exact hzero
  have htraverse : w.traverse b.answer ((Tree.node tag ts).events ++ []) = .ok w' := by
    rw [List.append_nil]
    exact traverse_answer_eq_ok_iff.2 hrun
  rw [Tree.events] at htraverse
  obtain ⟨content, t, s, -, ht, hend⟩ :=
    traverse_node_of_flow hplace htag (fun _ _ => adds_eventsOfList ts _) htraverse
  exact ⟨content, t, s, ht, (Except.ok.inj hend).symm⟩

end Walk

end WikiMarkup
