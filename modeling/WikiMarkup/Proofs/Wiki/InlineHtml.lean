import WikiMarkup.Proofs.Text.Infix
import WikiMarkup.Proofs.Wiki.Content
/-!
# References in HTML between other text

Text and code arrive decoded, and only pieces of HTML between other text still carry character
references. These are decoded where they stand, once, and nothing else ever is: a document is
rendered as if its pieces of HTML had been decoded beforehand, by a backend that decodes nothing
(`render_map_decoded`).

The first half of this does not depend on what decoding is. Any change to the pieces of HTML may be
made by the backend, when it is asked for one of them, or in the events beforehand, and the two
walks go through the same states and get the same answers. The second half is that the backend
without decoding shows what it is handed: texts that come from the document stand in its answer as
they are, and whatever is laid out anew loses nothing but white space. A decoded reference would be
missing.
-/

namespace WikiMarkup

/-! ### Changing the HTML between other text -/

section

variable (f : Text → Text)

/-- An event with another piece of HTML, if it is one between other text. -/
def Event.mapInlineHtml : Event → Event
  | .leaf (.inlineHtml t) => .leaf (.inlineHtml (f t))
  | e => e

/-- A question about another piece of HTML, if it is about one between other text. -/
def Call.mapInlineHtml : Call → Call
  | .inlineHtml t => .inlineHtml (f t)
  | c => c

/-- A request with another question. -/
def Request.mapInlineHtml : Request → Request
  | .call c => .call (c.mapInlineHtml f)
  | r => r

/-- A backend that first makes another piece of HTML of each one between other text. -/
def Backend.mapInlineHtml (b : Backend) : Backend :=
  { b with inlineHtml := fun t => b.inlineHtml (f t) }

namespace Walk

lemma closing_mapInlineHtml (node : Node) : (closing node).mapInlineHtml f = closing node := by
  obtain ⟨c, content⟩ := node
  cases c <;> rfl

lemma accept_leaf_mapInlineHtml (w : Walk) (l : Leaf) :
    w.accept ((Event.leaf l).mapInlineHtml f) = (w, (w.requestOf l).mapInlineHtml f) := by
  cases l with
  | text t =>
    change (w, w.requestOf (.text t)) = _
    rw [requestOf]
    split <;> rfl
  | code t =>
    change (w, w.requestOf (.code t)) = _
    rw [requestOf]
    split <;> rfl
  | _ => rfl

/-- Another piece of HTML leads to the same state, and to the question about it. -/
lemma accept_mapInlineHtml (w : Walk) (e : Event) :
    w.accept (e.mapInlineHtml f) = ((w.accept e).1, (w.accept e).2.mapInlineHtml f) := by
  cases e with
  | start tag => rfl
  | finish =>
    change w.finish = (w.finish.1, w.finish.2.mapInlineHtml f)
    rw [finish]
    cases hopen : w.openNodes with
    | nil => rfl
    | cons node rest => simp only [closing_mapInlineHtml]
  | leaf l => exact w.accept_leaf_mapInlineHtml f l

lemma answer_mapInlineHtml (b : Backend) (r : Request) :
    (r.mapInlineHtml f).answer b = r.answer (b.mapInlineHtml f) := by
  cases r with
  | call c => cases c <;> rfl
  | _ => rfl

lemma deliver_mapInlineHtml (w : Walk) (r : Request) (t : Text) :
    w.deliver (r.mapInlineHtml f) t = w.deliver r t := by
  cases r <;> rfl

lemma record_mapInlineHtml (b : Backend) (r : Request) :
    (r.mapInlineHtml f).record b =
      (r.record (b.mapInlineHtml f)).map (Prod.map (Call.mapInlineHtml f) id) := by
  cases r with
  | call c => cases c <;> rfl
  | _ => rfl

/-- It makes no difference to a walk whether the HTML is changed in the events or by the backend. -/
lemma run_mapInlineHtml (b : Backend) (w : Walk) (es : List Event) :
    w.run b (es.map (Event.mapInlineHtml f)) = w.run (b.mapInlineHtml f) es := by
  induction es generalizing w with
  | nil => rfl
  | cons e es ih =>
    rw [List.map_cons, run, run, accept_mapInlineHtml]
    dsimp only
    rw [answer_mapInlineHtml]
    cases (w.accept e).2.answer (b.mapInlineHtml f) with
    | error err => rfl
    | ok t =>
      dsimp only
      rw [deliver_mapInlineHtml]
      exact ih _

lemma calls_mapInlineHtml (b : Backend) (w : Walk) (es : List Event) :
    w.calls b (es.map (Event.mapInlineHtml f)) =
      (w.calls (b.mapInlineHtml f) es).map (Prod.map (Call.mapInlineHtml f) id) := by
  induction es generalizing w with
  | nil => rfl
  | cons e es ih =>
    rw [List.map_cons, calls_cons, calls_cons, accept_mapInlineHtml, List.map_append]
    dsimp only
    rw [answer_mapInlineHtml, record_mapInlineHtml]
    cases (w.accept e).2.answer (b.mapInlineHtml f) with
    | error err => rfl
    | ok t =>
      dsimp only
      rw [deliver_mapInlineHtml, ih]

end Walk

end

/-! ### What is shown as it is -/

/-- The texts of a question that are to be shown as they are. A link without content shows its
title, and an image leaves out blank attributes. Content that is laid out anew is not among these
texts. -/
def Call.verbatim : Call → List Text
  | .text t | .html t | .inlineHtml t | .codeSpan t | .codeBlock t _ | .heading t _ | .strong t
  | .emphasis t | .strikethrough t | .listItem t | .tableRow t | .tableCell t _ _ => [t]
  | .link href title content => [href, if content.isEmpty then title.getD [] else content]
  | .image href title alt => href :: (alt :: title.toList).filter fun t => !t.isBlank
  | .paragraph _ | .blockQuote _ | .list _ _ _ | .table _ _ | .lineBreak | .horizontalRule
  | .checkbox _ | .softBreak => []

/-- The backend shows those texts in one piece. -/
def Backend.ShowsVerbatim (b : Backend) : Prop :=
  ∀ (c : Call) (out : Text), b.answer c = .ok out → ∀ t ∈ c.verbatim, t <:+: out

namespace Wiki

lemma infix_joinParameters {separator key value : Text} {parameters : List (Text × Text)}
    (h : (key, value) ∈ parameters) : value <:+: joinParameters separator parameters := by
  have hmem : key ++ ['='] ++ value ∈ parameters.map fun p => p.1 ++ ['='] ++ p.2 :=
    List.mem_map.2 ⟨(key, value), h, rfl⟩
  exact (List.suffix_append _ value).isInfix.trans (Text.infix_join_of_mem separator hmem)

lemma infix_link (href : Text) (title : Option Text) (content : Text) :
    ∀ t ∈ (Call.link href title content).verbatim, t <:+: link href title content := by
  have hcases : (∃ shown, (if content.isEmpty then title.getD [] else content) = shown ∧
      link href title content = "[".toList ++ shown ++ "|".toList ++ href ++ "]".toList) ∨
      ((if content.isEmpty then title.getD [] else content) = [] ∧
        link href title content = "[".toList ++ href ++ "]".toList) := by
    cases content with
    | cons c t => exact .inl ⟨c :: t, rfl, rfl⟩
    | nil =>
      rcases title with _ | _ | ⟨c, t⟩
      · exact .inr ⟨rfl, rfl⟩
      · exact .inr ⟨rfl, rfl⟩
      · exact .inl ⟨c :: t, rfl, rfl⟩
  intro t ht
  rw [Call.verbatim, List.mem_pair] at ht
  rcases hcases with ⟨shown, hshown, hlink⟩ | ⟨hshown, hlink⟩
  · rw [hshown] at ht
    rw [hlink]
    rcases ht with rfl | rfl
    · exact List.infix_append _ _ _
    · rw [List.append_assoc, List.append_assoc]
      exact List.infix_append _ _ _
  · rw [hshown] at ht
    rw [hlink]
    rcases ht with rfl | rfl
    · exact List.infix_append _ _ _
    · exact List.nil_infix

lemma mem_imageParameter {key value : Text} {v : Option Text} (hv : value ∈ v)
    (hblank : value.isBlank = false) : (key, value) ∈ imageParameter key v := by
  obtain rfl := Option.mem_def.1 hv
  simp [imageParameter, hblank]

lemma infix_image (href : Text) (title : Option Text) (alt : Text) :
    ∀ t ∈ (Call.image href title alt).verbatim, t <:+: image href title alt := by
  intro t ht
  rw [image, imageParameters_eq]
  rcases List.mem_cons.1 ht with rfl | ht
  · split
    · exact List.infix_append _ _ _
    · rw [List.append_assoc, List.append_assoc]
      exact List.infix_append _ _ _
  · obtain ⟨ht, hblank⟩ := List.mem_filter.1 ht
    have hparameter : ∃ key, (key, t) ∈ imageParameter "alt".toList (some alt) ++
        imageParameter "title".toList title := by
      rcases List.mem_cons.1 ht with rfl | ht
      · exact ⟨_, List.mem_append_left _ (mem_imageParameter rfl (by simpa using hblank))⟩
      · exact ⟨_, List.mem_append_right _
          (mem_imageParameter (Option.mem_toList.1 ht) (by simpa using hblank))⟩
    obtain ⟨key, hkey⟩ := hparameter
    split
    · rename_i hnone
      rw [hnone] at hkey
      cases hkey
    · exact (infix_joinParameters hkey).trans (List.infix_append _ _ _)

lemma infix_tableRow {cells out : Text} (h : tableRow cells = .ok out) : cells <:+: out := by
  rw [tableRow] at h
  split at h
  · obtain rfl := Except.ok.inj h
    rw [List.append_assoc]
    exact (List.prefix_append _ _).isInfix
  · cases h

/-- Without decoding every text of the document that is shown as it is reaches the output. -/
lemma plainBackend_showsVerbatim (o : Options) : (plainBackend o).ShowsVerbatim := by
  intro c out hout
  cases c with
  | tableRow t => exact fun u hu => List.mem_singleton.1 hu ▸ infix_tableRow hout
  | link href title t => exact Except.ok.inj hout ▸ infix_link href title t
  | image href title alt => exact Except.ok.inj hout ▸ infix_image href title alt
  | text t | html t | inlineHtml t =>
    intro u hu
    rw [List.mem_singleton.1 hu, ← Except.ok.inj hout]
    exact List.infix_rfl
  | codeSpan t | codeBlock t | heading t | strong t | emphasis t | strikethrough t =>
    intro u hu
    rw [List.mem_singleton.1 hu, ← Except.ok.inj hout]
    exact List.infix_append _ _ _
  | listItem t =>
    intro u hu
    rw [List.mem_singleton.1 hu, ← Except.ok.inj hout]
    exact (List.prefix_append _ _).isInfix
  | tableCell t header alignment =>
    intro u hu
    rw [List.mem_singleton.1 hu, ← Except.ok.inj hout]
    cases t with
    | nil => exact List.nil_infix
    | cons c t => exact (List.suffix_append _ _).isInfix
  | _ => exact fun u hu => absurd hu List.not_mem_nil

lemma plainBackend_keepsContent (o : Options) : (plainBackend o).KeepsContent := by
  intro c out hout
  cases c with
  | inlineHtml t => exact List.nil_sublist _
  | _ => exact backend_keepsContent o _ out hout

/-- **References are decoded once, and only in HTML between other text.** For all options and in any
sequence of events, whatever the walk has rendered before: the result is the same, and so is the
walk for the next document, as if the pieces of HTML between other text had been decoded beforehand
and the backend had none of its own to decode. It is asked the same questions in either case, but
for these pieces, and gives the same answers. The backend without decoding shows the texts of the
document as they are, and loses nothing of what it lays out. -/
theorem render_map_decoded (options : Options) (w : Walk) (es : List Event) :
    w.render (plainBackend options)
        (es.map (Event.mapInlineHtml CharacterReference.unescape)) =
        w.render (backend options) es ∧
      w.restart.calls (plainBackend options)
          (es.map (Event.mapInlineHtml CharacterReference.unescape)) =
        (w.restart.calls (backend options) es).map
          (Prod.map (Call.mapInlineHtml CharacterReference.unescape) id) ∧
      (plainBackend options).ShowsVerbatim ∧ (plainBackend options).KeepsContent := by
  have hbackend : (plainBackend options).mapInlineHtml CharacterReference.unescape =
      backend options := rfl
  refine ⟨?_, ?_, plainBackend_showsVerbatim options, plainBackend_keepsContent options⟩
  · rw [Walk.render, Walk.render, Walk.run_mapInlineHtml, hbackend]
  · rw [Walk.calls_mapInlineHtml, hbackend]

/-- What has been decoded is not decoded again, not even in the description of an image. -/
example : (backend {}).render [.start .strong, .start (.image "i".toList "&amp;".toList),
    .leaf (.inlineHtml "&amp;lt;".toList), .leaf (.text "&lt;".toList), .finish, .finish] =
      .ok "*!i|alt=&lt;&lt;,title=&amp;!*".toList := rfl

end Wiki

end WikiMarkup
