import WikiMarkup.Proofs.Render.Questions
import WikiMarkup.Wiki.Backend
/-!
# Each option is for one construct

The parameters of code blocks are read when a code block ends, the replacement of newlines when a
paragraph ends, and the style of task lists at a box. A document without such a construct cannot
tell two values of the option apart (`render_eq_of_agreeOn`). Code blocks and paragraphs in the
description of an image do not count, since nothing is left of them but their text.

The wiki backend is not looked at but through its answers: which questions a document can lead to is
known from its events alone, and on each of these the two backends agree.
-/

namespace WikiMarkup

/-! ### What a document uses -/

/-- A code block starts outside images. -/
def HasCodeBlock (es : List Event) : Prop := ∃ info, .codeBlock info ∈ startsOutsideImages [] es

/-- A paragraph starts outside images. -/
def HasParagraph (es : List Event) : Prop := .paragraph ∈ startsOutsideImages [] es

/-- There is the box of a task list item, be it in an image or not. -/
def HasTaskMarker (es : List Event) : Prop := ∃ checked, .leaf (.taskMarker checked) ∈ es

namespace Call.IsAskedBy

variable {es : List Event}

lemma hasCodeBlock {code : Text} {hint : Option Text}
    (h : (Call.codeBlock code hint).IsAskedBy es) : HasCodeBlock es := by
  rcases h with ⟨tag, htag, hasks⟩ | ⟨l, -, hl⟩
  · cases tag with
    | codeBlock info => exact ⟨info, htag⟩
    | _ => simp [Tag.Asks, Tag.call?] at hasks
  · cases l <;> cases hl

lemma hasParagraph {content : Text} (h : (Call.paragraph content).IsAskedBy es) :
    HasParagraph es := by
  rcases h with ⟨tag, htag, hasks⟩ | ⟨l, -, hl⟩
  · cases tag with
    | paragraph => exact htag
    | _ => simp [Tag.Asks, Tag.call?] at hasks
  · cases l <;> cases hl

lemma hasTaskMarker {checked : Bool} (h : (Call.checkbox checked).IsAskedBy es) :
    HasTaskMarker es := by
  rcases h with ⟨tag, -, hasks⟩ | ⟨l, hmem, hl⟩
  · cases tag <;> simp [Tag.Asks, Tag.call?] at hasks
  · cases l with
    | taskMarker checked' => exact ⟨checked', hmem⟩
    | _ => cases hl

end Call.IsAskedBy

/-- The options agree as far as the document uses them. Flags agree that have the same value for
every code block, be they constant or computed. -/
structure Options.AgreeOn (o o' : Options) (es : List Event) : Prop where
  theme_eq : HasCodeBlock es → o'.theme = o.theme
  lineNumbers_eq : HasCodeBlock es → o'.lineNumbers.resolve = o.lineNumbers.resolve
  collapse_eq : HasCodeBlock es → o'.collapse.resolve = o.collapse.resolve
  newlines_eq : HasParagraph es → o'.newlines.replacement? = o.newlines.replacement?
  taskList_eq : HasTaskMarker es → o'.taskList = o.taskList

namespace Wiki

variable {o o' : Options} {es : List Event}

/-- Two wiki backends give the same answer to whatever the document may ask. -/
lemma answer_eq_of_agreeOn (h : o.AgreeOn o' es) {c : Call} (hc : c.IsAskedBy es) :
    (backend o').answer c = (backend o).answer c := by
  cases c with
  | paragraph content =>
    have hparagraph : paragraph o'.newlines content = paragraph o.newlines content := by
      rw [paragraph, paragraph, h.newlines_eq hc.hasParagraph]
    exact congrArg Except.ok hparagraph
  | codeBlock code hint =>
    have hused := hc.hasCodeBlock
    have hparameters : codeParameters o' = codeParameters o := by
      funext code language
      rw [codeParameters, codeParameters, h.theme_eq hused, h.lineNumbers_eq hused,
        h.collapse_eq hused]
    have hheader : codeHeader o' = codeHeader o := by
      delta codeHeader
      rw [hparameters]
    have hcode : codeBlock o' code hint = codeBlock o code hint := by
      rw [codeBlock, codeBlock, hheader]
    exact congrArg Except.ok hcode
  | checkbox checked =>
    have hstyle := h.taskList_eq hc.hasTaskMarker
    exact congrArg (fun style => Except.ok (checkbox style checked)) hstyle
  | _ => rfl

/-- **Each option affects its own construct only.** Two options that differ in nothing that the
events use render them alike, balanced or not: the document or the error is the same, and so are the
walk for the next document and the questions with their answers. -/
theorem render_eq_of_agreeOn (h : o.AgreeOn o' es) (w : Walk) :
    w.render (backend o') es = w.render (backend o) es ∧
      w.restart.calls (backend o') es = w.restart.calls (backend o) es :=
  Walk.render_congr fun _ hq => answer_eq_of_agreeOn h (Walk.isAskedBy_of_mem_calls hq)

/-- A code block, and an image with a paragraph over two lines in its description. Its last end
finds nothing open. -/
def codeAndImage : List Event :=
  [.start (.codeBlock none), .leaf (.text "x\n".toList), .finish,
    .start (.image "i".toList []), .start .paragraph, .leaf (.text "a\nb".toList), .finish, .finish,
    .finish]

/-- Options with a computed flag, with newlines replaced and without boxes. -/
def computedOptions : Options where
  collapse := .computed fun code _ => 0 ≤ code.length
  newlines := .space
  taskList := .omit

/-- A flag that is computed for each block may stand for a constant one. The replacement of newlines
and the style of boxes may differ, since the paragraph stands in an image and there is no box. -/
theorem render_codeAndImage :
    Options.AgreeOn { collapse := .constant true } computedOptions codeAndImage ∧
      (Walk.render (backend computedOptions) {} codeAndImage).1 =
        .ok ("\x7bcode:collapse=true|language=none|linenumbers=false|theme=Confluence\x7d\n".toList
          ++ "x\n\x7bcode\x7d\n\n!i|alt=a\nb!".toList) := by
  have hagree : Options.AgreeOn { collapse := .constant true } computedOptions codeAndImage := by
    refine ⟨fun _ => rfl, fun _ => rfl, fun _ => ?_, fun hparagraph => ?_, fun hbox => ?_⟩
    · funext code language
      exact decide_eq_true (Nat.zero_le code.length)
    · have hstarts : startsOutsideImages [] codeAndImage =
          [.codeBlock none, .image "i".toList []] := rfl
      rw [HasParagraph, hstarts] at hparagraph
      simp at hparagraph
    · obtain ⟨checked, hmem⟩ := hbox
      simp [codeAndImage] at hmem
  refine ⟨hagree, (congrArg Prod.fst (render_eq_of_agreeOn hagree {}).1).trans ?_⟩
  rfl

end Wiki

end WikiMarkup
