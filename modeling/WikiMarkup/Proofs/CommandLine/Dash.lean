import WikiMarkup.Files.Component
import WikiMarkup.Proofs.Text.Pieces
/-!
# Names that are a dash

A dash in place of the name of a document stands for the standard input. Names are compared by their
components, so the dash may have slashes behind it, and single dots between these; it must not have
anything before it, and nothing that leads elsewhere behind it.
-/

namespace WikiMarkup

/-- Slashes, each with nothing or a single dot behind it. -/
inductive LeadsNowhere : Text → Prop
  | nil : LeadsNowhere []
  | slash {t : Text} (h : LeadsNowhere t) : LeadsNowhere ('/' :: t)
  | slashDot {t : Text} (h : LeadsNowhere t) : LeadsNowhere ('/' :: '.' :: t)

/-- A dash, behind which nothing leads elsewhere. -/
def IsDash (name : String) : Prop := ∃ behind, name.toList = '-' :: behind ∧ LeadsNowhere behind

/-- A part of a name stands for no component. -/
def IsIdle (part : String) : Prop := part = "" ∨ part = "."

lemma Component.ofPart?_eq_none_iff {part : String} :
    Component.ofPart? part = none ↔ IsIdle part := by
  unfold Component.ofPart? IsIdle
  split_ifs <;> simp_all

lemma Component.eq_of_ofPart?_eq_entry {part name : String}
    (h : Component.ofPart? part = some (.entry name)) : part = name := by
  unfold Component.ofPart? at h
  split_ifs at h
  · cases h
  · exact Component.entry.inj (Option.some.inj h)

/-! ### Parts and slashes -/

lemma join_cons_eq_append_flatMap (sep p : Text) (ps : List Text) :
    Text.join sep (p :: ps) = p ++ ps.flatMap fun q => sep ++ q := by
  induction ps generalizing p with
  | nil => simp [Text.join]
  | cons q ps ih => rw [Text.join, ih, List.flatMap_cons, List.append_assoc, List.append_assoc]

/-- A name is its first part, and then a slash and a part for each further part. -/
lemma exists_parts_eq (name : String) :
    ∃ p ps, FileTree.parts name = p :: ps ∧
      name.toList = p.toList ++ ps.flatMap fun q => '/' :: q.toList := by
  obtain ⟨p, ps, hsplit⟩ := List.exists_cons_of_ne_nil (Text.split_ne_nil '/' name.toList)
  refine ⟨String.ofList p, ps.map String.ofList, by rw [FileTree.parts, hsplit, List.map_cons], ?_⟩
  have hjoin := Text.join_split '/' name.toList
  rw [hsplit, join_cons_eq_append_flatMap] at hjoin
  simpa [List.flatMap_map] using hjoin.symm

lemma leadsNowhere_flatMap {ps : List String} (h : ∀ p ∈ ps, IsIdle p) :
    LeadsNowhere (ps.flatMap fun p => '/' :: p.toList) := by
  induction ps with
  | nil => exact .nil
  | cons p ps ih =>
    obtain ⟨hp, hps⟩ := List.forall_mem_cons.1 h
    rcases hp with rfl | rfl
    · exact .slash (ih hps)
    · exact .slashDot (ih hps)

lemma LeadsNowhere.exists_split_eq {t : Text} (h : LeadsNowhere t) :
    ∃ ps, Text.split '/' t = [] :: ps ∧ ∀ p ∈ ps, IsIdle (String.ofList p) := by
  -- The first part is the one before the first slash, so each slash puts an idle part behind it.
  induction h with
  | nil => exact ⟨[], rfl, by simp⟩
  | @slash t _ ih =>
    obtain ⟨ps, hsplit, hps⟩ := ih
    refine ⟨[] :: ps, by rw [Text.split, if_pos rfl, hsplit], ?_⟩
    exact List.forall_mem_cons.2 ⟨.inl rfl, hps⟩
  | @slashDot t _ ih =>
    obtain ⟨ps, hsplit, hps⟩ := ih
    have hdot : Text.split '/' ('.' :: t) = ['.'] :: ps := by
      rw [Text.split, if_neg (by decide), hsplit]
    refine ⟨['.'] :: ps, by rw [Text.split, if_pos rfl, hdot], ?_⟩
    exact List.forall_mem_cons.2 ⟨.inr rfl, hps⟩

lemma IsDash.exists_parts_eq {name : String} (h : IsDash name) :
    ∃ ps, FileTree.parts name = "-" :: ps ∧ ∀ p ∈ ps, IsIdle p := by
  obtain ⟨behind, hname, hbehind⟩ := h
  obtain ⟨ps, hsplit, hps⟩ := hbehind.exists_split_eq
  refine ⟨ps.map String.ofList, ?_, by simpa using hps⟩
  rw [FileTree.parts, hname, Text.split, if_neg (by decide), hsplit]
  rfl

/-! ### The components of a dash -/

lemma IsDash.components_eq {name : String} (h : IsDash name) : components name = [.entry "-"] := by
  obtain ⟨ps, hparts, hps⟩ := h.exists_parts_eq
  obtain ⟨behind, hname, -⟩ := h
  have hidle : ps.filterMap Component.ofPart? = [] :=
    List.filterMap_eq_nil_iff.2 fun p hp => Component.ofPart?_eq_none_iff.2 (hps p hp)
  have hentries : (FileTree.parts name).filterMap Component.ofPart? = [.entry "-"] := by
    rw [hparts, List.filterMap_cons, hidle]
    rfl
  have hroot : name.toList.head? ≠ some '/' := by simp [hname]
  have hhere : (FileTree.parts name).head? ≠ some "." := by simp [hparts]
  rw [components, hentries, if_neg hroot, if_neg hhere]

lemma isDash_of_components_eq {name : String} (h : components name = [.entry "-"]) :
    IsDash name := by
  obtain ⟨p, ps, hparts, hname⟩ := exists_parts_eq name
  unfold components at h
  split_ifs at h with hroot hhere
  · cases h
  · cases h
  · rw [hparts, List.filterMap_cons] at h
    cases hp : Component.ofPart? p with
    | none =>
      -- A first part without a component would be a dot, or stand before a slash.
      exfalso
      rcases Component.ofPart?_eq_none_iff.1 hp with rfl | rfl
      · cases ps with
        | nil => simp [hp] at h
        | cons q ps => exact hroot (by rw [hname]; rfl)
      · exact hhere (by rw [hparts]; rfl)
    | some c =>
      rw [hp] at h
      obtain ⟨rfl, hrest⟩ := List.cons.inj h
      obtain rfl := Component.eq_of_ofPart?_eq_entry hp
      have hidle : ∀ q ∈ ps, IsIdle q := fun q hq =>
        Component.ofPart?_eq_none_iff.1 (List.filterMap_eq_nil_iff.1 hrest q hq)
      exact ⟨_, hname, leadsNowhere_flatMap hidle⟩

/-- The names with the components of a dash are those that are a dash. -/
lemma components_eq_components_dash_iff {name : String} :
    components name = components "-" ↔ IsDash name := by
  have hdash : components "-" = [.entry "-"] := IsDash.components_eq ⟨[], rfl, .nil⟩
  rw [hdash]
  exact ⟨isDash_of_components_eq, IsDash.components_eq⟩

/-- Slashes and dots behind the dash do not matter, but before it they do. -/
example : ["-/", "-//", "-/./.", "./-", "/-", "-/.."].map (fun name =>
    decide (components name = components "-")) = [true, true, true, false, false, false] := by
  decide

end WikiMarkup
