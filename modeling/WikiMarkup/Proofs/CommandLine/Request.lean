import WikiMarkup.CommandLine.Run
import WikiMarkup.Proofs.CommandLine.Dash
import WikiMarkup.Proofs.Config.Precedence
/-!
# What the arguments ask for

The arguments of a conversion name a document and ask for settings. This file says which document is
meant (`World.HasDocument`), which settings are asked for (`ConvertArguments.Asks`), and which options
follow from them and from the stored configuration (`HasOptions`). The program reads this document,
and loads a configuration with these options.
-/

namespace WikiMarkup

/-! ### The document -/

namespace World

/-- The bytes of the document, or why they cannot be read: those of the standard input, if no name is
given or one that is a dash, and those of the file with the name otherwise. -/
inductive HasDocument (w : World) : Option String → Except FileError ByteArray → Prop
  | input : HasDocument w none (.ok w.input)
  | dash {name : String} (h : IsDash name) : HasDocument w (some name) (.ok w.input)
  | file {name : String} (h : ¬ IsDash name) : HasDocument w (some name) (w.read (.named name))

variable {w : World} {name : Option String} {d d' : Except FileError ByteArray}

variable (w name) in
lemma exists_hasDocument : ∃ d, w.HasDocument name d := by
  cases name with
  | none => exact ⟨_, .input⟩
  | some name =>
    by_cases hdash : IsDash name
    · exact ⟨_, .dash hdash⟩
    · exact ⟨_, .file hdash⟩

lemma HasDocument.unique (h : w.HasDocument name d) (h' : w.HasDocument name d') : d = d' := by
  cases h with
  | input =>
    cases h'
    rfl
  | dash hdash =>
    cases h' with
    | dash => rfl
    | file hno => exact absurd hdash hno
  | file hno =>
    cases h' with
    | dash hdash => exact absurd hdash hno
    | file => rfl

/-- There is only one text in a document. -/
lemma HasDocument.text_unique {t t' : Text}
    (h : w.HasDocument name (.ok (String.ofList t).toUTF8))
    (h' : w.HasDocument name (.ok (String.ofList t').toUTF8)) : t = t' := by
  have hread : decodeText (String.ofList t).toUTF8 = .ok t := decodeText_eq_ok_iff.2 rfl
  have hread' : decodeText (String.ofList t).toUTF8 = .ok t' :=
    decodeText_eq_ok_iff.2 (Except.ok.inj (h.unique h'))
  exact Except.ok.inj (hread.symm.trans hread')

lemma HasDocument.iff_eq (h : w.HasDocument name d) : w.HasDocument name d' ↔ d' = d :=
  ⟨fun h' => h'.unique h, by rintro rfl; exact h⟩

end World

namespace CommandLine

/-- The document is read, and the world is left as it was. -/
lemma run_readDocument {w : World} {name : Option String} {d : Except FileError ByteArray}
    (h : w.HasDocument name d) :
    (readDocument (m := StateM World) name).run w = (d.bind decodeText, w) := by
  cases h with
  | input => rfl
  | @dash name hdash =>
    have hinput : (some name).filter (fun name => components name ≠ components inputName) = none := by
      simp [inputName, components_eq_components_dash_iff.2 hdash]
    rw [readDocument, hinput]
    rfl
  | @file name hno =>
    have hfile : (some name).filter (fun name => components name ≠ components inputName) =
        some name := by
      simp [inputName, components_eq_components_dash_iff, hno]
    rw [readDocument, hfile]
    rfl

/-! ### Settings and options -/

/-- What two flags ask for, one of which switches a setting on and the other one off. Where both are
given the first one counts. -/
inductive Switches : Bool → Bool → Option Bool → Prop
  | on (off : Bool) : Switches true off (some true)
  | off : Switches false true (some false)
  | neither : Switches false false none

/-- The arguments ask for these settings. -/
structure ConvertArguments.Asks (a : ConvertArguments) (s : Settings) : Prop where
  theme : s.theme = a.theme
  lineNumbers : Switches a.lineNumbers a.noLineNumbers s.lineNumbers
  collapse : Switches a.collapse a.noCollapse s.collapse
  newlines_given : ∀ t ∈ a.replaceNewlines, s.newlines = some (.text t)
  newlines_missing : a.replaceNewlines = none → s.newlines = none
  boxes_omitted : a.omitCheckboxes = true → s.taskList = some .omit
  boxes_kept : a.omitCheckboxes = false → s.taskList = none

/-- The options of a conversion: those on which the arguments and the stored configuration decide, if
newlines are not to be replaced by nothing. -/
inductive HasOptions (decode : Text → Option Config) (w : World) (a : ConvertArguments)
    (o : Options) : Prop
  | intro {s : Settings} {stored : Option Config} (hasks : a.Asks s)
      (hstored : Config.Stored decode w a.config stored)
      (hvalid : s.newlineSetting stored ≠ .text []) (hdecide : s.Decide stored o)

section

variable {a : ConvertArguments} {s : Settings}

lemma Switches.eq_switched {on off : Bool} {b : Option Bool} (h : Switches on off b) :
    b = ConvertArguments.switched on off := by
  cases h <;> rfl

lemma switches_switched (on off : Bool) : Switches on off (ConvertArguments.switched on off) := by
  cases on with
  | true => exact .on off
  | false => cases off <;> constructor

lemma ConvertArguments.asks_settings (a : ConvertArguments) : a.Asks a.settings where
  theme := rfl
  lineNumbers := switches_switched _ _
  collapse := switches_switched _ _
  newlines_given t ht := congrArg (Option.map NewlineSetting.text) ht
  newlines_missing h := congrArg (Option.map NewlineSetting.text) h
  boxes_omitted h := if_pos h
  boxes_kept h := if_neg (by simp [h])

/-- The arguments ask for just one collection of settings. -/
lemma ConvertArguments.Asks.eq_settings (h : a.Asks s) : s = a.settings := by
  have hnewlines : s.newlines = a.replaceNewlines.map .text := by
    cases hgiven : a.replaceNewlines with
    | none => exact h.newlines_missing hgiven
    | some t => exact h.newlines_given t hgiven
  have hboxes : s.taskList = if a.omitCheckboxes then some .omit else none := by
    cases homit : a.omitCheckboxes with
    | true => exact h.boxes_omitted homit
    | false => exact h.boxes_kept homit
  have htheme := h.theme
  have hnumbers := h.lineNumbers.eq_switched
  have hcollapse := h.collapse.eq_switched
  cases s
  subst htheme hnumbers hcollapse hnewlines hboxes
  rfl

variable {decode : Text → Option Config} {w : World} {o : Options}

/-- The options are those of the configuration that is loaded. -/
lemma HasOptions.exists_loads (h : HasOptions decode w a o) :
    ∃ loaded, Config.Loads decode w a.config a.settings (.ok loaded) ∧ loaded.config.options = o := by
  obtain ⟨hasks, hstored, hvalid, hdecide⟩ := h
  obtain rfl := hasks.eq_settings
  exact ⟨_, .loaded hstored hvalid, (Config.decide_override _ _).unique hdecide⟩

lemma hasOptions_of_loads {loaded : LoadedConfig}
    (h : Config.Loads decode w a.config a.settings (.ok loaded)) :
    HasOptions decode w a loaded.config.options := by
  obtain ⟨stored, hstored, hvalid, hdecide⟩ := h.exists_decide
  exact .intro a.asks_settings hstored hvalid hdecide

end

end CommandLine

end WikiMarkup
