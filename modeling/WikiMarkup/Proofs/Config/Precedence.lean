import WikiMarkup.Config.Decode
import WikiMarkup.Proofs.Config.Stored
import WikiMarkup.Proofs.Config.ThemeName
/-!
# The precedence of settings

A setting of the command line comes before a stored one, and a stored one before the usual one. This
file says, for every world, what loading a configuration ends in (`Config.Loads`), and that the options
of a loaded configuration take each setting from the first place that has it (`Settings.Decide`).

Newlines that are to be replaced by nothing are looked for after the settings have been put together, so
a setting of the command line can repair a stored configuration, and can spoil one as well.
-/

namespace WikiMarkup

/-! ### Settings from three places -/

namespace Settings

/-- A setting of the command line, or else the stored one, or else the usual one. -/
def first {α : Type} (given stored : Option α) (usual : α) : α := (given.or stored).getD usual

/-- The setting for newlines, from the command line or a stored configuration. -/
def newlineSetting (s : Settings) (stored : Option Config) : NewlineSetting :=
  first s.newlines (stored.map Config.newlines) (.enabled false)

/-- Options that take each setting from the first place that has it, be it the command line, a stored
configuration or the usual settings. -/
structure Decide (s : Settings) (stored : Option Config) (o : Options) : Prop where
  theme_given : ∀ theme ∈ s.theme, o.theme = theme
  theme_stored : s.theme = none → Theme.StandsFor (stored.bind Config.theme) o.theme
  lineNumbers :
    o.lineNumbers = .constant (first s.lineNumbers (stored.map Config.lineNumbers) false)
  collapse : o.collapse = .constant (first s.collapse (stored.map Config.collapse) false)
  newlines_space : s.newlineSetting stored = .enabled true → o.newlines = .space
  newlines_off : s.newlineSetting stored = .enabled false → o.newlines = .off
  newlines_text : ∀ t, s.newlineSetting stored = .text t → o.newlines = .text t
  taskList : o.taskList = first s.taskList (stored.map Config.taskList) .htmlCheckbox

lemma first_eq_getD {α : Type} (given : Option α) (stored : Option Config) (f : Config → α) :
    first given (stored.map f) (f {}) = given.getD (f (stored.getD {})) := by
  cases given <;> cases stored <;> rfl

namespace Decide

variable {s : Settings} {stored : Option Config} {o o' : Options}

lemma newlines_eq (h : s.Decide stored o) :
    o.newlines = (s.newlineSetting stored).replacement := by
  cases hsetting : s.newlineSetting stored with
  | enabled b =>
    cases b with
    | true => exact h.newlines_space hsetting
    | false => exact h.newlines_off hsetting
  | text t => exact h.newlines_text t hsetting

/-- The settings leave nothing open. -/
lemma unique (h : s.Decide stored o) (h' : s.Decide stored o') : o = o' := by
  have htheme : o.theme = o'.theme := by
    cases hgiven : s.theme with
    | some theme => rw [h.theme_given theme hgiven, h'.theme_given theme hgiven]
    | none => exact (h.theme_stored hgiven).unique (h'.theme_stored hgiven)
  have hnumbers := h.lineNumbers.trans h'.lineNumbers.symm
  have hcollapse := h.collapse.trans h'.collapse.symm
  have hnewlines := h.newlines_eq.trans h'.newlines_eq.symm
  have htaskList := h.taskList.trans h'.taskList.symm
  cases o
  cases o'
  simp_all only

/-- Newlines are not replaced by nothing, unless the settings ask for it. -/
lemma newlines_ne_text_nil (h : s.Decide stored o) (hne : s.newlineSetting stored ≠ .text []) :
    o.newlines ≠ .text [] := by
  intro hempty
  cases hsetting : s.newlineSetting stored with
  | enabled b =>
    cases b with
    | true => cases (h.newlines_space hsetting).symm.trans hempty
    | false => cases (h.newlines_off hsetting).symm.trans hempty
  | text t =>
    cases (h.newlines_text t hsetting).symm.trans hempty
    exact hne hsetting

end Decide

end Settings

lemma NewlineReplacement.replacement?_ne_some_nil {n : NewlineReplacement} (h : n ≠ .text []) :
    n.replacement? ≠ some [] := by
  cases n with
  | text t => simpa [replacement?] using h
  | _ => simp [replacement?]


namespace Config

open Settings (first newlineSetting)

variable (stored : Option Config) (s : Settings)

lemma override_newlines : ((stored.getD {}).override s).newlines = s.newlineSetting stored :=
  (Settings.first_eq_getD s.newlines stored Config.newlines).symm

lemma isValid_override :
    ((stored.getD {}).override s).isValid = true ↔ s.newlineSetting stored ≠ .text [] := by
  rw [isValid, override_newlines, decide_eq_true_iff]

/-- A stored configuration with the settings of the command line gives the options that both decide. -/
lemma decide_override : s.Decide stored ((stored.getD {}).override s).options where
  theme_given := by
    intro theme htheme
    -- A theme is put into a configuration by its name, and is found again by that name.
    have hnamed : ((stored.getD {}).override s).theme = some theme.name := by
      rw [override, Option.mem_def.mp htheme]
      rfl
    rw [options, resolvedTheme, hnamed, Option.bind_some, Theme.ofName?_name, Option.getD_some]
  theme_stored := by
    intro hnone
    have hstored : ((stored.getD {}).override s).theme = stored.bind Config.theme := by
      rw [override, hnone]
      cases stored <;> rfl
    rw [options, resolvedTheme, hstored]
    exact Theme.standsFor_ofName? _
  lineNumbers :=
    congrArg Flag.constant (Settings.first_eq_getD s.lineNumbers stored Config.lineNumbers).symm
  collapse := congrArg Flag.constant (Settings.first_eq_getD s.collapse stored Config.collapse).symm
  newlines_space h := congrArg NewlineSetting.replacement ((override_newlines stored s).trans h)
  newlines_off h := congrArg NewlineSetting.replacement ((override_newlines stored s).trans h)
  newlines_text _ h := congrArg NewlineSetting.replacement ((override_newlines stored s).trans h)
  taskList := (Settings.first_eq_getD s.taskList stored Config.taskList).symm

/-! ### What loading ends in -/

/-- What loading a configuration ends in, for a world, the name of a file that may be asked for and the
settings of the command line. -/
inductive Loads (decode : Text → Option Config) (w : World) :
    Option String → Settings → Except ConfigError LoadedConfig → Prop
  | missing {name : String} {s : Settings} (hfile : w.hasEntry (.named name) = false) :
      Loads decode w (some name) s (.error (.notFound name))
  | unreadable {name : Option String} {s : Settings} {location : Location} {e : FileError}
      (hfile : w.configFile? name = some location) (hread : w.Reads location (.error e)) :
      Loads decode w name s (.error (.unreadable e))
  | malformed {name : Option String} {s : Settings} {location : Location} {t : Text}
      (hfile : w.configFile? name = some location) (hread : w.Reads location (.ok t))
      (hdecode : decode t = none) : Loads decode w name s (.error .malformed)
  | invalid {name : Option String} {s : Settings} {stored : Option Config}
      (hstored : Stored decode w name stored) (hempty : s.newlineSetting stored = .text []) :
      Loads decode w name s (.error .emptyReplacement)
  | loaded {name : Option String} {s : Settings} {stored : Option Config}
      (hstored : Stored decode w name stored) (hvalid : s.newlineSetting stored ≠ .text []) :
      Loads decode w name s (.ok ⟨(stored.getD {}).override s, w.configFile? name⟩)

section

variable {decode : Text → Option Config} {w : World} {name : Option String}

lemma run_loadStored_some (name : String) :
    (loadStored (m := StateM World) decode (some name)).run w =
      (if w.hasEntry (.named name) then loadFile decode (.named name)
        else pure (.error (.notFound name)) : StateM World (Except ConfigError LoadedConfig)).run w :=
  rfl

lemma run_loadStored_none :
    (loadStored (m := StateM World) decode none).run w =
      (match w.nearest? with
        | some p => loadFile decode (.rooted p)
        | none => pure (.ok ⟨{}, none⟩) : StateM World (Except ConfigError LoadedConfig)).run w := by
  rw [loadStored, StateT.run_bind, run_discover?]
  rfl

variable (decode) in
/-- The configuration file is the one that is loaded. -/
lemma run_loadStored_file {location : Location} (h : w.configFile? name = some location) :
    (loadStored (m := StateM World) decode name).run w =
      (loadFile (m := StateM World) decode location).run w := by
  cases name with
  | some name =>
    obtain ⟨hentry, rfl⟩ : w.hasEntry (.named name) = true ∧ Location.named name = location := by
      simpa [World.configFile?] using h
    rw [run_loadStored_some, if_pos hentry]
  | none =>
    obtain ⟨p, hp, rfl⟩ := Option.map_eq_some_iff.mp h
    rw [run_loadStored_none, hp]

/-- What is stored is loaded, with the configuration file as its source. -/
lemma run_loadStored {stored : Option Config} (h : Stored decode w name stored) :
    (loadStored (m := StateM World) decode name).run w =
      (.ok ⟨stored.getD {}, w.configFile? name⟩, w) := by
  cases h with
  | file hfile hread hdecode =>
    rw [run_loadStored_file decode hfile, run_loadFile, World.reads_iff.1 hread, hfile]
    simp [Except.mapError, Except.bind, hdecode]
  | nothing hfile =>
    rw [run_loadStored_none, World.configFile?, hfile]
    rfl

variable {s : Settings}

lemma run_loadWith {r : Except ConfigError LoadedConfig}
    (h : (loadStored (m := StateM World) decode name).run w = (r, w)) :
    (loadWith (m := StateM World) decode name s).run w =
      (r.bind fun loaded => finish loaded s, w) := by
  rw [loadWith, StateT.run_bind, h]
  cases r <;> rfl

/-- Loading ends as `Loads` says, and leaves the world as it was. -/
lemma Loads.run_eq {r : Except ConfigError LoadedConfig} (h : Loads decode w name s r) :
    (loadWith (m := StateM World) decode name s).run w = (r, w) := by
  cases h with
  | @missing name _ hfile =>
    have hmissing : (loadStored (m := StateM World) decode (some name)).run w =
        (.error (.notFound name), w) := by
      rw [run_loadStored_some, hfile]
      rfl
    exact run_loadWith hmissing
  | unreadable hfile hread =>
    have hloaded := run_loadStored_file decode hfile
    rw [run_loadFile, World.reads_iff.1 hread] at hloaded
    exact run_loadWith hloaded
  | malformed hfile hread hdecode =>
    have hloaded := run_loadStored_file decode hfile
    rw [run_loadFile, World.reads_iff.1 hread] at hloaded
    simp only [Except.mapError, Except.bind, hdecode, Option.elim_none] at hloaded
    exact run_loadWith hloaded
  | @invalid _ _ stored hstored hempty =>
    rw [run_loadWith (run_loadStored hstored), Except.bind, finish, if_neg]
    exact fun hvalid => (isValid_override stored s).mp hvalid hempty
  | @loaded _ _ stored hstored hvalid =>
    rw [run_loadWith (run_loadStored hstored), Except.bind, finish, if_pos]
    exact (isValid_override stored s).mpr hvalid

/-- The options of a loaded configuration are those on which the settings decide. -/
lemma Loads.exists_decide {loaded : LoadedConfig} (h : Loads decode w name s (.ok loaded)) :
    ∃ stored, Stored decode w name stored ∧ s.newlineSetting stored ≠ .text [] ∧
      s.Decide stored loaded.config.options := by
  cases h with
  | @loaded _ _ stored hstored hvalid => exact ⟨stored, hstored, hvalid, decide_override stored s⟩

lemma exists_loads_of_stored {stored : Option Config} (h : Stored decode w name stored) :
    ∃ r, Loads decode w name s r := by
  by_cases hempty : s.newlineSetting stored = .text []
  · exact ⟨_, .invalid h hempty⟩
  · exact ⟨_, .loaded h hempty⟩

variable (decode w name s) in
/-- Loading always ends in one of the ways of `Loads`. -/
lemma exists_loads : ∃ r, Loads decode w name s r := by
  cases hfile : w.configFile? name with
  | some location =>
    obtain ⟨r, hread⟩ : ∃ r, w.Reads location r := ⟨_, World.reads_iff.2 rfl⟩
    cases r with
    | error e => exact ⟨_, .unreadable hfile hread⟩
    | ok t =>
      cases hdecode : decode t with
      | none => exact ⟨_, .malformed hfile hread hdecode⟩
      | some c => exact exists_loads_of_stored (.file hfile hread hdecode)
  | none =>
    cases name with
    | some name => exact ⟨_, .missing (by simpa [World.configFile?] using hfile)⟩
    | none => exact exists_loads_of_stored (.nothing (by simpa [World.configFile?] using hfile))

end

/-- **Settings have their precedence.** For every way to read configuration files, every world, every
file that may be asked for and all settings of the command line: loading a configuration changes nothing
and ends as `Loads` says. If it succeeds, each option comes from the first of the command line, the
stored configuration and the usual settings that has it, and newlines are not replaced by nothing. -/
theorem run_loadWith_eq_iff_loads (decode : Text → Option Config) (w : World) (name : Option String)
    (s : Settings) :
    (∀ r w', (loadWith (m := StateM World) decode name s).run w = (r, w') ↔
        w' = w ∧ Loads decode w name s r) ∧
      ∀ loaded, Loads decode w name s (.ok loaded) →
        ∃ stored, Stored decode w name stored ∧ s.Decide stored loaded.config.options ∧
          loaded.config.options.newlines ≠ .text [] ∧
          loaded.config.options.newlines.replacement? ≠ some [] := by
  refine ⟨fun r w' => ⟨fun hrun => ?_, ?_⟩, fun loaded hloads => ?_⟩
  · obtain ⟨r', hloads⟩ := exists_loads decode w name s
    obtain ⟨rfl, rfl⟩ := Prod.mk.inj (hloads.run_eq.symm.trans hrun)
    exact ⟨rfl, hloads⟩
  · rintro ⟨rfl, hloads⟩
    exact hloads.run_eq
  · obtain ⟨stored, hstored, hvalid, hdecide⟩ := hloads.exists_decide
    have hne := hdecide.newlines_ne_text_nil hvalid
    exact ⟨stored, hstored, hdecide, hne, NewlineReplacement.replacement?_ne_some_nil hne⟩

/-- A configuration file in which newlines are to be replaced by nothing. -/
def spoiledFile : String :=
  "[code_block]\ntheme = \"midnight\"\n[paragraph]\nreplace_new_lines = \"\"\n"

/-- A world in which that file stands above the working directory. -/
def spoiledWorld : World where
  tree := ⟨[(["home"], .directory), (["md2confl.toml"], .file spoiledFile.toUTF8)]⟩
  cwd := ["home"]
  input := .empty

/-- The file of `spoiledWorld` is repaired by a setting of the command line: newlines become spaces,
and the theme is the one that the file has in small letters. -/
theorem run_loadWith_spoiledWorld :
    ∃ loaded, Loads decode? spoiledWorld none { newlines := some (.enabled true) } (.ok loaded) ∧
      loaded.config.options.theme = .midnight ∧ loaded.config.options.newlines = .space ∧
      ∃ stored, Stored decode? spoiledWorld none stored ∧
        Settings.Decide { newlines := some (.enabled true) } stored loaded.config.options ∧
          loaded.config.options.newlines ≠ .text [] ∧
          loaded.config.options.newlines.replacement? ≠ some [] := by
  have hread : spoiledWorld.Reads (.rooted ["md2confl.toml"]) (.ok spoiledFile.toList) :=
    .text (by rw [String.ofList_toList]; rfl)
  have hdecode : decode? spoiledFile.toList =
      some { theme := some "midnight".toList, newlines := .text [] } := by decide +kernel
  have hstored : Stored decode? spoiledWorld none
      (some { theme := some "midnight".toList, newlines := .text [] }) := .file rfl hread hdecode
  have hloads := Loads.loaded (s := { newlines := some (.enabled true) }) hstored (by decide)
  obtain ⟨stored, hstored, hdecide, hne⟩ :=
    (run_loadWith_eq_iff_loads decode? spoiledWorld none _).2 _ hloads
  exact ⟨_, hloads, rfl, hdecide.newlines_space rfl, stored, hstored, hdecide, hne⟩

end Config

end WikiMarkup
