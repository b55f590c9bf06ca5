import WikiMarkup.Config.Decode
import WikiMarkup.Markdown.Reader
import WikiMarkup.Proofs.CommandLine.Request
import WikiMarkup.Proofs.Config.Nearest
/-!
# The conversion is all or nothing

The conversion loads its configuration, reads the document, decodes it, converts it and opens the
file for the markup. If any of these cannot be done (`Fails`), the exit status is 1, nothing is
written to the standard output, and the files are left as they were. Otherwise the markup of the
document (`Produces`) is written to one place, the file that is asked for or the standard output,
and no other file changes (`Delivered`).

Everything is read before anything is written, so the markup may well go to the file that the
document or the configuration was read from. Where the document comes from and where the markup goes
to makes no difference to the markup. All this holds for every reader of Markdown and of
configuration files.
-/

namespace WikiMarkup

namespace FileTree

variable {tree : FileTree} {cwd p : Path} {name : String}

/-- A file may be written where there is one, and where a directory has nothing yet. -/
lemma target_cases (h : tree.target cwd name = .ok p) :
    (∃ bytes, tree.get? p = some (.file bytes)) ∨
      (tree.get? p = none ∧ tree.get? p.dropLast = some .directory) := by
  simp only [target, bind, Except.bind] at h
  by_cases hslash : (parts name).getLast? = some ""
  · -- No file has a name that ends with a slash.
    exfalso
    simp only [if_pos hslash] at h
    split at h
    · cases h
    · repeat' split at h
      all_goals cases h
  · simp only [if_neg hslash] at h
    cases hresolve : tree.resolve cwd name with
    | error e =>
      rw [hresolve] at h
      cases h
    | ok q =>
      rw [hresolve] at h
      cases hq : tree.get? q with
      | none =>
        cases hparent : tree.get? q.dropLast with
        | none => simp [hq, hparent] at h
        | some e =>
          cases e with
          | directory =>
            obtain rfl : q = p := by simpa [hq, hparent] using h
            exact .inr ⟨hq, hparent⟩
          | file bytes => simp [hq, hparent] at h
          | locked => simp [hq, hparent] at h
      | some e =>
        cases e with
        | file bytes =>
          obtain rfl : q = p := by simpa [hq] using h
          exact .inl ⟨bytes, hq⟩
        | directory => simp [hq] at h
        | locked => simp [hq] at h

lemma ne_nil_of_target (h : tree.target cwd name = .ok p) : p ≠ [] := by
  rintro rfl
  have hroot : tree.get? [] = some .directory := rfl
  rcases target_cases h with ⟨bytes, hfile⟩ | ⟨hnone, -⟩
  · rw [hroot] at hfile
    cases hfile
  · rw [hroot] at hnone
    cases hnone

end FileTree

namespace CommandLine

/-! ### What a conversion comes to -/

section

variable (parse : Text → List Event) (decode : Text → Option Config)

/-- Something that the conversion needs cannot be done. -/
inductive Fails (w : World) (a : ConvertArguments) : Prop
  | loading {s : Settings} {e : ConfigError} (hasks : a.Asks s)
      (hload : Config.Loads decode w a.config s (.error e))
  | reading {e : FileError} (hread : w.HasDocument a.input (.error e))
  | decoding {bytes : ByteArray} (hread : w.HasDocument a.input (.ok bytes))
      (hno : ∀ t : Text, bytes ≠ (String.ofList t).toUTF8)
  | converting {o : Options} {markdown : Text} {e : RenderError}
      (hoptions : HasOptions decode w a o)
      (hread : w.HasDocument a.input (.ok (String.ofList markdown).toUTF8))
      (hconvert : convert parse o markdown = .error e)
  | opening {name : String} {e : FileError} (houtput : a.output = some name)
      (hopen : w.tree.target w.cwd name = .error e)

/-- The document of the world, as it is before the conversion, has this markup with the options that
the arguments and the stored configuration decide on. -/
inductive Produces (w : World) (a : ConvertArguments) (markup : Text) : Prop
  | intro {o : Options} {markdown : Text} (hoptions : HasOptions decode w a o)
      (hread : w.HasDocument a.input (.ok (String.ofList markdown).toUTF8))
      (hconvert : convert parse o markdown = .ok markup)

end

/-- The markup is in the file that is asked for, if one is, or else on the standard output. Nothing
else is on the standard output, and no other file of the world `w` is changed. -/
inductive Delivered (w : World) (markup : Text) : Option String → Outcome → World → Prop
  | standardOutput {o : Outcome} (hstdout : o.stdout = markup) : Delivered w markup none o w
  | file {name : String} {p : Path} {o : Outcome} {v : World} (hstdout : o.stdout = [])
      (hopen : w.tree.target w.cwd name = .ok p)
      (hwritten : v.tree.get? p = some (.file (String.ofList markup).toUTF8))
      (hothers : ∀ q, q ≠ p → v.tree.get? q = w.tree.get? q) :
      Delivered w markup (some name) o v

/-- The file for the markup can be opened, if there is one. -/
def Opens (w : World) (output : Option String) : Prop :=
  ∀ name ∈ output, ∃ p, w.tree.target w.cwd name = .ok p

section

variable {parse : Text → List Event} {decode : Text → Option Config} {w w' : World}
  {a a' : ConvertArguments} {markup : Text}

lemma HasOptions.not_loads_error {o : Options} {e : ConfigError} (h : HasOptions decode w a o) :
    ¬ Config.Loads decode w a.config a.settings (.error e) := by
  intro herror
  obtain ⟨loaded, hload, -⟩ := h.exists_loads
  cases hload.run_eq.symm.trans herror.run_eq

lemma HasOptions.unique {o o' : Options} (h : HasOptions decode w a o)
    (h' : HasOptions decode w a o') : o = o' := by
  obtain ⟨loaded, hload, rfl⟩ := h.exists_loads
  obtain ⟨loaded', hload', rfl⟩ := h'.exists_loads
  cases hload.run_eq.symm.trans hload'.run_eq
  rfl

lemma Produces.unique {markup' : Text} (h : Produces parse decode w a markup)
    (h' : Produces parse decode w a markup') : markup = markup' := by
  obtain ⟨hoptions, hread, hconvert⟩ := h
  obtain ⟨hoptions', hread', hconvert'⟩ := h'
  obtain rfl := hoptions.unique hoptions'
  obtain rfl := hread.text_unique hread'
  exact Except.ok.inj (hconvert.symm.trans hconvert')

lemma Produces.not_fails (h : Produces parse decode w a markup) (hopens : Opens w a.output) :
    ¬ Fails parse decode w a := by
  intro hfails
  obtain ⟨hoptions, hread, hconvert⟩ := h
  cases hfails with
  | loading hasks hload =>
    obtain rfl := hasks.eq_settings
    exact hoptions.not_loads_error hload
  | reading hread' => cases hread.unique hread'
  | decoding hread' hno => exact hno _ (Except.ok.inj (hread'.unique hread))
  | converting hoptions' hread' hconvert' =>
    obtain rfl := hoptions.unique hoptions'
    obtain rfl := hread.text_unique hread'
    cases hconvert.symm.trans hconvert'
  | opening houtput hopen =>
    obtain ⟨p, hp⟩ := hopens _ houtput
    cases hopen.symm.trans hp

lemma exists_produces (h : ¬ Fails parse decode w a) :
    (∃ markup, Produces parse decode w a markup) ∧ Opens w a.output := by
  constructor
  · obtain ⟨r, hload⟩ := Config.exists_loads decode w a.config a.settings
    obtain ⟨d, hread⟩ := w.exists_hasDocument a.input
    cases r with
    | error e => exact absurd (.loading a.asks_settings hload) h
    | ok loaded =>
      have hoptions := hasOptions_of_loads hload
      cases d with
      | error e => exact absurd (.reading hread) h
      | ok bytes =>
        by_cases htext : ∃ t : Text, bytes = (String.ofList t).toUTF8
        · obtain ⟨markdown, rfl⟩ := htext
          cases hconvert : convert parse loaded.config.options markdown with
          | error e => exact absurd (.converting hoptions hread hconvert) h
          | ok markup => exact ⟨markup, .intro hoptions hread hconvert⟩
        · exact absurd (.decoding hread (not_exists.1 htext)) h
  · intro name hname
    cases hopen : w.tree.target w.cwd name with
    | error e => exact absurd (.opening hname hopen) h
    | ok p => exact ⟨p, rfl⟩

/-- The markup depends on the stored configuration, on the settings that are asked for and on the
document, and on nothing else. -/
lemma Produces.congr
    (hstored : ∀ stored, Config.Stored decode w' a'.config stored ↔
      Config.Stored decode w a.config stored)
    (hasks : ∀ s, a'.Asks s ↔ a.Asks s)
    (hread : ∀ d, w'.HasDocument a'.input d ↔ w.HasDocument a.input d) :
    Produces parse decode w' a' markup ↔ Produces parse decode w a markup := by
  have hoptions : ∀ o, HasOptions decode w' a' o ↔ HasOptions decode w a o := by
    intro o
    constructor
    · rintro ⟨ha, hs, hvalid, hdecide⟩
      exact .intro ((hasks _).1 ha) ((hstored _).1 hs) hvalid hdecide
    · rintro ⟨ha, hs, hvalid, hdecide⟩
      exact .intro ((hasks _).2 ha) ((hstored _).2 hs) hvalid hdecide
  constructor
  · rintro ⟨ho, hd, hconvert⟩
    exact .intro ((hoptions _).1 ho) ((hread _).1 hd) hconvert
  · rintro ⟨ho, hd, hconvert⟩
    exact .intro ((hoptions _).2 ho) ((hread _).2 hd) hconvert

/-- The standard input has no part in what is stored. -/
lemma stored_withInput_iff (input : ByteArray) (name : Option String) (stored : Option Config) :
    Config.Stored decode { w with input } name stored ↔ Config.Stored decode w name stored := by
  -- No location is looked up anywhere but in the file tree, which stays the same.
  have hsame : ∀ (w : World) (input : ByteArray), w.SameConfigFile { w with input } name := by
    intro w input
    exact ⟨by cases name <;> rfl, fun location _ => by cases location <;> rfl⟩
  exact ⟨fun h => h.of_sameConfigFile (hsame { w with input } w.input),
    fun h => h.of_sameConfigFile (hsame w input)⟩

lemma asks_withPlaces_iff (input output : Option String) (s : Settings) :
    ConvertArguments.Asks { a with input, output } s ↔ a.Asks s :=
  ⟨fun ⟨h₁, h₂, h₃, h₄, h₅, h₆, h₇⟩ => ⟨h₁, h₂, h₃, h₄, h₅, h₆, h₇⟩,
    fun ⟨h₁, h₂, h₃, h₄, h₅, h₆, h₇⟩ => ⟨h₁, h₂, h₃, h₄, h₅, h₆, h₇⟩⟩

end

/-! ### The steps of a conversion -/

section

variable {parse : Text → List Event} {decode : Text → Option Config} {w : World}
  {a : ConvertArguments} {markup : Text}

lemma run_bind {α β : Type} {x : StateM World α} {f : α → StateM World β} {v : World} {r : α}
    (h : x.run w = (r, v)) : (x >>= f).run w = (f r).run v := by
  rw [StateT.run_bind, h]
  rfl

/-- Up to the writing of the markup a conversion changes nothing. -/
lemma run_runConvert {r : Except ConfigError LoadedConfig} {d : Except FileError ByteArray}
    (hload : Config.Loads decode w a.config a.settings r) (hread : w.HasDocument a.input d) :
    (runConvert (m := StateM World) parse decode a).run w =
      match r with
      | .error e => (.error (.config e), w)
      | .ok loaded =>
        match d.bind decodeText with
        | .error e => (.error (.file e), w)
        | .ok markdown =>
          match convert parse loaded.config.options markdown with
          | .error e => (.error (.render e), w)
          | .ok markup => (writeMarkup (m := StateM World) a.output markup).run w := by
  rw [runConvert, run_bind hload.run_eq]
  cases r with
  | error e => rfl
  | ok loaded =>
    dsimp only
    rw [run_bind (run_readDocument hread)]
    cases d.bind decodeText with
    | error e => rfl
    | ok markdown =>
      dsimp only
      cases convert parse loaded.config.options markdown <;> rfl

lemma Produces.run_eq (h : Produces parse decode w a markup) :
    (runConvert (m := StateM World) parse decode a).run w =
      (writeMarkup (m := StateM World) a.output markup).run w := by
  obtain ⟨hoptions, hread, hconvert⟩ := h
  obtain ⟨loaded, hload, rfl⟩ := hoptions.exists_loads
  rw [run_runConvert hload hread, Except.bind, decodeText_eq_ok_iff.2 rfl]
  dsimp only
  rw [hconvert]

lemma run_writeFile (w : World) (name : String) (bytes : ByteArray) :
    (Host.writeFile name bytes : StateM World (Except FileError Unit)).run w =
      match w.tree.target w.cwd name with
      | .ok p => (.ok (), { w with tree := w.tree.put p (.file bytes) })
      | .error e => (.error e, w) := by
  have hget : (get : StateM World World).run w = (w, w) := rfl
  change (get >>= _ : StateM World (Except FileError Unit)).run w = _
  rw [run_bind hget, FileTree.write]
  cases w.tree.target w.cwd name <;> rfl

lemma run_writeMarkup_of_error {name : String} {e : FileError}
    (hopen : w.tree.target w.cwd name = .error e) :
    (writeMarkup (m := StateM World) (some name) markup).run w = (.error (.file e), w) := by
  have hwrite := run_writeFile w name (String.ofList markup).toUTF8
  rw [hopen] at hwrite
  exact run_bind hwrite

lemma run_writeMarkup_of_ok {name : String} {p : Path} (hopen : w.tree.target w.cwd name = .ok p) :
    (writeMarkup (m := StateM World) (some name) markup).run w =
      (.ok (.wrote name),
        { w with tree := w.tree.put p (.file (String.ofList markup).toUTF8) }) := by
  have hwrite := run_writeFile w name (String.ofList markup).toUTF8
  rw [hopen] at hwrite
  exact run_bind hwrite

/-- Markup is delivered to the place for it, if that can be opened. -/
lemma exists_delivered (w : World) (markup : Text) {output : Option String}
    (hopens : Opens w output) :
    ∃ o v, (writeMarkup (m := StateM World) output markup).run w = (.ok o, v) ∧ o.status = 0 ∧
      Delivered w markup output o v := by
  cases output with
  | none => exact ⟨_, _, rfl, rfl, .standardOutput rfl⟩
  | some name =>
    obtain ⟨p, hp⟩ := hopens name rfl
    refine ⟨_, _, run_writeMarkup_of_ok hp, rfl, .file rfl hp ?_ fun q hq => ?_⟩
    · exact FileTree.get?_put_self _ (FileTree.ne_nil_of_target hp) _
    · exact FileTree.get?_put_of_ne _ hq _

lemma Fails.exists_run_eq (h : Fails parse decode w a) :
    ∃ e, (runConvert (m := StateM World) parse decode a).run w = (.error e, w) := by
  obtain ⟨r, hload⟩ := Config.exists_loads decode w a.config a.settings
  obtain ⟨d, hread⟩ := w.exists_hasDocument a.input
  rw [run_runConvert hload hread]
  -- Which step fails is not read off `h`: the steps are followed to the first one that does.
  cases r with
  | error e => exact ⟨_, rfl⟩
  | ok loaded =>
    cases d with
    | error e => exact ⟨_, rfl⟩
    | ok bytes =>
      cases hdecode : decodeText bytes with
      | error e =>
        rw [Except.bind, hdecode]
        exact ⟨_, rfl⟩
      | ok markdown =>
        rw [Except.bind, hdecode]
        obtain rfl := decodeText_eq_ok_iff.1 hdecode
        cases hconvert : convert parse loaded.config.options markdown with
        | error e =>
          dsimp only
          rw [hconvert]
          exact ⟨_, rfl⟩
        | ok markup =>
          -- All that is left to fail is the opening of the file for the markup.
          have hproduces : Produces parse decode w a markup :=
            .intro (hasOptions_of_loads hload) hread hconvert
          have hclosed : ¬ Opens w a.output := fun hopens => hproduces.not_fails hopens h
          simp only [Opens, not_forall, not_exists] at hclosed
          obtain ⟨name, hname, hclosed⟩ := hclosed
          dsimp only
          rw [hconvert, Option.mem_def.mp hname]
          cases hopen : w.tree.target w.cwd name with
          | ok p => exact absurd hopen (hclosed p)
          | error e => exact ⟨_, run_writeMarkup_of_error hopen⟩

lemma run_runCommand_of_error {e : CommandError} {v : World}
    (h : (runConvert (m := StateM World) parse decode a).run w = (.error e, v)) :
    (runCommand (m := StateM World) parse decode (.convert a)).run w = (.failure e, v) := by
  rw [runCommand, run_bind h]
  rfl

lemma run_runCommand_of_ok {o : Outcome} {v : World}
    (h : (runConvert (m := StateM World) parse decode a).run w = (.ok o, v)) :
    (runCommand (m := StateM World) parse decode (.convert a)).run w = (o, v) := by
  rw [runCommand, run_bind h]
  rfl

end

/-- **The conversion is all or nothing.** For all readers of Markdown and of configuration files,
every world and all arguments:

* if something that the conversion needs cannot be done, the exit status is 1, nothing is on the
  standard output, and the world is as it was;
* otherwise the exit status is 0, and the one markup of the document as it was before is in the one
  place that it is meant for, while all else is as it was;
* the markup is that of the document, of the stored configuration and of the settings that are asked
  for;
* so it is the same whether the document comes from a file or from the standard input, and wherever
  the markup goes to. -/
theorem runConvert_all_or_nothing (parse : Text → List Event) (decode : Text → Option Config)
    (w : World) (a : ConvertArguments) :
    (Fails parse decode w a →
        ∃ o, (runCommand (m := StateM World) parse decode (.convert a)).run w = (o, w) ∧
          o.status = 1 ∧ o.stdout = []) ∧
      (¬ Fails parse decode w a → ∃ markup, Produces parse decode w a markup ∧
        (∀ markup', Produces parse decode w a markup' → markup' = markup) ∧
        ∃ o v, (runCommand (m := StateM World) parse decode (.convert a)).run w = (o, v) ∧
          o.status = 0 ∧ Delivered w markup a.output o v) ∧
      (∀ w' a', (∀ stored, Config.Stored decode w' a'.config stored ↔
          Config.Stored decode w a.config stored) → (∀ s, a'.Asks s ↔ a.Asks s) →
        (∀ d, w'.HasDocument a'.input d ↔ w.HasDocument a.input d) →
          ∀ markup, Produces parse decode w' a' markup ↔ Produces parse decode w a markup) ∧
      ∀ input name output,
        (∀ d, World.HasDocument { w with input } name d ↔ w.HasDocument a.input d) →
          ∀ markup, Produces parse decode { w with input } { a with input := name, output } markup ↔
            Produces parse decode w a markup := by
  refine ⟨fun hfails => ?_, fun hfails => ?_, fun w' a' hstored hasks hread markup => ?_,
    fun input name output hread markup => ?_⟩
  · obtain ⟨e, hrun⟩ := hfails.exists_run_eq
    exact ⟨_, run_runCommand_of_error hrun, rfl, rfl⟩
  · obtain ⟨⟨markup, hproduces⟩, hopens⟩ := exists_produces hfails
    obtain ⟨o, v, hrun, hstatus, hdelivered⟩ := exists_delivered w markup hopens
    have hcommand := run_runCommand_of_ok (hproduces.run_eq.trans hrun)
    exact ⟨markup, hproduces, fun _ h => h.unique hproduces, o, v, hcommand, hstatus, hdelivered⟩
  · exact Produces.congr hstored hasks hread
  · exact Produces.congr (stored_withInput_iff input a.config) (asks_withPlaces_iff name output)
      hread

/-- A document with a paragraph over two lines, a code block and a list with a box. -/
def note : String := "a\nb\n\n~~~\nx\n~~~\n\n- [x] c\n"

/-- A configuration file that asks for collapsed code blocks. -/
def collapsedFile : String := "[code_block]\ncollapse = true\n"

/-- A world with the document and the configuration file in the working directory, and an input. -/
def noteWorld (input : String) : World where
  tree := ⟨[(["home"], .directory), (["home", "doc.md"], .file note.toUTF8),
    (["home", "md2confl.toml"], .file collapsedFile.toUTF8)]⟩
  cwd := ["home"]
  input := input.toUTF8

/-- Arguments that ask for every setting, and against the configuration file for code blocks that
are not collapsed. -/
def noteArguments (input output : Option String) : ConvertArguments where
  input := input
  output := output
  theme := some .rDark
  lineNumbers := true
  noCollapse := true
  replaceNewlines := some ['+']
  omitCheckboxes := true

/-- The markup of the document with these settings. -/
def noteMarkup : Text :=
  ("a+b\n\n\x7bcode:collapse=false|language=none|linenumbers=true|theme=RDark\x7d\nx\n" ++
    "\x7bcode\x7d\n\n\n* c\n\n").toList

lemma not_isDash_doc : ¬ IsDash "doc.md" := by
  rintro ⟨behind, h, -⟩
  cases h

lemma produces_noteWorld (output : Option String) :
    Produces Markdown.events Config.decode? (noteWorld "") (noteArguments (some "doc.md") output)
      noteMarkup := by
  have hread : (noteWorld "").Reads (.rooted ["home", "md2confl.toml"])
      (.ok collapsedFile.toList) :=
    .text (by rw [String.ofList_toList]; rfl)
  have hdocument : (noteWorld "").HasDocument (some "doc.md")
      (.ok (String.ofList note.toList).toUTF8) := by
    rw [String.ofList_toList]
    exact .file not_isDash_doc
  have hdecode : Config.decode? collapsedFile.toList = some { collapse := true } := by
    decide +kernel
  have hstored : Config.Stored Config.decode? (noteWorld "") none (some { collapse := true }) :=
    .file rfl hread hdecode
  have hvalid : (noteArguments none none).settings.newlineSetting (some { collapse := true }) ≠
      .text [] := by decide
  have hconvert : convert Markdown.events (((some { collapse := true } : Option Config).getD
      {}).override (noteArguments none none).settings).options note.toList = .ok noteMarkup := by
    decide +kernel
  exact .intro (.intro (noteArguments (some "doc.md") output).asks_settings hstored hvalid
    (Config.decide_override _ _)) hdocument hconvert

/-- A document is converted in place with all the settings that are asked for. From the standard
input, which has another name here, the same markup goes to the standard output. Where a directory
is in the way of the markup, nothing is written at all. -/
theorem runConvert_noteWorld :
    (∃ o v, (runCommand (m := StateM World) Markdown.events Config.decode?
          (.convert (noteArguments (some "doc.md") (some "doc.md")))).run (noteWorld "") = (o, v) ∧
        o.status = 0 ∧ o.stdout = [] ∧
          v.tree.get? ["home", "doc.md"] = some (.file (String.ofList noteMarkup).toUTF8)) ∧
      (∃ o, (runCommand (m := StateM World) Markdown.events Config.decode?
          (.convert (noteArguments (some "-/.") none))).run (noteWorld note) = (o, noteWorld note) ∧
        o.status = 0 ∧ o.stdout = noteMarkup) ∧
      ∃ o, (runCommand (m := StateM World) Markdown.events Config.decode?
          (.convert (noteArguments (some "doc.md") (some "/home")))).run (noteWorld "") =
            (o, noteWorld "") ∧ o.status = 1 ∧ o.stdout = [] := by
  refine ⟨?_, ?_, ?_⟩
  · have hopen : (noteWorld "").tree.target ["home"] "doc.md" = .ok ["home", "doc.md"] := rfl
    have hproduces := produces_noteWorld (some "doc.md")
    have hopens : Opens (noteWorld "") (some "doc.md") := by
      rintro _ ⟨⟩
      exact ⟨_, hopen⟩
    obtain ⟨markup, -, honly, o, v, hrun, hstatus, hdelivered⟩ :=
      (runConvert_all_or_nothing Markdown.events Config.decode? (noteWorld "")
        (noteArguments (some "doc.md") (some "doc.md"))).2.1 (hproduces.not_fails hopens)
    obtain rfl := honly _ hproduces
    cases hdelivered with
    | file hstdout hopen' hwritten =>
      cases hopen.symm.trans hopen'
      exact ⟨o, v, hrun, hstatus, hstdout, hwritten⟩
  · have hsame : ∀ d, (noteWorld note).HasDocument (some "-/.") d ↔
        (noteWorld "").HasDocument (some "doc.md") d := by
      intro d
      rw [(World.HasDocument.dash ⟨_, rfl, .slashDot .nil⟩).iff_eq,
        (World.HasDocument.file not_isDash_doc).iff_eq]
      rfl
    have hproduces := ((runConvert_all_or_nothing Markdown.events Config.decode? (noteWorld "")
      (noteArguments (some "doc.md") none)).2.2.2 note.toUTF8 (some "-/.") none hsame noteMarkup).2
        (produces_noteWorld none)
    obtain ⟨markup, -, honly, o, v, hrun, hstatus, hdelivered⟩ :=
      (runConvert_all_or_nothing Markdown.events Config.decode? (noteWorld note)
        (noteArguments (some "-/.") none)).2.1 (hproduces.not_fails (by rintro _ ⟨⟩))
    obtain rfl := honly _ hproduces
    cases hdelivered with
    | standardOutput hstdout => exact ⟨o, hrun, hstatus, hstdout⟩
  · have hopen : (noteWorld "").tree.target ["home"] "/home" = .error .isDirectory := rfl
    exact (runConvert_all_or_nothing Markdown.events Config.decode? (noteWorld "")
      (noteArguments (some "doc.md") (some "/home"))).1 (.opening rfl hopen)

end CommandLine

end WikiMarkup
