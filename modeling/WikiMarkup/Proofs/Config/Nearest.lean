import Mathlib.Data.List.Induction
import WikiMarkup.Proofs.Config.Precedence
/-!
# The nearest configuration file

Where no file is asked for, the configuration is that of the nearest file: of the working directory
and the directories above it, the deepest one that has an entry with the usual name
(`FileTree.Nearest`). Any entry counts, be it a file, a directory or a locked file. So an entry that
cannot be read, or that describes no configuration, is an error, and no file farther up is looked at
in its place.

Loading sees no more of a file tree than the one entry that it settles on (`World.entryAt?`) and
that no nearer one exists. Two file trees that have this in common give the same result, whatever
other configuration files they hold.
-/

namespace WikiMarkup

/-! ### The nearest entry -/

/-- The nearest configuration file of a directory: that of the deepest directory that has one, among
the directory itself and those above it. -/
inductive FileTree.Nearest (tree : FileTree) (directory : Path) : Option Path → Prop
  | found {d : Path} (habove : d <+: directory)
      (hentry : tree.get? (d ++ [Config.fileName]) ≠ none)
      (hnearer : ∀ d', d' <+: directory → d.length < d'.length →
        tree.get? (d' ++ [Config.fileName]) = none) :
      Nearest tree directory (some (d ++ [Config.fileName]))
  | nowhere (hnone : ∀ d, d <+: directory → tree.get? (d ++ [Config.fileName]) = none) :
      Nearest tree directory none

namespace Config

lemma candidates_concat (d : Path) (name : String) :
    candidates (d ++ [name]) = (d ++ [name] ++ [fileName]) :: candidates d := by
  simp [candidates, candidatesAbove]

end Config

namespace FileTree

variable {tree : FileTree} {directory : Path}

/-- A directory with a configuration file of its own has no nearer one. -/
lemma nearest_self (h : tree.get? (directory ++ [Config.fileName]) ≠ none) :
    tree.Nearest directory (some (directory ++ [Config.fileName])) := by
  refine .found List.prefix_rfl h fun d hd hlt => ?_
  have hle := hd.length_le
  omega

/-- A directory without a configuration file of its own has the nearest one of the directory above
it. -/
lemma Nearest.concat {name : String} {r : Option Path} (h : tree.Nearest directory r)
    (hnone : tree.get? (directory ++ [name] ++ [Config.fileName]) = none) :
    tree.Nearest (directory ++ [name]) r := by
  have hprefix : ∀ d', d' <+: directory ++ [name] → d' = directory ++ [name] ∨ d' <+: directory :=
    fun d' hd' => List.prefix_concat_iff.1 hd'
  cases h with
  | found habove hentry hnearer =>
    refine .found (habove.trans (List.prefix_append _ _)) hentry fun d' hd' hlt => ?_
    rcases hprefix d' hd' with rfl | hd'
    · exact hnone
    · exact hnearer d' hd' hlt
  | nowhere hall =>
    refine .nowhere fun d' hd' => ?_
    rcases hprefix d' hd' with rfl | hd'
    · exact hnone
    · exact hall d' hd'

/-- The first candidate that exists is the nearest configuration file. -/
lemma nearest_find? (tree : FileTree) (directory : Path) :
    tree.Nearest directory ((Config.candidates directory).find? fun p => (tree.get? p).isSome) := by
  -- The candidates are listed from the directory upward, so the induction takes off its last name.
  induction directory using List.reverseRecOn with
  | nil =>
    have hcandidates : Config.candidates [] = [[] ++ [Config.fileName]] := rfl
    rw [hcandidates, List.find?_singleton]
    cases hentry : tree.get? ([] ++ [Config.fileName]) with
    | none =>
      refine .nowhere fun d hd => ?_
      rw [List.prefix_nil.1 hd]
      exact hentry
    | some e => exact nearest_self (by rw [hentry]; simp)
  | append_singleton directory name ih =>
    rw [Config.candidates_concat, List.find?_cons]
    cases hentry : tree.get? (directory ++ [name] ++ [Config.fileName]) with
    | none => exact ih.concat hentry
    | some e => exact nearest_self (by rw [hentry]; simp)

/-- There is only one nearest configuration file. -/
lemma Nearest.unique {r r' : Option Path} (h : tree.Nearest directory r)
    (h' : tree.Nearest directory r') : r = r' := by
  cases h with
  | nowhere hnone =>
    cases h' with
    | nowhere => rfl
    | found habove hentry => exact absurd (hnone _ habove) hentry
  | @found d habove hentry hnearer =>
    cases h' with
    | nowhere hnone => exact absurd (hnone _ habove) hentry
    | @found d' habove' hentry' hnearer' =>
      rcases Nat.lt_trichotomy d.length d'.length with hlt | heq | hlt
      · exact absurd (hnearer _ habove' hlt) hentry'
      · rw [(List.prefix_of_prefix_length_le habove habove' (Nat.le_of_eq heq)).eq_of_length heq]
      · exact absurd (hnearer' _ habove hlt) hentry

end FileTree

/-! ### The one entry that is read -/

/-- The bytes of an entry. -/
def Entry.bytes : Entry → Except FileError ByteArray
  | .file bytes => .ok bytes
  | .directory => .error .isDirectory
  | .locked => .error .permissionDenied

namespace World

variable {w w' : World}

lemma nearest_iff (w : World) (r : Option Path) : w.tree.Nearest w.cwd r ↔ w.nearest? = r := by
  have hnearest : w.tree.Nearest w.cwd w.nearest? := w.tree.nearest_find? w.cwd
  constructor
  · exact fun h => hnearest.unique h
  · rintro rfl
    exact hnearest

/-- What stands at a location. There is nothing where a name leads nowhere. -/
def entryAt? (w : World) : Location → Option Entry
  | .named name => (w.tree.resolve w.cwd name).toOption.bind w.tree.get?
  | .rooted p => w.tree.get? p

lemma hasEntry_eq (w : World) (location : Location) :
    w.hasEntry location = (w.entryAt? location).isSome := by
  cases location with
  | rooted p => rfl
  | named name =>
    rw [hasEntry, FileTree.hasEntry, entryAt?]
    cases w.tree.resolve w.cwd name <;> rfl

lemma readAt_eq {tree : FileTree} {p : Path} {e : Entry} (h : tree.get? p = some e) :
    tree.readAt p = e.bytes := by
  rw [FileTree.readAt, h]
  cases e <;> rfl

/-- What is read at a location is a matter of its entry alone. -/
lemma read_eq {location : Location} {e : Entry} (h : w.entryAt? location = some e) :
    w.read location = e.bytes := by
  cases location with
  | rooted p => exact readAt_eq h
  | named name =>
    rw [entryAt?] at h
    rw [read, FileTree.read]
    cases hresolve : w.tree.resolve w.cwd name with
    | error err =>
      rw [hresolve] at h
      cases h
    | ok p =>
      rw [hresolve] at h
      exact readAt_eq h

lemma exists_entryAt?_of_configFile? {name : Option String} {location : Location}
    (h : w.configFile? name = some location) : ∃ e, w.entryAt? location = some e := by
  rw [← Option.isSome_iff_exists, ← hasEntry_eq]
  cases name with
  | some name =>
    obtain ⟨hentry, rfl⟩ : w.hasEntry (.named name) = true ∧ Location.named name = location := by
      simpa [configFile?] using h
    exact hentry
  | none =>
    obtain ⟨p, hp, rfl⟩ := Option.map_eq_some_iff.mp h
    exact List.find?_some (p := fun p => w.hasEntry (.rooted p)) hp

/-- The worlds have the same configuration file, with the same entry, or none in either of them. -/
structure SameConfigFile (w w' : World) (name : Option String) : Prop where
  configFile?_eq : w'.configFile? name = w.configFile? name
  entryAt?_eq : ∀ location ∈ w.configFile? name, w'.entryAt? location = w.entryAt? location

namespace SameConfigFile

variable {name : Option String}

lemma reads (h : w.SameConfigFile w' name) {location : Location}
    (hfile : w.configFile? name = some location) {r : Except FileError Text}
    (hread : w.Reads location r) : w'.Reads location r := by
  obtain ⟨e, he⟩ := exists_entryAt?_of_configFile? hfile
  have he' : w'.entryAt? location = some e := (h.entryAt?_eq location hfile).trans he
  rw [reads_iff, readText, read_eq he] at hread
  rw [reads_iff, readText, read_eq he', hread]

lemma nearest (hcwd : w'.cwd = w.cwd) {r : Option Path} (h : w.tree.Nearest w.cwd r)
    (h' : w'.tree.Nearest w.cwd r) (hentry : ∀ p ∈ r, w'.tree.get? p = w.tree.get? p) :
    w.SameConfigFile w' none := by
  have hw : w.configFile? none = r.map .rooted :=
    congrArg (Option.map Location.rooted) ((w.nearest_iff r).1 h)
  have hw' : w'.configFile? none = r.map .rooted := by
    rw [← hcwd] at h'
    exact congrArg (Option.map Location.rooted) ((w'.nearest_iff r).1 h')
  refine ⟨hw'.trans hw.symm, fun location hlocation => ?_⟩
  rw [hw] at hlocation
  obtain ⟨p, hp, rfl⟩ := Option.map_eq_some_iff.mp hlocation
  exact hentry p hp

lemma named {name : String} (h : w'.entryAt? (.named name) = w.entryAt? (.named name)) :
    w.SameConfigFile w' (some name) := by
  have hexists : w'.hasEntry (.named name) = w.hasEntry (.named name) := by
    rw [hasEntry_eq, hasEntry_eq, h]
  refine ⟨by rw [configFile?, configFile?, hexists], fun location hlocation => ?_⟩
  obtain ⟨-, rfl⟩ : w.hasEntry (.named name) = true ∧ Location.named name = location := by
    simpa [configFile?] using hlocation
  exact h

end SameConfigFile

end World

namespace Config

section

variable {decode : Text → Option Config} {w w' : World} {name : Option String} {s : Settings}

lemma Stored.of_sameConfigFile {stored : Option Config} (h : Stored decode w name stored)
    (hsame : w.SameConfigFile w' name) : Stored decode w' name stored := by
  cases h with
  | file hfile hread hdecode =>
    exact .file (hsame.configFile?_eq.trans hfile) (hsame.reads hfile hread) hdecode
  | nothing hfile =>
    refine .nothing ?_
    have hnone : w'.configFile? none = none := by
      rw [hsame.configFile?_eq, World.configFile?, hfile]
      rfl
    simpa [World.configFile?] using hnone

lemma Loads.of_sameConfigFile {r : Except ConfigError LoadedConfig} (h : Loads decode w name s r)
    (hsame : w.SameConfigFile w' name) : Loads decode w' name s r := by
  cases h with
  | @missing name _ hfile =>
    refine .missing ?_
    have hnone : w'.configFile? (some name) = none := by
      rw [hsame.configFile?_eq, World.configFile?, hfile]
      rfl
    simpa [World.configFile?] using hnone
  | unreadable hfile hread =>
    exact .unreadable (hsame.configFile?_eq.trans hfile) (hsame.reads hfile hread)
  | malformed hfile hread hdecode =>
    exact .malformed (hsame.configFile?_eq.trans hfile) (hsame.reads hfile hread) hdecode
  | invalid hstored hempty => exact .invalid (hstored.of_sameConfigFile hsame) hempty
  | loaded hstored hvalid =>
    rw [← hsame.configFile?_eq]
    exact .loaded (hstored.of_sameConfigFile hsame) hvalid

/-- Worlds with the same configuration file have the same result. -/
lemma run_loadWith_of_sameConfigFile (hsame : w.SameConfigFile w' name) :
    ((loadWith (m := StateM World) decode name s).run w').1 =
      ((loadWith (m := StateM World) decode name s).run w).1 := by
  obtain ⟨r, hr⟩ := exists_loads decode w name s
  rw [hr.run_eq, (hr.of_sameConfigFile hsame).run_eq]

lemma run_loadWith_stored {stored : Option Config} (h : Stored decode w name stored) :
    (loadWith (m := StateM World) decode name s).run w =
      (finish ⟨stored.getD {}, w.configFile? name⟩ s, w) :=
  run_loadWith (run_loadStored h)

end

/-- **The nearest configuration file counts, and nothing else.** For every way to read configuration
files, every world and all settings of the command line:

* discovery ends, changes nothing, and finds the nearest entry, or nothing if there is none;
* where no file is asked for, an entry that cannot be read or that describes no configuration makes
  loading fail, and any other one is what the configuration is made of;
* two file trees with the same nearest entry give the same result, and so do, if a file is asked
  for, two file trees in which the same stands at its name. -/
theorem run_discover?_iff_nearest (decode : Text → Option Config) (w : World) (s : Settings) :
    (∀ r w', (discover? (m := StateM World)).run w = (r, w') ↔
        w' = w ∧ w.tree.Nearest w.cwd r) ∧
      (∀ p, w.tree.Nearest w.cwd (some p) →
        (∀ e, w.readText (.rooted p) = .error e →
            (loadWith (m := StateM World) decode none s).run w = (.error (.unreadable e), w)) ∧
          ∀ t, w.readText (.rooted p) = .ok t →
            (decode t = none →
                (loadWith (m := StateM World) decode none s).run w = (.error .malformed, w)) ∧
              ∀ c, decode t = some c → (loadWith (m := StateM World) decode none s).run w =
                (finish ⟨c, some (.rooted p)⟩ s, w)) ∧
      (w.tree.Nearest w.cwd none → (loadWith (m := StateM World) decode none s).run w =
        (finish ⟨{}, none⟩ s, w)) ∧
      (∀ w' r, w'.cwd = w.cwd → w.tree.Nearest w.cwd r → w'.tree.Nearest w.cwd r →
        (∀ p ∈ r, w'.tree.get? p = w.tree.get? p) →
          ((loadWith (m := StateM World) decode none s).run w').1 =
            ((loadWith (m := StateM World) decode none s).run w).1) ∧
      ∀ w' name, w'.entryAt? (.named name) = w.entryAt? (.named name) →
        ((loadWith (m := StateM World) decode (some name) s).run w').1 =
          ((loadWith (m := StateM World) decode (some name) s).run w).1 := by
  refine ⟨fun r w' => ?discovery, fun p hp => ?nearest, fun hnone => ?nowhere,
    fun w' r hcwd hr hr' hentry => ?sameNearest, fun w' name hentry => ?sameNamed⟩
  case discovery =>
    rw [run_discover?, w.nearest_iff, Prod.mk.injEq]
    tauto
  case nearest =>
    have hfile : w.configFile? none = some (.rooted p) :=
      congrArg (Option.map Location.rooted) ((w.nearest_iff _).1 hp)
    refine ⟨fun e hread => ?_, fun t hread => ⟨fun hdecode => ?_, fun c hdecode => ?_⟩⟩
    · exact (Loads.unreadable hfile (World.reads_iff.2 hread)).run_eq
    · exact (Loads.malformed hfile (World.reads_iff.2 hread) hdecode).run_eq
    · rw [run_loadWith_stored (.file hfile (World.reads_iff.2 hread) hdecode), hfile]
      rfl
  case nowhere =>
    have hnearest : w.nearest? = none := (w.nearest_iff none).1 hnone
    rw [run_loadWith_stored (.nothing hnearest), World.configFile?, hnearest]
    rfl
  case sameNearest => exact run_loadWith_of_sameConfigFile (.nearest hcwd hr hr' hentry)
  case sameNamed => exact run_loadWith_of_sameConfigFile (.named hentry)

/-- A world whose working directory has the configuration file `nearest` directly above it, and
another one further up. -/
def homeWorld (nearest : Entry) (input : ByteArray) (farther : Entry) : World where
  tree := ⟨[(["home"], .directory), (["home", "docs"], .directory),
    (["home", "md2confl.toml"], nearest), (["md2confl.toml"], farther)]⟩
  cwd := ["home", "docs"]
  input := input

lemma nearest_homeWorld (nearest : Entry) (input : ByteArray) (farther : Entry) :
    (homeWorld nearest input farther).tree.Nearest ["home", "docs"]
      (some ["home", "md2confl.toml"]) :=
  ((homeWorld nearest input farther).nearest_iff _).2 rfl

/-- A directory with the name of a configuration file hides the file further up. So does a file that
describes no configuration, while one that describes some is taken. The file further up makes no
difference, whether or not one is asked for by its name. -/
theorem run_loadWith_homeWorld :
    (loadWith (m := StateM World) decode? none {}).run
        (homeWorld .directory .empty (.file .empty)) =
          (.error (.unreadable .isDirectory), homeWorld .directory .empty (.file .empty)) ∧
      (loadWith (m := StateM World) decode? none {}).run
        (homeWorld (.file "x".toUTF8) .empty (.file .empty)) =
          (.error .malformed, homeWorld (.file "x".toUTF8) .empty (.file .empty)) ∧
      (loadWith (m := StateM World) decode? none {}).run
        (homeWorld (.file spoiledFile.toUTF8) .empty (.file .empty)) =
          (.error .emptyReplacement, homeWorld (.file spoiledFile.toUTF8) .empty (.file .empty)) ∧
      ((loadWith (m := StateM World) decode? none {}).run
          (homeWorld .directory "a".toUTF8 .locked)).1 = .error (.unreadable .isDirectory) ∧
      ((loadWith (m := StateM World) decode? (some "../md2confl.toml") {}).run
          (homeWorld .directory .empty .locked)).1 =
        ((loadWith (m := StateM World) decode? (some "../md2confl.toml") {}).run
          (homeWorld .directory .empty (.file .empty))).1 := by
  have hblocked := ((run_discover?_iff_nearest decode? (homeWorld .directory .empty (.file .empty))
    {}).2.1 _ (nearest_homeWorld _ _ _)).1 .isDirectory rfl
  have hread : ∀ file : String,
      (homeWorld (.file file.toUTF8) .empty (.file .empty)).readText
        (.rooted ["home", "md2confl.toml"]) = .ok file.toList := decodeText_toUTF8
  have hmalformed := (((run_discover?_iff_nearest decode?
    (homeWorld (.file "x".toUTF8) .empty (.file .empty)) {}).2.1 _ (nearest_homeWorld _ _ _)).2 _
      (hread "x")).1 (by decide +kernel)
  have hspoiled := (((run_discover?_iff_nearest decode?
    (homeWorld (.file spoiledFile.toUTF8) .empty (.file .empty)) {}).2.1 _
      (nearest_homeWorld _ _ _)).2 _ (hread spoiledFile)).2
        { theme := some "midnight".toList, newlines := .text [] } (by decide +kernel)
  have hsame := (run_discover?_iff_nearest decode? (homeWorld .directory .empty (.file .empty))
    {}).2.2.2.1 (homeWorld .directory "a".toUTF8 .locked) _ rfl (nearest_homeWorld _ _ _)
      (nearest_homeWorld _ _ _) fun p hp => by cases hp; rfl
  have hnamed := (run_discover?_iff_nearest decode? (homeWorld .directory .empty (.file .empty))
    {}).2.2.2.2 (homeWorld .directory .empty .locked) "../md2confl.toml" rfl
  exact ⟨hblocked, hmalformed, hspoiled, hsame.trans (congrArg Prod.fst hblocked), hnamed⟩

end Config

end WikiMarkup
