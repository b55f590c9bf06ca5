import WikiMarkup.Proofs.Language.Aliases
import WikiMarkup.Proofs.Text.Words
import WikiMarkup.Proofs.Wiki.CodeBlock
import WikiMarkup.Proofs.Wiki.CodeMacro
/-!
# The language of a fenced code block

The info string behind a fence begins with a hint, and the code macro shows the language that the
hint stands for. Of the info string nothing counts but the lowercase form of its first word: the
language is the one that lists it among its aliases (`language_of_info`).

The macro is looked at as it stands in the output, read back with its parameters. That a hint leads
to one language at most, however it is looked up, was shown of the aliases.
-/

namespace WikiMarkup.Wiki

/-- The value of the language parameter of a code macro. -/
def languageParameter? (t : Text) : Option Text :=
  (readCodeMacro? t).bind fun m => m.parameters.lookup "language".toList

/-- A language lists the first word of an info string, in lowercase, among its aliases. -/
def Names (info : Text) (l : Language) : Prop :=
  ∃ word, Text.IsFirstWord word info ∧ word.lowercase ∈ l.aliases

/-- The code block with an info string behind its fence. -/
def fencedBlock (o : Options) (info code : Text) : Text :=
  codeBlock o code (Language.hintOfInfo? info)

variable {info : Text}

lemma exists_hint_iff_names {l : Language} :
    (∃ h ∈ Language.hintOfInfo? info, h.lowercase ∈ l.aliases) ↔ Names info l := by
  simp only [Language.hintOfInfo?, Option.mem_def, Text.firstWord?_eq_some_iff, Names]

lemma Names.unique {l l' : Language} (h : Names info l) (h' : Names info l') : l = l' := by
  obtain ⟨word, hword, hmem⟩ := h
  obtain ⟨word', hword', hmem'⟩ := h'
  rw [← Text.firstWord?_eq_some_iff] at hword hword'
  obtain rfl := Option.some.inj (hword.symm.trans hword')
  exact Language.eq_of_mem_aliases hmem hmem'

/-! ### The language parameter -/

section

variable (o : Options) (code : Text)

lemma languageParameter?_codeBlock (hint : Option Text) :
    languageParameter? (codeBlock o code hint) = some (Language.resolve hint).token := by
  rw [languageParameter?, readCodeMacro?_codeBlock]
  rfl

/-- The parameter shows a language if the hint stands for it, since no two languages share a
token. -/
lemma languageParameter?_fencedBlock_eq_iff (l : Language) :
    languageParameter? (fencedBlock o info code) = some l.token ↔
      Language.resolve (Language.hintOfInfo? info) = l := by
  rw [fencedBlock, languageParameter?_codeBlock, Option.some_inj,
    Language.token_injective.eq_iff]

lemma codeBlock_congr {hint hint' : Option Text}
    (h : Language.resolve hint' = Language.resolve hint) :
    codeBlock o code hint' = codeBlock o code hint := by
  rw [codeBlock, codeBlock, h]

end

/-- Info strings lead to the same block if their first words have the same lowercase form, or the
same letters in either case. -/
lemma fencedBlock_congr (o : Options) {info' word word' : Text}
    (hword : Text.IsFirstWord word info) (hword' : Text.IsFirstWord word' info')
    (h : word.lowercase = word'.lowercase ∨ Language.EqualUpToCase word word') :
    fencedBlock o info' = fencedBlock o info := by
  have hresolve : Language.resolve (some word') = Language.resolve (some word) := by
    rcases h with heq | heq
    · rw [Language.resolve, Language.resolve, heq]
    · exact (Language.resolve_eq_of_equalUpToCase heq).symm
  rw [← Text.firstWord?_eq_some_iff] at hword hword'
  funext code
  refine codeBlock_congr o code ?_
  rw [Language.hintOfInfo?, Language.hintOfInfo?, hword, hword', hresolve]

/-- A fenced code block that only holds text is rendered, in any construct outside images. -/
lemma run_codeTree (o : Options) {w : Walk} (hw : w.inImage = false) (info : Text)
    (texts : List Text) :
    w.run (backend o) (codeTree (some info) texts).events =
      (w.append (fencedBlock o info (codeOf texts)), .ok ()) := by
  have hplace : w.place ≠ .image := by simpa [Walk.place_eq_image_iff, Walk.inImage] using hw
  obtain ⟨s, hs, hwrites⟩ :=
    (codeTree_shaped (some info) texts).evaluates (backend o).answer w.place w.table
  obtain rfl := hs rfl
  have htraverse := hwrites w rfl rfl []
  rw [List.append_nil, meaning_codeTree o (some info) texts hplace] at htraverse
  have htable : ∀ t, (w.append t).withTable w.table = w.append t := fun t => by
    rw [← Walk.table_append w t, Walk.withTable_table]
  refine Walk.traverse_answer_eq_ok_iff.1 (htraverse.trans ?_)
  exact congrArg Except.ok (htable _)

/-- **The language of a fenced code block.** Outside images a fenced code block of text is rendered,
and every code block that is rendered there is the one that its info string leads to. Its language
parameter shows a language if and only if that language lists the first word of the info string, in
lowercase, and there is no other such language; it shows that there is none if no language lists it,
in particular if there is no word. It does not matter whether a hint is looked up in the list of all
aliases or in the lists of the languages, nor what stands behind the first word, nor in which case
its letters are. -/
theorem language_of_info (o : Options) {w : Walk} (hw : w.inImage = false) (info : Text) :
    (∀ texts, w.run (backend o) (codeTree (some info) texts).events =
        (w.append (fencedBlock o info (codeOf texts)), .ok ())) ∧
      (∀ ts w', w.run (backend o) (Tree.node (.codeBlock (some info)) ts).events = (w', .ok ()) →
        ∃ code s, w' = (w.append (fencedBlock o info code)).withTable s) ∧
      (∀ code, (∀ l : Language, l ≠ .plain →
          (languageParameter? (fencedBlock o info code) = some l.token ↔ Names info l)) ∧
        (languageParameter? (fencedBlock o info code) = some "none".toList ↔
          ∀ l, ¬Names info l)) ∧
      (∀ l l', Names info l → Names info l' → l = l') ∧
      (∀ hint : Option Text, Language.resolve hint =
        (hint.bind fun h => Language.listing? h.lowercase).getD .plain) ∧
      ∀ info' word word', Text.IsFirstWord word info → Text.IsFirstWord word' info' →
        word.lowercase = word'.lowercase ∨ Language.EqualUpToCase word word' →
        fencedBlock o info' = fencedBlock o info := by
  refine ⟨run_codeTree o hw info, fun ts w' hrun => ?_, fun code => ⟨fun l hl => ?_, ?_⟩,
    fun _ _ => Names.unique, Language.resolve_eq_listing, fun _ _ _ => fencedBlock_congr o⟩
  · obtain ⟨content, t, s, ht, hend⟩ := Walk.exists_run_node_eq hw rfl hrun
    rw [Tag.meaning_codeBlock] at ht
    obtain rfl := Except.ok.inj ht
    exact ⟨content.withoutFinal '\n', s, hend⟩
  · rw [languageParameter?_fencedBlock_eq_iff, Language.resolve_eq_iff hl, exists_hint_iff_names]
  · have hplain : "none".toList = Language.plain.token := rfl
    rw [hplain, languageParameter?_fencedBlock_eq_iff, Language.resolve_eq_plain_iff]
    simp only [exists_hint_iff_names]

/-- An info string whose first word begins with a Kelvin sign. -/
def kelvinInfo : Text := "\t\u212AIT kit.rs".toList

/-- In an item of a list the block has the language that lists `kit`, as if the letters were ASCII
and nothing stood around them. -/
theorem language_of_info_kelvin :
    (({} : Walk).push .item).inImage = false ∧
      (({} : Walk).push .item).run (backend {}) (codeTree (some kelvinInfo) shellCode).events =
        ((({} : Walk).push .item).append (fencedBlock {} kelvinInfo (codeOf shellCode)), .ok ()) ∧
      languageParameter? (fencedBlock {} kelvinInfo (codeOf shellCode)) = some "html".toList ∧
      fencedBlock {} "kit".toList = fencedBlock {} kelvinInfo := by
  have hw : (({} : Walk).push .item).inImage = false := rfl
  have hkelvin : Text.IsFirstWord "\u212AIT".toList kelvinInfo :=
    Text.firstWord?_eq_some_iff.1 (by decide)
  have hkit : Text.IsFirstWord "kit".toList "kit".toList :=
    Text.firstWord?_eq_some_iff.1 (by decide)
  have hlowercase : Text.lowercase "\u212AIT".toList = "kit".toList := by decide +kernel
  obtain ⟨hrun, -, hparameter, -, -, hcase⟩ := language_of_info {} hw kelvinInfo
  refine ⟨hw, hrun shellCode, ?_, ?_⟩
  · refine ((hparameter _).1 .html (by decide)).2 ⟨_, hkelvin, ?_⟩
    rw [hlowercase]
    decide
  · exact hcase _ _ _ hkelvin hkit (.inl (hlowercase.trans (by decide)))

end WikiMarkup.Wiki
