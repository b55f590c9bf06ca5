import Mathlib.Data.Char
import Mathlib.Data.List.Lex
import WikiMarkup.Proofs.Text.Pieces
import WikiMarkup.Wiki.CodeMacro
/-!
# Reading a code macro back

The code of a code macro stands in it to the letter, and it may look like a macro itself, with
headers, separators and closing tags. The macro can be read back all the same. No parameter has a
brace or a separator in it, so the header ends at the first closing brace, and behind the header
everything but the closing tag at the very end is code (`readCodeMacro?_codeBlock`). In the header
the keys ascend, since parameters are put in order whatever order they are given in.
-/

namespace WikiMarkup

namespace Text

/-- The parts of a text before and behind the first occurrence of a character. -/
def cut? (c : Char) : Text → Option (Text × Text)
  | [] => none
  | d :: t => if d = c then some ([], t) else (cut? c t).map fun parts => (d :: parts.1, parts.2)

/-- What stands before a given end, if the text has that end. -/
def dropEnd? (e t : Text) : Option Text := (dropStart? e.reverse t.reverse).map List.reverse

lemma cut?_append {c : Char} {p : Text} (h : c ∉ p) (t : Text) :
    cut? c (p ++ c :: t) = some (p, t) := by
  induction p with
  | nil => simp [cut?]
  | cons d p ih =>
    obtain ⟨hd, hp⟩ : c ≠ d ∧ c ∉ p := by simpa using h
    rw [List.cons_append, cut?, if_neg hd.symm, ih hp]
    rfl

lemma dropStart?_append (p t : Text) : dropStart? p (p ++ t) = some t := by
  induction p with
  | nil => rfl
  | cons c p ih => rw [List.cons_append, dropStart?, if_pos rfl, ih]

lemma dropEnd?_append (t e : Text) : dropEnd? e (t ++ e) = some t := by
  rw [dropEnd?, List.reverse_append, dropStart?_append, Option.map_some, List.reverse_reverse]

end Text

/-! ### Names and tokens -/

lemma Language.ofToken?_token (language : Language) :
    Language.ofToken? language.token = some language := by
  cases language <;> decide

lemma Language.token_injective : Function.Injective Language.token := by
  intro l l' h
  have hread := congrArg Language.ofToken? h
  rw [Language.ofToken?_token, Language.ofToken?_token] at hread
  exact Option.some.inj hread

lemma Theme.ofExactName?_name (theme : Theme) : Theme.ofExactName? theme.name = some theme := by
  cases theme <;> decide

lemma Theme.name_injective : Function.Injective Theme.name := by
  intro theme theme' h
  have hread := congrArg Theme.ofExactName? h
  rw [Theme.ofExactName?_name, Theme.ofExactName?_name] at hread
  exact Option.some.inj hread

lemma Text.ofBool_injective : Function.Injective Text.ofBool := by
  have h : ∀ a b : Bool, Text.ofBool a = Text.ofBool b → a = b := by decide
  exact h

/-! ### Flags -/

/-- The value of a flag for a code in a language: a constant flag always has the same one, and for a
computed one the predicate says it. -/
inductive Flag.Gives : Flag → Text → Language → Bool → Prop
  | constant (value : Bool) (code : Text) (language : Language) :
      Gives (.constant value) code language value
  | computed (predicate : Text → Language → Bool) (code : Text) (language : Language) :
      Gives (.computed predicate) code language (predicate code language)

lemma Flag.gives_iff {flag : Flag} {code : Text} {language : Language} {value : Bool} :
    flag.Gives code language value ↔ value = flag.resolve code language := by
  constructor
  · rintro (_ | _) <;> rfl
  · rintro rfl
    cases flag <;> constructor

/-- Flags have the same value for a block if the same value is that of either. -/
lemma Flag.gives_congr {flag flag' : Flag} {code : Text} {language : Language} :
    (∀ value, flag'.Gives code language value ↔ flag.Gives code language value) ↔
      flag'.resolve code language = flag.resolve code language := by
  simp only [Flag.gives_iff]
  exact ⟨fun h => (h _).1 rfl, fun h value => by rw [h]⟩

lemma Text.ofBool_eq (value : Bool) :
    Text.ofBool value = (if value then "true" else "false").toList := by
  cases value <;> rfl

namespace Wiki

/-! ### The order of parameters -/

/-- Each parameter that is put in is the new one or has been there before. -/
lemma mem_of_mem_insertParameter {p q : Text × Text} {ps : List (Text × Text)}
    (h : q ∈ insertParameter p ps) : q = p ∨ q ∈ ps := by
  induction ps with
  | nil => simpa [insertParameter] using h
  | cons r ps ih =>
    rw [insertParameter] at h
    split_ifs at h
    · exact List.mem_cons.1 h
    · exact (List.mem_cons.1 h).imp_right (List.mem_cons_of_mem r)
    · rcases List.mem_cons.1 h with rfl | h
      · exact .inr List.mem_cons_self
      · exact (ih h).imp_right (List.mem_cons_of_mem r)

/-- Keys that ascend still do so with one more parameter put in. -/
lemma pairwise_insertParameter (p : Text × Text) {ps : List (Text × Text)}
    (h : ps.Pairwise fun q r => q.1 < r.1) :
    (insertParameter p ps).Pairwise fun q r => q.1 < r.1 := by
  induction ps with
  | nil => exact List.pairwise_singleton _ p
  | cons q ps ih =>
    obtain ⟨hq, hps⟩ := List.pairwise_cons.1 h
    rw [insertParameter]
    split_ifs with hbefore hsame
    · refine List.pairwise_cons.2 ⟨fun r hr => ?_, h⟩
      rcases List.mem_cons.1 hr with rfl | hr
      · exact hbefore
      · exact hbefore.trans (hq r hr)
    · exact List.pairwise_cons.2 ⟨fun r hr => hsame ▸ hq r hr, hps⟩
    · have hbehind : q.1 < p.1 := lt_of_le_of_ne (not_lt.1 hbefore) (Ne.symm hsame)
      refine List.pairwise_cons.2 ⟨fun r hr => ?_, ih hps⟩
      rcases mem_of_mem_insertParameter hr with rfl | hr
      · exact hbehind
      · exact hq r hr

/-- The keys of ordered parameters ascend. -/
lemma pairwise_orderParameters (ps : List (Text × Text)) :
    ((orderParameters ps).map Prod.fst).Pairwise (· < ·) := by
  -- The induction is on the parameters that are left, over all that may have been put in before.
  have hfold : ∀ ordered : List (Text × Text), ordered.Pairwise (fun q r => q.1 < r.1) →
      (ps.foldl (fun ordered p => insertParameter p ordered) ordered).Pairwise
        fun q r => q.1 < r.1 := by
    induction ps with
    | nil => exact fun _ h => h
    | cons p ps ih => exact fun _ h => ih _ (pairwise_insertParameter p h)
  exact List.pairwise_map.2 (hfold [] .nil)

/-! ### Marks in parameters -/

/-- The characters that mark off the parameters of a macro and its header. -/
def headerMarks : List Char := ['=', '|', '\x7b', '\x7d', '\n']

/-- None of these characters stands in a text. -/
def isUnmarked (t : Text) : Bool := headerMarks.all fun c => c ∉ t

lemma notMem_of_isUnmarked {t : Text} (h : isUnmarked t = true) {c : Char}
    (hc : c ∈ headerMarks) : c ∉ t := by
  simpa using List.all_eq_true.1 h c hc

lemma isUnmarked_token (language : Language) : isUnmarked language.token = true := by
  cases language <;> decide

lemma isUnmarked_name (theme : Theme) : isUnmarked theme.name = true := by
  cases theme <;> decide

lemma isUnmarked_ofBool (value : Bool) : isUnmarked (Text.ofBool value) = true := by
  cases value <;> decide

section

variable (o : Options) (code : Text)

lemma isUnmarked_codeParameters (language : Language) {p : Text × Text}
    (hp : p ∈ codeParameters o code language) : isUnmarked p.1 = true ∧ isUnmarked p.2 = true := by
  simp only [codeParameters_eq, List.mem_cons, List.not_mem_nil, or_false] at hp
  rcases hp with rfl | rfl | rfl | rfl
  · exact ⟨rfl, isUnmarked_ofBool _⟩
  · exact ⟨rfl, isUnmarked_token _⟩
  · exact ⟨rfl, isUnmarked_ofBool _⟩
  · exact ⟨rfl, isUnmarked_name _⟩

lemma notMem_codeParameters (language : Language) {p : Text × Text}
    (hp : p ∈ codeParameters o code language) {c : Char} (hc : c ∈ headerMarks) :
    c ∉ p.1 ∧ c ∉ p.2 := by
  obtain ⟨hkey, hvalue⟩ := isUnmarked_codeParameters o code language hp
  exact ⟨notMem_of_isUnmarked hkey hc, notMem_of_isUnmarked hvalue hc⟩

/-! ### The macro -/

/-- A code macro as it is read back. -/
structure CodeMacro where
  /-- The parameters with their values, in the order in which they stand. -/
  parameters : List (Text × Text)
  /-- The code. -/
  code : Text
deriving DecidableEq, Repr

/-- The parameters of a header, which stand between separators and are cut at their first equals
sign. -/
def readParameters? (header : Text) : Option (List (Text × Text)) :=
  (header.split '|').mapM (Text.cut? '=')

/-- Reads a code macro that makes up the whole text. Its header ends at the first closing brace. -/
def readCodeMacro? (t : Text) : Option CodeMacro := do
  let behindOpening ← Text.dropStart? "\x7bcode:".toList t
  let (header, behindHeader) ← Text.cut? '\x7d' behindOpening
  let parameters ← readParameters? header
  let behindNewline ← Text.dropStart? "\n".toList behindHeader
  let code ← Text.dropEnd? "\n\x7bcode\x7d\n\n".toList behindNewline
  return ⟨parameters, code⟩

lemma mapM_cut?_map {ps : List (Text × Text)} (h : ∀ p ∈ ps, '=' ∉ p.1) :
    (ps.map fun p => p.1 ++ ['='] ++ p.2).mapM (Text.cut? '=') = some ps := by
  induction ps with
  | nil => rfl
  | cons p ps ih =>
    obtain ⟨hp, hps⟩ := List.forall_mem_cons.1 h
    have hcut : Text.cut? '=' (p.1 ++ ['='] ++ p.2) = some p := by
      rw [List.append_assoc]
      exact Text.cut?_append hp p.2
    rw [List.map_cons, List.mapM_cons, hcut, ih hps]
    rfl

/-- Joined parameters are read back if no separator stands in them and no equals sign in a name. -/
lemma readParameters?_join {ps : List (Text × Text)} (hne : ps ≠ [])
    (h : ∀ p ∈ ps, '=' ∉ p.1 ∧ '|' ∉ p.1 ∧ '|' ∉ p.2) :
    readParameters? (joinParameters ['|'] ps) = some ps := by
  have hpieces : ∀ l ∈ ps.map fun p => p.1 ++ ['='] ++ p.2, '|' ∉ l := by
    intro l hl
    obtain ⟨p, hp, rfl⟩ := List.mem_map.1 hl
    simp [(h p hp).2.1, (h p hp).2.2]
  rw [readParameters?, joinParameters, Text.split_join (by simpa using hne) hpieces]
  exact mapM_cut?_map fun p hp => (h p hp).1

lemma brace_notMem_joinParameters (language : Language) :
    '\x7d' ∉ joinParameters ['|'] (codeParameters o code language) := by
  intro h
  obtain ⟨l, hl, hbrace⟩ := Text.exists_mem_of_mem_join (by decide) h
  obtain ⟨p, hp, rfl⟩ := List.mem_map.1 hl
  obtain ⟨hkey, hvalue⟩ := notMem_codeParameters o code language hp (c := '\x7d') (by decide)
  simp [hkey, hvalue] at hbrace

/-- A code block is read back as its parameters and its code. -/
lemma readCodeMacro?_codeBlock (hint : Option Text) :
    readCodeMacro? (codeBlock o code hint) =
      some ⟨codeParameters o code (Language.resolve hint), code⟩ := by
  have hmarks : ∀ p ∈ codeParameters o code (Language.resolve hint),
      '=' ∉ p.1 ∧ '|' ∉ p.1 ∧ '|' ∉ p.2 := fun p hp =>
    ⟨(notMem_codeParameters o code _ hp (by decide)).1,
      notMem_codeParameters o code _ hp (by decide)⟩
  have hparameters := readParameters?_join (by simp [codeParameters_eq]) hmarks
  have hbrace := brace_notMem_joinParameters o code (Language.resolve hint)
  have hshape : codeBlock o code hint = "\x7bcode:".toList ++
      (joinParameters ['|'] (codeParameters o code (Language.resolve hint)) ++ '\x7d' ::
        ("\n".toList ++ (code ++ "\n\x7bcode\x7d\n\n".toList))) := by
    unfold codeBlock codeHeader
    simp only [List.append_assoc]
    rfl
  rw [hshape, readCodeMacro?]
  simp only [Text.dropStart?_append, Text.cut?_append hbrace, hparameters, Text.dropEnd?_append,
    Option.bind_eq_bind, Option.bind_some]
  rfl

end

/-- **Code macros can be read back.** Whatever the code is, and whether the flags are constant or
computed for each block, the macro begins with its header. Up to the first closing brace that holds
four parameters in the order of their names: the two flags for the code and its language, the
language of the hint and the theme. Behind it stands the code to the letter. So two macros are the
same only if all of these are. -/
theorem codeBlock_read_back (o : Options) (code : Text) (hint : Option Text) :
    (∃ m collapse lineNumbers, readCodeMacro? (codeBlock o code hint) = some m ∧
      o.collapse.Gives code (Language.resolve hint) collapse ∧
      o.lineNumbers.Gives code (Language.resolve hint) lineNumbers ∧
      m.parameters =
        [("collapse".toList, (if collapse then "true" else "false").toList),
          ("language".toList, (Language.resolve hint).token),
          ("linenumbers".toList, (if lineNumbers then "true" else "false").toList),
          ("theme".toList, o.theme.name)] ∧
      (m.parameters.map Prod.fst).Pairwise (· < ·) ∧ m.code = code) ∧
      ∀ (o' : Options) (code' : Text) (hint' : Option Text),
        codeBlock o' code' hint' = codeBlock o code hint ↔
          code' = code ∧ Language.resolve hint' = Language.resolve hint ∧ o'.theme = o.theme ∧
            (∀ value, o'.lineNumbers.Gives code (Language.resolve hint) value ↔
              o.lineNumbers.Gives code (Language.resolve hint) value) ∧
            ∀ value, o'.collapse.Gives code (Language.resolve hint) value ↔
              o.collapse.Gives code (Language.resolve hint) value := by
  refine ⟨⟨_, _, _, readCodeMacro?_codeBlock o code hint, Flag.gives_iff.2 rfl,
    Flag.gives_iff.2 rfl, ?_, pairwise_orderParameters _, rfl⟩, fun o' code' hint' => ?_⟩
  · rw [codeParameters_eq, Text.ofBool_eq, Text.ofBool_eq]
  · rw [Flag.gives_congr, Flag.gives_congr]
    constructor
    · intro h
      -- Equal macros are read back alike, and what they are read back as tells the values apart.
      have hread := congrArg readCodeMacro? h
      rw [readCodeMacro?_codeBlock, readCodeMacro?_codeBlock] at hread
      obtain ⟨hparameters, rfl⟩ := CodeMacro.mk.inj (Option.some.inj hread)
      simp only [codeParameters_eq, List.cons.injEq, Prod.mk.injEq, true_and, and_true]
        at hparameters
      obtain ⟨hcollapse, hlanguage, hnumbers, htheme⟩ := hparameters
      have hresolve := Language.token_injective hlanguage
      rw [hresolve] at hcollapse hnumbers
      exact ⟨rfl, hresolve, Theme.name_injective htheme, Text.ofBool_injective hnumbers,
        Text.ofBool_injective hcollapse⟩
    · rintro ⟨rfl, hresolve, htheme, hnumbers, hcollapse⟩
      unfold codeBlock codeHeader
      rw [codeParameters_eq, codeParameters_eq, hresolve, htheme, hnumbers, hcollapse]

/-- Code that looks like the end of a macro and the header of the next one. -/
example : (readCodeMacro? (codeBlock {} "a\n\x7bcode\x7d\n\n\x7bcode:b=c\x7d".toList none)).map
    CodeMacro.code = some "a\n\x7bcode\x7d\n\n\x7bcode:b=c\x7d".toList := by
  decide

end Wiki

end WikiMarkup
