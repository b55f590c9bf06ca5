import Mathlib.Data.List.Nodup
import Mathlib.Data.List.Pairwise
import Mathlib.Tactic.Common
import WikiMarkup.Language
/-!
# Aliases

A hint is looked up in one list of all aliases, in which the last entry for an alias counts, and a
language may also be searched for by its own list, where the first language of the table counts. The
two agree because no alias is listed twice (`nodup_aliases`), so both find the one language that
lists the hint.

The hint is looked up in lowercase, and aliases are made of ASCII characters only. For this reason
it does not matter which of its two lowercase forms a capital sigma has, and a letter may be in
either case (`resolve_eq_of_equalUpToCase`).

The token that the macro shows for a language is one of its aliases too, so it may be written as a
hint. There is one language of which this is not true (`resolve_token`).
-/

namespace WikiMarkup.Language

/-! ### One language for each alias -/

/-- The characters of a text put together to one number. -/
def codeNumber (t : Text) : Nat := t.foldl (fun n c => 256 * n + c.toNat) 0

/-- No alias is listed twice. -/
lemma nodup_aliases : (all.flatMap aliases).Nodup := by
  -- Numbers are much faster to compare than aliases, and no two aliases share one.
  have hnumbers : ((all.flatMap aliases).map codeNumber).Nodup := by decide +kernel
  exact hnumbers.of_map codeNumber

lemma aliases_plain : plain.aliases = [] := rfl

/-- An alias belongs to one language. -/
lemma eq_of_mem_aliases {t : Text} {l m : Language} (hl : t ∈ l.aliases) (hm : t ∈ m.aliases) :
    l = m := by
  by_contra hne
  have : Std.Symm (Function.onFun List.Disjoint aliases) := ⟨fun _ _ h _ ha hb => h hb ha⟩
  have hdisjoint := (List.nodup_flatMap.1 nodup_aliases).2
  exact hdisjoint.forall (mem_all l) (mem_all m) hne hl hm

lemma mem_aliasTable {l : Language} {ts : List Text} :
    (l, ts) ∈ aliasTable ↔ l ≠ .plain ∧ ts = l.aliases := by
  rw [aliasTable, List.mem_map]
  constructor
  · rintro ⟨m, hm, hentry⟩
    obtain ⟨rfl, rfl⟩ := Prod.mk.inj hentry
    exact ⟨by simpa using (List.mem_filter.1 hm).2, rfl⟩
  · rintro ⟨hl, rfl⟩
    exact ⟨l, List.mem_filter.2 ⟨mem_all l, by simpa using hl⟩, rfl⟩

lemma ne_plain_of_mem_aliases {t : Text} {l : Language} (h : t ∈ l.aliases) : l ≠ .plain := by
  rintro rfl
  rw [aliases_plain] at h
  cases h

lemma mem_aliasEntries {t : Text} {l : Language} : (t, l) ∈ aliasEntries ↔ t ∈ l.aliases := by
  rw [aliasEntries, List.mem_flatMap]
  constructor
  · rintro ⟨⟨m, ts⟩, hentry, hmem⟩
    obtain ⟨-, rfl⟩ := mem_aliasTable.1 hentry
    obtain ⟨u, hu, huse⟩ := List.mem_map.1 hmem
    obtain ⟨rfl, rfl⟩ := Prod.mk.inj huse
    exact hu
  · intro h
    exact ⟨(l, l.aliases), mem_aliasTable.2 ⟨ne_plain_of_mem_aliases h, rfl⟩,
      List.mem_map_of_mem h⟩

/-! ### The two ways to look up an alias -/

/-- Where all hits of a search have the same image, the search leads to it from either end. -/
lemma map_find?_eq_some_iff {α β : Type} {ls : List α} {p : α → Bool} {f : α → β}
    (h : ∀ x ∈ ls, ∀ y ∈ ls, p x = true → p y = true → f x = f y) {z : β} :
    (ls.find? p).map f = some z ↔ ∃ x ∈ ls, p x = true ∧ f x = z := by
  rw [Option.map_eq_some_iff]
  constructor
  · rintro ⟨x, hx, rfl⟩
    exact ⟨x, List.mem_of_find?_eq_some hx, List.find?_some hx, rfl⟩
  · rintro ⟨x, hx, hpx, rfl⟩
    have hsome : (ls.find? p).isSome := List.find?_isSome.2 ⟨x, hx, hpx⟩
    obtain ⟨y, hy⟩ := Option.isSome_iff_exists.1 hsome
    exact ⟨y, hy, h y (List.mem_of_find?_eq_some hy) x hx (List.find?_some hy) hpx⟩

/-- The list of all aliases leads from an alias to the language that lists it. -/
lemma ofAlias?_eq_some_iff {t : Text} {l : Language} : ofAlias? t = some l ↔ t ∈ l.aliases := by
  have hmem : ∀ entry ∈ aliasEntries.reverse, entry.1 ∈ entry.2.aliases := fun entry h =>
    mem_aliasEntries.1 (List.mem_reverse.1 h)
  rw [ofAlias?, map_find?_eq_some_iff]
  · constructor
    · rintro ⟨⟨u, m⟩, hentry, hu, rfl⟩
      obtain rfl : u = t := by simpa using hu
      exact hmem _ hentry
    · intro h
      exact ⟨(t, l), List.mem_reverse.2 (mem_aliasEntries.2 h), by simp, rfl⟩
  · rintro ⟨u, m⟩ hm ⟨v, n⟩ hn hu hv
    obtain rfl : u = t := by simpa using hu
    obtain rfl : v = u := by simpa using hv
    exact eq_of_mem_aliases (hmem _ hm) (hmem _ hn)

/-- The lists of the languages lead from an alias to the language that lists it. -/
lemma listing?_eq_some_iff {t : Text} {l : Language} : listing? t = some l ↔ t ∈ l.aliases := by
  have haliases : ∀ entry ∈ aliasTable, entry.2 = entry.1.aliases := fun entry h =>
    (mem_aliasTable.1 h).2
  rw [listing?, map_find?_eq_some_iff]
  · constructor
    · rintro ⟨⟨m, ts⟩, hentry, ht, rfl⟩
      obtain rfl : ts = m.aliases := haliases _ hentry
      simpa using ht
    · intro h
      exact ⟨(l, l.aliases), mem_aliasTable.2 ⟨ne_plain_of_mem_aliases h, rfl⟩, by simpa using h,
        rfl⟩
  · rintro ⟨m, ts⟩ hm ⟨n, us⟩ hn ht hu
    obtain rfl : ts = m.aliases := haliases _ hm
    obtain rfl : us = n.aliases := haliases _ hn
    exact eq_of_mem_aliases (by simpa using ht) (by simpa using hu)

lemma ofAlias?_eq_listing? (t : Text) : ofAlias? t = listing? t :=
  Option.ext fun _ => ofAlias?_eq_some_iff.trans listing?_eq_some_iff.symm

lemma resolve_eq_listing (hint : Option Text) :
    resolve hint = (hint.bind fun h => listing? h.lowercase).getD .plain := by
  cases hint with
  | none => rfl
  | some h => rw [resolve, ofAlias?_eq_listing?, Option.bind_some]

/-! ### The language of a hint -/

variable {hint : Option Text} {h h' : Text}

lemma resolve_eq_iff {l : Language} (hl : l ≠ .plain) :
    resolve hint = l ↔ ∃ h ∈ hint, h.lowercase ∈ l.aliases := by
  cases hint with
  | none => simpa [resolve] using hl.symm
  | some h =>
    have hmem : (∃ t ∈ some h, t.lowercase ∈ l.aliases) ↔ h.lowercase ∈ l.aliases := by simp
    rw [hmem, resolve, ← ofAlias?_eq_some_iff]
    cases ofAlias? h.lowercase with
    | none => simpa using hl.symm
    | some m => simp

lemma resolve_eq_plain_iff :
    resolve hint = .plain ↔ ∀ l : Language, ¬∃ h ∈ hint, h.lowercase ∈ l.aliases := by
  constructor
  · rintro hplain l ⟨h, hh, hmem⟩
    have hl := ne_plain_of_mem_aliases hmem
    exact hl (((resolve_eq_iff hl).2 ⟨h, hh, hmem⟩).symm.trans hplain)
  · intro hnone
    by_contra hne
    exact hnone _ ((resolve_eq_iff hne).1 rfl)

/-! ### Letter case -/

lemma toNat_lt_of_mem_alias {l : Language} {a : Text} (ha : a ∈ l.aliases) :
    ∀ c ∈ a, c.toNat < 128 := by
  have hall : (all.all fun l => l.aliases.all fun a => a.all fun c => c.toNat < 128) = true := by
    decide +kernel
  intro c hc
  have hlanguage := List.all_eq_true.1 hall l (mem_all l)
  have halias := List.all_eq_true.1 hlanguage a ha
  exact of_decide_eq_true (List.all_eq_true.1 halias c hc)

/-- Two texts with the same letters, character by character, of which each may be in either case. -/
def EqualUpToCase (t u : Text) : Prop :=
  List.Forall₂ (fun c d => Unicode.lowercase c = Unicode.lowercase d) t u

lemma EqualUpToCase.flatMap_lowercase_eq {t u : Text} (h : EqualUpToCase t u) :
    t.flatMap Unicode.lowercase = u.flatMap Unicode.lowercase := by
  induction h with
  | nil => rfl
  | cons hc _ ih => rw [List.flatMap_cons, List.flatMap_cons, hc, ih]

/-- Without a capital sigma each character has its lowercase form wherever it stands. -/
lemma lowercaseBehind_of_notMem {t : Text} (h : 'Σ' ∉ t) (before : Text) :
    Text.lowercaseBehind before t = t.flatMap Unicode.lowercase := by
  induction t generalizing before with
  | nil => rfl
  | cons c t ih =>
    obtain ⟨hc, ht⟩ : 'Σ' ≠ c ∧ 'Σ' ∉ t := by simpa using h
    rw [Text.lowercaseBehind, if_neg hc.symm, ih ht, List.flatMap_cons]

/-- Both lowercase forms of a capital sigma are beyond ASCII. -/
lemma exists_mem_lowercaseBehind {t : Text} (h : 'Σ' ∈ t) (before : Text) :
    ∃ c ∈ Text.lowercaseBehind before t, 128 ≤ c.toNat := by
  induction t generalizing before with
  | nil => cases h
  | cons d t ih =>
    rw [Text.lowercaseBehind]
    by_cases hd : d = 'Σ'
    · rw [if_pos hd]
      refine ⟨_, List.mem_append_left _ List.mem_cons_self, ?_⟩
      split <;> decide
    · have ht : 'Σ' ∈ t := (List.mem_cons.1 h).resolve_left fun heq => hd heq.symm
      obtain ⟨c, hc, hlarge⟩ := ih ht (d :: before)
      exact ⟨c, List.mem_append_right _ hc, hlarge⟩

lemma lowercase_sigma : Unicode.lowercase 'Σ' = ['σ'] := by decide +kernel

/-- A text has the lowercase form of an ASCII text if its characters have, whatever stands around
them. -/
lemma lowercase_eq_iff {t a : Text} (ha : ∀ c ∈ a, c.toNat < 128) :
    t.lowercase = a ↔ t.flatMap Unicode.lowercase = a := by
  by_cases h : 'Σ' ∈ t
  · -- With a capital sigma neither form is in ASCII.
    obtain ⟨c, hc, hlarge⟩ := exists_mem_lowercaseBehind h []
    have hsigma : 'σ' ∈ t.flatMap Unicode.lowercase :=
      List.mem_flatMap.2 ⟨'Σ', h, by rw [lowercase_sigma]; exact List.mem_singleton_self _⟩
    constructor
    · rintro rfl
      exact absurd (ha c hc) (by omega)
    · rintro rfl
      exact absurd (ha 'σ' hsigma) (by decide)
  · rw [Text.lowercase, lowercaseBehind_of_notMem h]

lemma lowercase_mem_aliases_iff {l : Language} :
    h.lowercase ∈ l.aliases ↔ h.flatMap Unicode.lowercase ∈ l.aliases := by
  constructor
  · intro hmem
    rwa [(lowercase_eq_iff (toNat_lt_of_mem_alias hmem)).1 rfl]
  · intro hmem
    rwa [(lowercase_eq_iff (toNat_lt_of_mem_alias hmem)).2 rfl]

/-- The letters of a hint may be in either case. -/
lemma resolve_eq_of_equalUpToCase (heq : EqualUpToCase h h') :
    resolve (some h) = resolve (some h') := by
  have hiff : ∀ l : Language, h.lowercase ∈ l.aliases ↔ h'.lowercase ∈ l.aliases := by
    intro l
    rw [lowercase_mem_aliases_iff, lowercase_mem_aliases_iff, heq.flatMap_lowercase_eq]
  have hsome : ofAlias? h.lowercase = ofAlias? h'.lowercase := by
    ext l
    exact ofAlias?_eq_some_iff.trans ((hiff l).trans ofAlias?_eq_some_iff.symm)
  rw [resolve, resolve, hsome]

/-! ### Tokens as hints -/

lemma lowercase_token (l : Language) : l.token.lowercase = l.token := by
  cases l <;> decide

/-- Every language but Visual Basic lists its own token. -/
lemma token_mem_aliases {l : Language} (hplain : l ≠ .plain) (hbasic : l ≠ .visualBasic) :
    l.token ∈ l.aliases := by
  cases l
  case plain => exact absurd rfl hplain
  case visualBasic => exact absurd rfl hbasic
  all_goals decide

/-- No language lists the token of Visual Basic or the one that stands for no language. -/
lemma token_notMem_aliases {l : Language} (hl : l = .plain ∨ l = .visualBasic) (m : Language) :
    l.token ∉ m.aliases := by
  have hlists : ∀ m ∈ all, plain.token ∉ m.aliases ∧ visualBasic.token ∉ m.aliases := by
    decide +kernel
  rcases hl with rfl | rfl
  · exact (hlists m (mem_all m)).1
  · exact (hlists m (mem_all m)).2

/-- The token of a language stands for it as a hint, unless it is the one of Visual Basic. -/
lemma resolve_token (l : Language) :
    resolve (some l.token) = if l = .visualBasic then .plain else l := by
  have hlists : ∀ m : Language,
      (∃ h ∈ some l.token, h.lowercase ∈ m.aliases) ↔ l.token ∈ m.aliases := by
    simp [lowercase_token]
  have hnone : l = .plain ∨ l = .visualBasic → resolve (some l.token) = .plain := fun hl =>
    resolve_eq_plain_iff.2 fun m => mt (hlists m).1 (token_notMem_aliases hl m)
  by_cases hbasic : l = .visualBasic
  · rw [if_pos hbasic]
    exact hnone (.inr hbasic)
  · rw [if_neg hbasic]
    by_cases hplain : l = .plain
    · rw [hnone (.inl hplain), hplain]
    · exact (resolve_eq_iff hplain).2 ((hlists l).2 (token_mem_aliases hplain hbasic))

/-- **Tokens as hints.** The token of the language that a hint stands for is a hint itself. It stands
for the same language as the first hint, unless that language is Visual Basic: its aliases lack its
token, so a hint that is one of them leads to a token that stands for no language. -/
theorem resolve_token_resolve (hint : Option Text) :
    resolve (some (resolve hint).token) =
        (if resolve hint = .visualBasic then .plain else resolve hint) ∧
      (resolve (some (resolve hint).token) = resolve hint ↔
        ∀ h ∈ hint, h.lowercase ∉ visualBasic.aliases) := by
  have hbasic : resolve hint = .visualBasic ↔ ∃ h ∈ hint, h.lowercase ∈ visualBasic.aliases :=
    resolve_eq_iff (by decide)
  refine ⟨resolve_token _, ?_⟩
  rw [resolve_token]
  constructor
  · intro hstable h hh hmem
    have hvb := hbasic.2 ⟨h, hh, hmem⟩
    rw [hvb] at hstable
    exact absurd hstable (by decide)
  · intro hnone
    refine if_neg fun hvb => ?_
    obtain ⟨h, hh, hmem⟩ := hbasic.1 hvb
    exact hnone h hh hmem

/-- One of the aliases of Visual Basic, and the token to which it leads. -/
theorem resolve_token_ne_vba :
    resolve (some "vba".toList) = .visualBasic ∧ resolve (some visualBasic.token) = .plain ∧
      ¬∀ hint : Option Text, resolve (some (resolve hint).token) = resolve hint := by
  have hvba : resolve (some "vba".toList) = .visualBasic :=
    (resolve_eq_iff (by decide)).2 ⟨_, rfl, by decide⟩
  have htoken : resolve (some visualBasic.token) = .plain := resolve_token .visualBasic
  refine ⟨hvba, htoken, fun hstable => ?_⟩
  have hsame := hstable (some "vba".toList)
  rw [hvba, htoken] at hsame
  cases hsame

end WikiMarkup.Language
