import WikiMarkup.Proofs.Render.Balanced
import WikiMarkup.Proofs.Text.LineEnds
import WikiMarkup.Wiki.Backend
/-!
# Paragraphs on one line

With a replacement for newlines every paragraph is one line, whatever line ends its content has, and
the two newlines behind it are the only ones of the paragraph. This needs a replacement without
newlines, since the replacement is taken as it stands.
-/

namespace WikiMarkup.Wiki

/-- The text ends with two newlines and has no others. -/
def EndsWithBlankLine (t : Text) : Prop := "\n\n".toList <:+ t ∧ t.count '\n' = 2

variable {o : Options} {r : Text}

lemma endsWithBlankLine_of_line {line : Text} (h : '\n' ∉ line) :
    EndsWithBlankLine (line ++ "\n\n".toList) := by
  refine ⟨List.suffix_append line _, ?_⟩
  rw [List.count_append, List.count_eq_zero_of_not_mem h]
  rfl

lemma endsWithBlankLine_paragraph (ho : o.newlines.replacement? = some r) (hr : '\n' ∉ r)
    (content : Text) : EndsWithBlankLine ((backend o).paragraph content) := by
  have hparagraph : (backend o).paragraph content = content.replaceNewlines r ++ "\n\n".toList := by
    simp only [backend, paragraph, ho]
  rw [hparagraph]
  exact endsWithBlankLine_of_line (Text.newline_notMem_replaceNewlines hr content)

/-- **Replaced newlines.** To replace the line ends of a text is to take it apart at its newlines,
without the carriage returns in front of them, to join the pieces with the replacement as it stands
and to trim the result. Line ends with and without a carriage return are replaced alike. With a
replacement that has no newlines the result is one trimmed line, in which nothing more is replaced,
and a paragraph ends with its only two newlines, also in any document that is rendered. -/
theorem replaceNewlines_on_one_line (t r : Text) :
    t.replaceNewlines r = Text.trim (Text.join r (Text.withoutReturns (t.split '\n'))) ∧
      ('\r' ∉ t → t.withReturns.replaceNewlines r = t.replaceNewlines r) ∧
      ('\n' ∉ r →
        '\n' ∉ t.replaceNewlines r ∧
        (∀ c ∈ (t.replaceNewlines r).head?, Text.isSpace c = false) ∧
        (∀ c ∈ (t.replaceNewlines r).getLast?, Text.isSpace c = false) ∧
        (t.replaceNewlines r).replaceNewlines r = t.replaceNewlines r ∧
        ∀ o : Options, o.newlines.replacement? = some r →
          EndsWithBlankLine ((backend o).paragraph t) ∧
          ∀ (w w' : Walk) (ts : List Tree), w.inImage = false →
            w.run (backend o) (Tree.node .paragraph ts).events = (w', .ok ()) →
            ∃ p s, EndsWithBlankLine p ∧ w' = (w.append p).withTable s) := by
  refine ⟨Text.replaceNewlines_eq_join r t, fun ht => ?_, fun hr => ?_⟩
  · rw [Text.replaceNewlines, Text.replaceNewlines, Text.substituteNewlines_withReturns r ht]
  · have hline := Text.newline_notMem_replaceNewlines hr t
    have htrim := Text.trim_replaceNewlines r t
    obtain ⟨hfirst, hlast⟩ := Text.isSpace_ends_of_trim_eq htrim
    refine ⟨hline, hfirst, hlast, Text.replaceNewlines_of_line r hline htrim, fun o ho => ?_⟩
    refine ⟨endsWithBlankLine_paragraph ho hr t, fun w w' ts hw hrun => ?_⟩
    obtain ⟨content, p, s, hp, hend⟩ := Walk.exists_run_node_eq hw rfl hrun
    obtain rfl : (backend o).paragraph content = p := Except.ok.inj hp
    exact ⟨_, s, endsWithBlankLine_paragraph ho hr content, hend⟩

/-- A replacement with white space at both of its ends. -/
def dollar : Text := " $1\t".toList

/-- Two lines behind an empty one. -/
def couplet : Text := "\na\nb".toList

/-- In the item of a list, a paragraph with the couplet and a soft line break behind it is one line.
The replacement at either end has lost its white space. -/
theorem replaceNewlines_on_one_line_couplet :
    '\r' ∉ couplet ∧ '\n' ∉ dollar ∧
      couplet.withReturns.replaceNewlines dollar = "$1\ta $1\tb".toList ∧
      ∃ p s, EndsWithBlankLine p ∧
        (({} : Walk).push .item).append "$1\ta $1\tb $1\n\n".toList =
          ((({} : Walk).push .item).append p).withTable s := by
  have hreturn : '\r' ∉ couplet := by decide
  have hnewline : '\n' ∉ dollar := by decide
  obtain ⟨-, hreturns, hline⟩ := replaceNewlines_on_one_line couplet dollar
  obtain ⟨-, -, -, -, hparagraph⟩ := hline hnewline
  refine ⟨hreturn, hnewline, (hreturns hreturn).trans (by decide), ?_⟩
  exact (hparagraph { newlines := .text dollar } rfl).2 (({} : Walk).push .item) _
    [.text couplet, .leaf .softBreak] rfl rfl

end WikiMarkup.Wiki
