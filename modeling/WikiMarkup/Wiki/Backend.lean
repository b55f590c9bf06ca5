import WikiMarkup.CharacterReference
import WikiMarkup.Render
import WikiMarkup.Text.Lines
import WikiMarkup.Wiki.CodeMacro
import WikiMarkup.Wiki.List
import WikiMarkup.Wiki.Row
/-!
# Wiki markup

The output of each construct in the markup language of the wiki: headings as `h1.`, lists with a
marker for each level, tables with `||` and `|`, and code and quotes as macros.
-/

namespace WikiMarkup.Wiki

/-- A paragraph, with its newlines replaced if the options say so. -/
def paragraph (newlines : NewlineReplacement) (content : Text) : Text :=
  match newlines.replacement? with
  | some replacement => content.replaceNewlines replacement ++ "\n\n".toList
  | none => content ++ "\n\n".toList

/-- A heading. -/
def heading (content : Text) (level : Nat) : Text :=
  "h".toList ++ Text.ofNat level ++ ". ".toList ++ content ++ "\n\n".toList

/-- A block quote, trimmed. -/
def blockQuote (content : Text) : Text :=
  "\x7bquote\x7d".toList ++ content.trim ++ "\x7bquote\x7d".toList

/-- A link. It is shown by its content, or by its title where there is no content, or else by its
target. -/
def link (href : Text) (title : Option Text) (content : Text) : Text :=
  match if content.isEmpty then title else some content with
  | some (c :: shown) => "[".toList ++ (c :: shown) ++ "|".toList ++ href ++ "]".toList
  | _ => "[".toList ++ href ++ "]".toList

/-- The box of a task list item. -/
def checkbox : TaskListStyle → Bool → Text
  | .omit, _ => []
  | .htmlCheckbox, false => "<input type=\"checkbox\" disabled=\"\"> ".toList
  | .htmlCheckbox, true => "<input type=\"checkbox\" disabled=\"\" checked=\"\"> ".toList

/-- A parameter of an image, left out if its value is absent or blank. -/
def imageParameter (key : Text) (value : Option Text) : List (Text × Text) :=
  match value with
  | some v => if v.isBlank then [] else [(key, v)]
  | none => []

theorem imageParameter_cases (key : Text) (value : Option Text) :
    imageParameter key value = [] ∨ ∃ v, imageParameter key value = [(key, v)] := by
  unfold imageParameter
  split
  · rename_i v
    split
    · exact .inl rfl
    · exact .inr ⟨v, rfl⟩
  · exact .inl rfl

/-- The parameters of an image: its description and its title. -/
def imageParameters (title : Option Text) (alt : Text) : List (Text × Text) :=
  orderParameters (imageParameter "alt".toList (some alt) ++ imageParameter "title".toList title)

/-- The description comes before the title. -/
theorem imageParameters_eq (title : Option Text) (alt : Text) :
    imageParameters title alt =
      imageParameter "alt".toList (some alt) ++ imageParameter "title".toList title := by
  obtain halt | ⟨a, halt⟩ := imageParameter_cases "alt".toList (some alt)
  all_goals
    obtain htitle | ⟨t, htitle⟩ := imageParameter_cases "title".toList title
    all_goals
      rw [imageParameters, halt, htitle]
      rfl

/-- An image with its description and its title. -/
def image (href : Text) (title : Option Text) (alt : Text) : Text :=
  match imageParameters title alt with
  | [] => "!".toList ++ href ++ "!".toList
  | parameters => "!".toList ++ href ++ "|".toList ++ joinParameters [','] parameters ++ "!".toList

/-- A table: its header row and its body rows, trimmed. -/
def table (header body : Text) : Text := "\n".toList ++ (header ++ body).trim ++ "\n".toList

/-- The backend for wiki markup. Text and code arrive decoded; only pieces of HTML between other
text still carry character references. -/
def backend (options : Options) : Backend where
  paragraph := paragraph options.newlines
  heading := heading
  strong := fun content => "*".toList ++ content ++ "*".toList
  emphasis := fun content => "_".toList ++ content ++ "_".toList
  strikethrough := fun content => "-".toList ++ content ++ "-".toList
  codeSpan := fun code => "\x7b\x7b".toList ++ code ++ "\x7d\x7d".toList
  blockQuote := blockQuote
  lineBreak := "\n".toList
  horizontalRule := "----\n".toList
  link := link
  list := list
  listItem := listItem
  checkbox := checkbox options.taskList
  image := image
  table := table
  tableRow := tableRow
  tableCell := tableCell
  codeBlock := codeBlock options
  inlineHtml := CharacterReference.unescape

/-- The backend for wiki markup that leaves HTML as it is, wherever it stands. -/
def plainBackend (options : Options) : Backend :=
  { backend options with inlineHtml := id }

end WikiMarkup.Wiki
