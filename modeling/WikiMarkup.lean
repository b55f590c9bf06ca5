import WikiMarkup.CharacterReference
import WikiMarkup.CommandLine.Command
import WikiMarkup.CommandLine.Program
import WikiMarkup.CommandLine.Run
import WikiMarkup.Config.Load
import WikiMarkup.Convert
import WikiMarkup.Files.Component
import WikiMarkup.Main
import WikiMarkup.Proofs.Document.Shape
import WikiMarkup.Proofs.Render.Meaning
import WikiMarkup.Proofs.Render.Traversal
import WikiMarkup.Proofs.Render.Evaluation
import WikiMarkup.Proofs.Text.Ink
import WikiMarkup.Proofs.Wiki.Content
import WikiMarkup.Proofs.Wiki.NestedList
import WikiMarkup.Proofs.Wiki.Row
import WikiMarkup.Proofs.Wiki.Table
import WikiMarkup.Proofs.Document.Images
import WikiMarkup.Proofs.Render.Reuse
import WikiMarkup.Proofs.Render.Balanced
import WikiMarkup.Proofs.Text.Infix
import WikiMarkup.Proofs.Wiki.CodeBlock
import WikiMarkup.Proofs.Wiki.FlatList
import WikiMarkup.Proofs.Wiki.RowKind
import WikiMarkup.Proofs.Render.OpenTags
import WikiMarkup.Proofs.Document.Core
import WikiMarkup.Proofs.Render.Unbalanced
import WikiMarkup.Proofs.Wiki.RowsWithCells
import WikiMarkup.Proofs.Render.Descriptions
import WikiMarkup.Proofs.Config.Stored
import WikiMarkup.Proofs.Config.Precedence
import WikiMarkup.Proofs.Config.Nearest
import WikiMarkup.Proofs.CommandLine.Conversion
import WikiMarkup.Proofs.Wiki.InlineHtml
import WikiMarkup.Proofs.Render.Questions
import WikiMarkup.Proofs.Wiki.UsedOptions
import WikiMarkup.Proofs.Text.Bytes
import WikiMarkup.Proofs.Wiki.ClosingDelimiter
import WikiMarkup.Proofs.CharacterReference.Extent
import WikiMarkup.Proofs.CharacterReference.Locality
import WikiMarkup.Proofs.CharacterReference.Numeral
import WikiMarkup.Proofs.CharacterReference.Encoding
import WikiMarkup.Proofs.Text.LineEnds
import WikiMarkup.Proofs.Wiki.Paragraph
import WikiMarkup.Proofs.Wiki.CodeMacro
import WikiMarkup.Proofs.Language.Aliases
import WikiMarkup.Proofs.Wiki.FenceLanguage
import WikiMarkup.Proofs.Render.OpenImages
import WikiMarkup.Proofs.Wiki.DeeperList
