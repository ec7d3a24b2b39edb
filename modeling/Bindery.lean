import Bindery.Main
import Bindery.Proofs.Book.Building
import Bindery.Proofs.Book.KnownLabels
import Bindery.Proofs.Book.Labels
import Bindery.Proofs.Book.References
import Bindery.Proofs.Book.Root
import Bindery.Proofs.Book.Sections
import Bindery.Proofs.Book.Slots
import Bindery.Proofs.Book.Tabs
import Bindery.Proofs.FileTree.Change
import Bindery.Proofs.Markup.Attributes
import Bindery.Proofs.Markup.BackslashEscape
import Bindery.Proofs.Markup.Balance
import Bindery.Proofs.Markup.CodeWithin
import Bindery.Proofs.Markup.FencedContent
import Bindery.Proofs.Markup.Indented
import Bindery.Proofs.Markup.StyledWords
import Bindery.Proofs.Markup.Underscores
import Bindery.Proofs.Page.Fences
import Bindery.Proofs.Path.Ancestor
import Bindery.Proofs.Settings.Locality
import Bindery.Proofs.Settings.Reported
import Bindery.Proofs.Typeset.BlankLine
import Bindery.Proofs.Typeset.BlankRuns
import Bindery.Proofs.Typeset.Breaks
import Bindery.Proofs.Typeset.CodeBlock
import Bindery.Proofs.Typeset.Comments
import Bindery.Proofs.Typeset.Destinations
import Bindery.Proofs.Typeset.Expressions
import Bindery.Proofs.Typeset.Fallback
import Bindery.Proofs.Typeset.Governed
import Bindery.Proofs.Typeset.HiddenComments
import Bindery.Proofs.Typeset.InlineCode
import Bindery.Proofs.Typeset.Leaves
import Bindery.Proofs.Typeset.LinkTexts
import Bindery.Proofs.Typeset.LoneTags
import Bindery.Proofs.Typeset.PlainText
import Bindery.Proofs.Typeset.ProseLine
import Bindery.Proofs.Typeset.RawLeaves
import Bindery.Proofs.Typeset.Table
import Bindery.Proofs.Typeset.WellNested
import Bindery.Proofs.Typeset.WholeDestinations
import Bindery.Proofs.Typst.Unescape
