import SlideDeck.Attribute.Basic
import SlideDeck.Attribute.Token
import SlideDeck.Content
import SlideDeck.Decimal.Binary64
import SlideDeck.Decimal.Shortest
import SlideDeck.Deck.Batch
import SlideDeck.Deck.Compile
import SlideDeck.Deck.Host
import SlideDeck.Deck.Options
import SlideDeck.Deck.Session
import SlideDeck.Diagnostic
import SlideDeck.Dict
import SlideDeck.Directive.Basic
import SlideDeck.Header
import SlideDeck.Highlight.Basic
import SlideDeck.Highlight.Request
import SlideDeck.Highlight.Session
import SlideDeck.Json
import SlideDeck.Markdown.Block.Basic
import SlideDeck.Markdown.Block.Element
import SlideDeck.Markdown.Block.Leaf
import SlideDeck.Markdown.Block.List
import SlideDeck.Markdown.Block.Mark
import SlideDeck.Markdown.Block.Parser
import SlideDeck.Markdown.Block.Scan
import SlideDeck.Markdown.Block.Start
import SlideDeck.Markdown.Block.Table
import SlideDeck.Markdown.Constructs
import SlideDeck.Markdown.Decode
import SlideDeck.Markdown.Definition
import SlideDeck.Markdown.Html
import SlideDeck.Markdown.Inline.Autolink
import SlideDeck.Markdown.Inline.Parser
import SlideDeck.Markdown.Inline.Piece
import SlideDeck.Markdown.Line
import SlideDeck.Markdown.Page
import SlideDeck.Markdown.Passage
import SlideDeck.Markdown.Target
import SlideDeck.Markdown.Tree
import SlideDeck.Page.Fence
import SlideDeck.Page.Split
import SlideDeck.Proofs.Attribute.Assignment
import SlideDeck.Proofs.Attribute.Concatenation
import SlideDeck.Proofs.Attribute.History
import SlideDeck.Proofs.Attribute.Merge
import SlideDeck.Proofs.Attribute.Pieces
import SlideDeck.Proofs.Attribute.Shown
import SlideDeck.Proofs.Attribute.Slices
import SlideDeck.Proofs.Attribute.Written
import SlideDeck.Proofs.Deck.Append
import SlideDeck.Proofs.Deck.Batch
import SlideDeck.Proofs.Deck.ByteOrderMark
import SlideDeck.Proofs.Deck.Findings
import SlideDeck.Proofs.Deck.LineEnds
import SlideDeck.Proofs.Deck.Session
import SlideDeck.Proofs.Deck.Steps
import SlideDeck.Proofs.Directive.Inheritance
import SlideDeck.Proofs.Directive.Resolution
import SlideDeck.Proofs.Directive.Spelling
import SlideDeck.Proofs.Directive.Write
import SlideDeck.Proofs.Header.Fences
import SlideDeck.Proofs.Header.Framing
import SlideDeck.Proofs.Highlight.Independence
import SlideDeck.Proofs.Highlight.Lines
import SlideDeck.Proofs.Highlight.Session
import SlideDeck.Proofs.Highlight.Sound
import SlideDeck.Proofs.Highlight.Splice
import SlideDeck.Proofs.Highlight.Substitution
import SlideDeck.Proofs.Highlight.Table
import SlideDeck.Proofs.Markdown.Tree
import SlideDeck.Proofs.Markup.Escape
import SlideDeck.Proofs.Markup.Events
import SlideDeck.Proofs.Markup.Reader
import SlideDeck.Proofs.Markup.Steps
import SlideDeck.Proofs.Markup.Text
import SlideDeck.Proofs.Page.Append
import SlideDeck.Proofs.Page.Fence
import SlideDeck.Proofs.Page.ListItem
import SlideDeck.Proofs.Page.OpenFence
import SlideDeck.Proofs.Page.Split
import SlideDeck.Proofs.Parts
import SlideDeck.Proofs.Slide.Absolute
import SlideDeck.Proofs.Slide.Annotations
import SlideDeck.Proofs.Slide.Comments
import SlideDeck.Proofs.Slide.Directive
import SlideDeck.Proofs.Slide.Element
import SlideDeck.Proofs.Slide.Footnotes
import SlideDeck.Proofs.Slide.Forest
import SlideDeck.Proofs.Slide.HtmlComments
import SlideDeck.Proofs.Slide.ImageAttributes
import SlideDeck.Proofs.Slide.Images
import SlideDeck.Proofs.Slide.Lower
import SlideDeck.Proofs.Slide.Offsets
import SlideDeck.Proofs.Slide.Partition
import SlideDeck.Proofs.Slide.Passes
import SlideDeck.Proofs.Slide.ReadingOrder
import SlideDeck.Proofs.Slide.References
import SlideDeck.Proofs.Slide.Remains
import SlideDeck.Proofs.Slide.Sound
import SlideDeck.Proofs.Slide.StyleTarget
import SlideDeck.Proofs.Slide.TightLists
import SlideDeck.Proofs.Text.Line
import SlideDeck.Proofs.Text.Mark
import SlideDeck.Proofs.Text.Word
import SlideDeck.Slide.Comments
import SlideDeck.Slide.Frame
import SlideDeck.Slide.ImageStyle
import SlideDeck.Slide.Images
import SlideDeck.Slide.Lower
import SlideDeck.Slide.Marker
import SlideDeck.Slide.Node
import SlideDeck.Slide.Partition
import SlideDeck.Slide.Render
import SlideDeck.Slide.Steps
import SlideDeck.Text.Blank
import SlideDeck.Text.Case
import SlideDeck.Text.Cased
import SlideDeck.Text.Entity
import SlideDeck.Text.Line
import SlideDeck.Text.Punctuation
import SlideDeck.Yaml.Alias
import SlideDeck.Yaml.Node
import SlideDeck.Yaml.Resolve
import SlideDeck.Yaml.Scalar
import SlideDeck.Yaml.Scan
import SlideDeck.Yaml.Token
