/-!
# Constructs

Which parts of Markdown are recognized.
-/

namespace SlideDeck.Markdown

/-- The constructs that are recognized; the rest of Markdown always is. -/
structure Constructs where
  /-- Tables, deleted text, literal links, tasks and footnotes. -/
  extended : Bool := true
  /-- Code blocks by indentation. -/
  indentedCode : Bool := true
  /-- Blocks and phrases of HTML. -/
  html : Bool := true
deriving DecidableEq, Repr, Inhabited

/-- True of an indentation that a block may start behind: less than that of a code block, if there
are code blocks by indentation. -/
def Constructs.allowsIndent (c : Constructs) (columns : Nat) : Bool :=
  !c.indentedCode || columns < 4

end SlideDeck.Markdown
