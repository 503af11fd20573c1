import SlideDeck.Markdown.Block.Mark
import SlideDeck.Markdown.Definition

/-!
# Blocks

The blocks of a page, with texts that are not read yet.
-/

namespace SlideDeck.Markdown

/-- A block. -/
inductive Block where
  /-- A definition. -/
  | definition (d : Definition)
  /-- A paragraph. The text of a task comes behind its check mark, which is given. -/
  | paragraph (checked : Option Bool) (text : Passage)
  /-- A heading of a rank. -/
  | heading (depth : Nat) (text : Passage)
  /-- A code block. -/
  | code (c : CodeBlock)
  /-- A block of HTML. -/
  | html (value : List Char)
  /-- A thematic break. -/
  | thematicBreak
  /-- A table: the alignments of its columns, and its rows of cells, the head first. -/
  | table (align : List (Option Align)) (rows : List (List Cell))
  /-- A block quote. -/
  | quote (blocks : List Block)
  /-- A list: whether its first item is numbered, the first number of an item, whether blank lines
  stand between its items, and its items. A list that starts right behind an item is among them. -/
  | list (ordered : Bool) (start : Option Nat) (spread : Bool) (items : List Block)
  /-- A list item: whether blank lines stand between its blocks, and the blocks. -/
  | item (spread : Bool) (blocks : List Block)
  /-- The content of a footnote. -/
  | footnote (label : List Char) (blocks : List Block)
deriving Repr, Inhabited

end SlideDeck.Markdown
