import SlideDeck.Content
import SlideDeck.Markdown.Passage
import SlideDeck.Markdown.Tree

/-!
# Marks

What the lines of a page say about its blocks, in the order in which they say it: where containers
start and end, the signs that make a line belong to them, the blocks without blocks in them line by
line, and the ends of lines.
-/

namespace SlideDeck.Markdown

/-- The mark of a list item. -/
inductive ItemMark where
  /-- One of the marks `*`, `+` and `-`. -/
  | bullet (c : Char)
  /-- A number and the mark behind it. -/
  | number (n : Nat) (c : Char)
deriving DecidableEq, Repr

/-- True of marks of items that make one list. -/
def ItemMark.continues : ItemMark → ItemMark → Bool
  | bullet c, bullet d => c = d
  | number _ c, number _ d => c = d
  | _, _ => false

/-- The number of a numbered item. -/
def ItemMark.number? : ItemMark → Option Nat
  | bullet _ => none
  | number n _ => some n

/-- A block that contains other blocks. -/
inductive Container where
  /-- A block quote. -/
  | quote
  /-- A list item. -/
  | item (mark : ItemMark)
  /-- The content of a footnote. -/
  | footnote (label : List Char)
deriving DecidableEq, Repr

/-- A cell of a table. -/
structure Cell where
  /-- The character in front of the text. -/
  before : Option Char
  /-- The text. -/
  text : List Char
  /-- The character behind the text. -/
  after : Option Char
deriving DecidableEq, Repr

/-- What a line or several lines say about blocks that contain no blocks. -/
inductive Leaf where
  /-- A line of text. -/
  | text (line : TextLine)
  /-- A line of equals signs or hyphens that makes a heading of the text above. -/
  | underline (depth : Nat) (line : TextLine)
  /-- The row that makes the line of text above the head of a table. -/
  | delimiters (align : List (Option Align))
  /-- Another row of a table. -/
  | row (cells : List Cell)
  /-- A heading of a rank on one line. -/
  | heading (depth : Nat) (text : Passage)
  /-- A code block. -/
  | code (c : CodeBlock)
  /-- A block of HTML. -/
  | html (value : List Char)
  /-- A thematic break. -/
  | thematicBreak
deriving Repr

/-- A mark that neither starts nor ends a container. -/
inductive Token where
  /-- The sign of a quote. -/
  | quoteSign
  /-- The sign of an item. -/
  | itemSign
  /-- The sign of the content of a footnote. -/
  | footnoteSign
  /-- White space in front of the sign of a container, or that makes a line belong to one, or on a
  blank line. -/
  | space
  /-- The end of a line that is not blank. -/
  | lineEnd
  /-- The end of a blank line. -/
  | blankEnd
  /-- A block without blocks in it. -/
  | leaf (l : Leaf)
deriving Repr

/-- What a part of a line says. -/
inductive Mark where
  /-- A container starts. -/
  | enter (c : Container)
  /-- The innermost container ends. -/
  | leave
  /-- Anything else. -/
  | token (t : Token)
deriving Repr

/-- True of the tokens that end lines. -/
def Token.endsLine : Token → Bool
  | lineEnd | blankEnd => true
  | _ => false

/-- True of the tokens that may stand between items of one list. -/
def Token.isGap : Token → Bool
  | space | quoteSign | lineEnd | blankEnd => true
  | _ => false

/-- True of the tokens that may stand between the sign of an item and the check mark of a task. -/
def Token.isPause : Token → Bool
  | space | lineEnd | blankEnd => true
  | _ => false

/-- True of the tokens that may stand between the start of a line and its text. -/
def Token.isFront : Token → Bool
  | space | quoteSign => true
  | _ => false

end SlideDeck.Markdown
