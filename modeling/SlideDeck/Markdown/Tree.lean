import SlideDeck.Content

/-!
# Markdown trees

The tree of a Markdown page: blocks, the phrases in them, and definitions that references point to.
One type holds all of them, so that a tree made by other means may nest them in any way.
-/

namespace SlideDeck.Markdown

/-- The alignment of a table column. -/
inductive Align where
  /-- To the left. -/
  | left
  /-- To the right. -/
  | right
  /-- In the middle. -/
  | center
deriving DecidableEq, Repr

/-- How a reference is written. -/
inductive ReferenceKind where
  /-- The text, then a label: `[text][label]`. -/
  | full
  /-- The text, then an empty label: `[label][]`. -/
  | collapsed
  /-- The text alone: `[label]`. -/
  | shortcut
deriving DecidableEq, Repr

/-- A name that ties references to a definition. -/
structure Label where
  /-- The name by which labels are compared. -/
  identifier : String
  /-- The label as it is written. -/
  written : Option String := none
deriving DecidableEq, Repr

/-- Where a link or an image leads. -/
structure Target where
  /-- The address. -/
  url : String
  /-- The title. -/
  title : Option String := none
deriving DecidableEq, Repr

/-- A node of a Markdown tree. -/
inductive Node where
  /-- A page. -/
  | root (children : List Node)
  /-- A paragraph. -/
  | paragraph (children : List Node)
  /-- A heading of a rank. -/
  | heading (depth : Nat) (children : List Node)
  /-- A block quote. -/
  | blockquote (children : List Node)
  /-- A list; `spread` is true when blank lines stand between its items. -/
  | list (ordered : Bool) (start : Option Nat) (spread : Bool) (items : List Node)
  /-- A list item; `spread` is true when blank lines stand between its blocks. -/
  | listItem (spread : Bool) (checked : Option Bool) (children : List Node)
  /-- A code block. -/
  | code (c : CodeBlock)
  /-- A block or a phrase of HTML. -/
  | html (value : String)
  /-- A thematic break. -/
  | thematicBreak
  /-- A table. -/
  | table (align : List (Option Align)) (rows : List Node)
  /-- A row of a table. -/
  | tableRow (cells : List Node)
  /-- A cell of a table. -/
  | tableCell (children : List Node)
  /-- The target of the references with a label. -/
  | definition (label : Label) (target : Target)
  /-- The content of the footnotes with a label. -/
  | footnoteDefinition (label : Label) (children : List Node)
  /-- Text. -/
  | text (value : String)
  /-- Emphasis. -/
  | emphasis (children : List Node)
  /-- Strong emphasis. -/
  | strong (children : List Node)
  /-- Deleted text. -/
  | delete (children : List Node)
  /-- A code span. -/
  | inlineCode (value : String)
  /-- A hard line break. -/
  | lineBreak
  /-- A link. -/
  | link (target : Target) (children : List Node)
  /-- A link to a definition. -/
  | linkReference (kind : ReferenceKind) (label : Label) (children : List Node)
  /-- An image. -/
  | image (i : Image)
  /-- An image found by a definition. -/
  | imageReference (kind : ReferenceKind) (label : Label) (alt : String)
  /-- A footnote mark. -/
  | footnoteReference (label : Label)
  /-- A node that slides have no use for. -/
  | unused
deriving Repr, Inhabited

mutual

/-- The definitions of targets in a node in document order; the content of a footnote has none. -/
def Node.targets : Node → List (String × Target)
  | .definition label target => [(label.identifier, target)]
  | .root children | .paragraph children | .heading _ children | .blockquote children
  | .list _ _ _ children | .listItem _ _ children | .table _ children | .tableRow children
  | .tableCell children | .emphasis children | .strong children | .delete children
  | .link _ children | .linkReference _ _ children => Node.targetsOf children
  | _ => []

/-- The definitions of targets in several nodes. -/
def Node.targetsOf : List Node → List (String × Target)
  | [] => []
  | n :: rest => Node.targets n ++ Node.targetsOf rest

end

mutual

/-- The definitions of footnotes in a node in document order; the content of a footnote has none. -/
def Node.footnotes : Node → List (String × List Node)
  | .footnoteDefinition label children => [(label.identifier, children)]
  | .root children | .paragraph children | .heading _ children | .blockquote children
  | .list _ _ _ children | .listItem _ _ children | .table _ children | .tableRow children
  | .tableCell children | .emphasis children | .strong children | .delete children
  | .link _ children | .linkReference _ _ children => Node.footnotesOf children
  | _ => []

/-- The definitions of footnotes in several nodes. -/
def Node.footnotesOf : List Node → List (String × List Node)
  | [] => []
  | n :: rest => Node.footnotes n ++ Node.footnotesOf rest

end

end SlideDeck.Markdown
