import SlideDeck.Markdown.Block.Parser
import SlideDeck.Markdown.Inline.Parser

/-!
# Reading a page

The Markdown tree of a page: its lines are read to blocks, and the texts of the blocks are read with
the definitions and footnotes of the whole page in view. Reading never fails.
-/

namespace SlideDeck.Markdown

mutual

/-- The identifiers of the definitions in a block. -/
def Block.definitions : Block → List (List Char)
  | .definition d => [d.identifier]
  | .quote blocks | .footnote _ blocks | .list _ _ _ blocks | .item _ blocks =>
    Block.definitionsIn blocks
  | _ => []

/-- The identifiers of the definitions in several blocks. -/
def Block.definitionsIn : List Block → List (List Char)
  | [] => []
  | b :: rest => Block.definitions b ++ Block.definitionsIn rest

end

mutual

/-- The identifiers of the footnotes in a block. -/
def Block.footnotes : Block → List (List Char)
  | .quote blocks | .list _ _ _ blocks | .item _ blocks => Block.footnotesIn blocks
  | .footnote label blocks => identifierOf label :: Block.footnotesIn blocks
  | _ => []

/-- The identifiers of the footnotes in several blocks. -/
def Block.footnotesIn : List Block → List (List Char)
  | [] => []
  | b :: rest => Block.footnotes b ++ Block.footnotesIn rest

end

/-- True when the task that an item is has been done, if the item is a task. -/
def taskOf? : List Block → Option Bool
  | [] => none
  | .paragraph (some checked) _ :: _ => some checked
  | _ :: rest => taskOf? rest

/-- A text without one character of white space, or one line end, at its start. -/
def dropFirstSpace (s : List Char) : List Char :=
  match s with
  | [] => []
  | c :: rest => if isSpace c then rest else dropLineEnd s

/-- The nodes of a task. When its text comes first in it, the white space that parts the text from
the check mark goes. -/
def dropTaskSpace : List Node → List Node
  | .paragraph (.text s :: inside) :: rest =>
    let text := dropFirstSpace s.toList
    .paragraph (if text.isEmpty then inside else .text (String.ofList text) :: inside) :: rest
  | nodes => nodes

/-- The nodes of a cell. -/
def Cell.nodes (x : InlineContext) (cell : Cell) : List Node :=
  Passage.nodes { x with inTable := true, after := cell.after }
    (.ofText { passed := cell.before.toList } cell.text)

mutual

/-- The node of a block. -/
def Block.node (x : InlineContext) : Block → Node
  | .definition d => .definition (.ofIdentifier d.identifier (decode d.label)) d.target
  | .paragraph none text => .paragraph (text.nodes x)
  | .paragraph (some _) text => .paragraph (text.taskNodes x)
  | .heading depth text => .heading depth (text.nodes x)
  | .code c => .code c
  | .html value => .html (String.ofList value)
  | .thematicBreak => .thematicBreak
  | .table align rows =>
    .table align (rows.map fun row => .tableRow (row.map fun cell => .tableCell (cell.nodes x)))
  | .quote blocks => .blockquote (Block.nodes x blocks)
  | .list ordered start spread items => .list ordered start spread (Block.nodes x items)
  | .item spread blocks =>
    let task := taskOf? blocks
    let nodes := Block.nodes x blocks
    .listItem spread task (if task.isSome then dropTaskSpace nodes else nodes)
  | .footnote label blocks =>
    .footnoteDefinition (.ofIdentifier (identifierOf label) (decode label)) (Block.nodes x blocks)

/-- The nodes of several blocks. -/
def Block.nodes (x : InlineContext) : List Block → List Node
  | [] => []
  | b :: rest => Block.node x b :: Block.nodes x rest

end

/-- The byte order mark at the start of a text, if there is one, and the text behind it. -/
def cutMark : List Char → List Char × List Char
  | '\uFEFF' :: rest => (['\uFEFF'], rest)
  | s => ([], s)

/-- The Markdown tree of a page. -/
def parsePage (c : Constructs) (source : List Char) : Node :=
  let (mark, text) := cutMark source
  let blocks := blocksOf c mark (linesOf text)
  let x : InlineContext :=
    { constructs := c, definitions := Block.definitionsIn blocks
      footnotes := Block.footnotesIn blocks }
  .root (Block.nodes x blocks)

end SlideDeck.Markdown
