import SlideDeck.Markdown.Tree
import SlideDeck.Slide.Node

/-!
# From Markdown to slides

The slide tree of a Markdown page. References are resolved through the definitions of the page, the
first definition of a label counting; footnotes that are referred to are collected in a section
behind everything else, numbered by their first reference. HTML that consists of comments becomes
comments, and all other HTML is kept as it is.
-/

namespace SlideDeck.Slide

open Markdown (Target Label ReferenceKind Align)

/-- What a page defines. -/
structure Definitions where
  /-- The targets of references by identifier, the first one counting. -/
  targets : List (String × Target)
  /-- The contents of footnotes by identifier, the first one counting. -/
  footnotes : List (String × List Markdown.Node)

namespace Definitions

/-- The definitions in a page. -/
def ofPage (page : Markdown.Node) : Definitions := ⟨page.targets, page.footnotes⟩

/-- The target that a label is defined to lead to. -/
def target? (d : Definitions) (label : Label) : Option Target :=
  (d.targets.find? fun e => e.1 = label.identifier).map Prod.snd

/-- The content of the footnote with an identifier. -/
def footnote? (d : Definitions) (identifier : String) : Option (List Markdown.Node) :=
  (d.footnotes.find? fun e => e.1 = identifier).map Prod.snd

end Definitions

/-- The bodies of the comments that a text consists of, blank characters around them aside. `fuel`
bounds the number of comments. -/
def commentBodies? (fuel : Nat) (s : List Char) : Option (List (List Char)) :=
  match fuel with
  | 0 => none
  | fuel + 1 =>
    match Text.trimStart s with
    | [] => some []
    | rest => do
      let inside ← Text.stripStart? "<!--".toList rest
      let (body, after) ← Text.cutAtMark "-->".toList inside
      let bodies ← commentBodies? fuel after
      some (body :: bodies)

/-- The nodes of a piece of HTML. -/
def htmlNodes (value : String) : List Node :=
  match commentBodies? (value.length + 1) value.toList with
  | some (body :: bodies) => (body :: bodies).map fun b => .comment (String.ofList b)
  | _ => [.raw value]

/-- What is written behind the text of a reference. -/
def referenceSuffix (kind : ReferenceKind) (label : Label) : String :=
  match kind with
  | .full => "[" ++ label.written.getD label.identifier ++ "]"
  | .collapsed => "[]"
  | .shortcut => ""

/-- A link element. -/
def linkNode (target : Target) (children : List Node) : Node :=
  let title := match target.title with
    | some title => [("title", Value.text title)]
    | none => []
  .tagged "a" (("href", .text target.url) :: title) children

/-- A reference that no definition resolves, as it is written. -/
def unresolvedLink (kind : ReferenceKind) (label : Label) (children : List Node) : Node :=
  .element "span" .empty
    ([.text "["] ++ children ++ [.text ("]" ++ referenceSuffix kind label)]) true

/-- The node of an image reference. -/
def imageNode (d : Definitions) (kind : ReferenceKind) (label : Label) (alt : String) : Node :=
  match d.target? label with
  | some target => .image { url := target.url, alt, title := target.title }
  | none => .text ("![" ++ alt ++ "]" ++ referenceSuffix kind label)

/-- The number of a footnote, from 1, and the footnotes in the order of their first marks. -/
def footnoteNumber (order : List String) (identifier : String) : Nat × List String :=
  match order.findIdx? (· = identifier) with
  | some i => (i + 1, order)
  | none => (order.length + 1, order ++ [identifier])

/-- The mark of a footnote. -/
def footnoteMark (identifier : String) (number : Nat) : Node :=
  .plain "sup"
    [.tagged "a"
      [("href", .text ("#fn-" ++ identifier)), ("id", .text ("fnref-" ++ identifier)),
        ("data-footnote-ref", .flag true)]
      [.text (toString number)]]

/-- The check box in front of a task. -/
def checkbox (checked : Bool) : Node :=
  .tagged "input"
    ([("type", .text "checkbox"), ("disabled", .flag true)]
      ++ if checked then [("checked", .flag true)] else []) []

/-- The attributes of the start of an ordered list. -/
def listAttributes (ordered : Bool) (start : Option Nat) : List (String × Value) :=
  match ordered, start with
  | true, some n => if n = 1 then [] else [("start", .text (toString n))]
  | _, _ => []

/-- True of an item with blank lines between its blocks. -/
def isSpreadItem : Markdown.Node → Bool
  | .listItem spread _ _ => spread
  | _ => false

/-- True of a list without blank lines between its items and in them. -/
def isTight (spread : Bool) (items : List Markdown.Node) : Bool :=
  !spread && !items.any isSpreadItem

/-- The element of a list item. -/
def itemNode (checked : Option Bool) (children : List Node) : Node :=
  match checked with
  | some checked => .classed "li" "task-list-item" (checkbox checked :: .text " " :: children)
  | none => .plain "li" children

/-- The attributes of a cell in a column. -/
def cellAttributes (align : List (Option Align)) (column : Nat) : List (String × Value) :=
  match align[column]?.join with
  | some .left => [("align", .text "left")]
  | some .right => [("align", .text "right")]
  | some .center => [("align", .text "center")]
  | none => []

/-- The element of a table with the given rows, of which the first is its head. -/
def tableNode : List Node → Node
  | [] => .plain "table" []
  | [head] => .plain "table" [.plain "thead" [head]]
  | head :: body => .plain "table" [.plain "thead" [head], .plain "tbody" body]

mutual

/-- The slide nodes of a Markdown node. `tight` tells that the innermost list around it is tight,
and `order` holds the footnotes that are already numbered. -/
def lowerNode (d : Definitions) (tight : Bool) :
    Markdown.Node → List String → List Node × List String
  | .root children, order =>
    let (children, order) := lowerAll d tight children order
    ([.plain "div" children], order)
  | .paragraph children, order =>
    let (children, order) := lowerAll d tight children order
    ([.element "p" .empty children tight], order)
  | .heading depth children, order =>
    let (children, order) := lowerAll d tight children order
    ([.plain ("h" ++ toString depth) children], order)
  | .blockquote children, order =>
    let (children, order) := lowerAll d tight children order
    ([.plain "blockquote" children], order)
  | .list ordered start spread items, order =>
    let (children, order) := lowerAll d (isTight spread items) items order
    ([.tagged (if ordered then "ol" else "ul") (listAttributes ordered start) children], order)
  | .listItem _ checked children, order =>
    let (children, order) := lowerAll d tight children order
    ([itemNode checked children], order)
  | .code c, order => ([.code c], order)
  | .html value, order => (htmlNodes value, order)
  | .thematicBreak, order => ([.plain "hr" []], order)
  | .table align rows, order =>
    let (rows, order) := lowerRows d tight align "th" rows order
    ([tableNode rows], order)
  | .definition _ _, order | .footnoteDefinition _ _, order => ([], order)
  | .text value, order => ([.text value], order)
  | .emphasis children, order =>
    let (children, order) := lowerAll d tight children order
    ([.plain "em" children], order)
  | .strong children, order =>
    let (children, order) := lowerAll d tight children order
    ([.plain "strong" children], order)
  | .delete children, order =>
    let (children, order) := lowerAll d tight children order
    ([.plain "del" children], order)
  | .inlineCode value, order => ([.plain "code" [.text value]], order)
  | .lineBreak, order => ([.plain "br" []], order)
  | .link target children, order =>
    let (children, order) := lowerAll d tight children order
    ([linkNode target children], order)
  | .linkReference kind label children, order =>
    let (children, order) := lowerAll d tight children order
    match d.target? label with
    | some target => ([linkNode target children], order)
    | none => ([unresolvedLink kind label children], order)
  | .image i, order => ([.image i], order)
  | .imageReference kind label alt, order => ([imageNode d kind label alt], order)
  | .footnoteReference label, order =>
    let (number, order) := footnoteNumber order label.identifier
    ([footnoteMark label.identifier number], order)
  | .tableRow _, order | .tableCell _, order | .unused, order => ([], order)

/-- The slide nodes of several Markdown nodes. -/
def lowerAll (d : Definitions) (tight : Bool) :
    List Markdown.Node → List String → List Node × List String
  | [], order => ([], order)
  | n :: rest, order =>
    let (nodes, order) := lowerNode d tight n order
    let (others, order) := lowerAll d tight rest order
    (nodes ++ others, order)

/-- The rows of a table; `tag` is the tag of the cells of the first row. -/
def lowerRows (d : Definitions) (tight : Bool) (align : List (Option Align)) (tag : String) :
    List Markdown.Node → List String → List Node × List String
  | [], order => ([], order)
  | .tableRow cells :: rest, order =>
    let (cells, order) := lowerCells d tight align tag 0 cells order
    let (rows, order) := lowerRows d tight align "td" rest order
    (.plain "tr" cells :: rows, order)
  | _ :: rest, order => lowerRows d tight align tag rest order

/-- The cells of a row from the given column on. -/
def lowerCells (d : Definitions) (tight : Bool) (align : List (Option Align)) (tag : String)
    (column : Nat) : List Markdown.Node → List String → List Node × List String
  | [], order => ([], order)
  | .tableCell children :: rest, order =>
    let (children, order) := lowerAll d tight children order
    let (cells, order) := lowerCells d tight align tag (column + 1) rest order
    (.tagged tag (cellAttributes align column) children :: cells, order)
  | _ :: rest, order => lowerCells d tight align tag (column + 1) rest order

end

/-- The item of a footnote. -/
def footnoteItem (identifier : String) (children : List Node) : Node :=
  .tagged "li" [("id", .text ("fn-" ++ identifier))]
    (children ++ [.tagged "a"
      [("href", .text ("#fnref-" ++ identifier)), ("class", .text "footnote-backref")]
      [.text "↩"]])

/-- The items of footnotes in the given order; footnotes without a definition have none. The marks
in their contents are numbered from 1 again. -/
def footnoteItems (d : Definitions) : List String → List String → List Node
  | [], _ => []
  | identifier :: rest, order =>
    match d.footnote? identifier with
    | some content =>
      let (children, order) := lowerAll d false content order
      footnoteItem identifier children :: footnoteItems d rest order
    | none => footnoteItems d rest order

/-- The section of the footnotes, if there is one with a definition. -/
def footnoteSection (d : Definitions) (order : List String) : List Node :=
  let items := footnoteItems d order []
  if items.isEmpty then [] else [.classed "section" "footnotes" [.plain "ol" items]]

/-- The Markdown nodes at the root of a page. -/
def rootNodes : Markdown.Node → List Markdown.Node
  | .root children => children
  | other => [other]

/-- The slide nodes of a page. -/
def lower (page : Markdown.Node) : List Node :=
  let d := Definitions.ofPage page
  let (nodes, order) := lowerAll d false (rootNodes page) []
  nodes ++ footnoteSection d order

end SlideDeck.Slide
