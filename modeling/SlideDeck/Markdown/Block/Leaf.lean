import SlideDeck.Markdown.Block.Start
import SlideDeck.Markdown.Block.Table
import SlideDeck.Markdown.Html

/-!
# Lines of leaf blocks

What is left of a line behind the signs of its containers goes on with the open leaf block or starts
another one. A line is lazy when it does not belong to all open containers: only text goes on over
lazy lines. The marks of a block of several lines are given together when its end is known, so a
result holds the marks of earlier lines apart from those of the line itself.
-/

namespace SlideDeck.Markdown

/-- A line behind the signs of its containers. -/
structure LeafLine where
  /-- The constructs. -/
  constructs : Constructs
  /-- The place behind the signs. -/
  cursor : Cursor
  /-- The characters that end the line. -/
  ending : List Char
  /-- True when the line does not belong to all open containers. -/
  isLazy : Bool
  /-- True when a container starts on the line. -/
  startsContainer : Bool
  /-- The marks of its containers. -/
  marks : List Mark

/-- A block without blocks in it whose end is not known. Lines come the last one first, and `marks`
are those in front of the block. -/
inductive OpenLeaf where
  /-- None. -/
  | none
  /-- A line of text that is the head of a table if the next line says so: its number of cells, and
  whether it ends with a pipe. -/
  | head (columns : Nat) (endsWithPipe : Bool)
  /-- A fenced code block. -/
  | fenced (marks : List Mark) (fence : Fence) (lines : List Line)
  /-- A block of HTML. -/
  | html (marks : List Mark) (kind : Html.BlockKind) (lines : List Line)
  /-- A code block by indentation, and the blank lines behind it with their marks. -/
  | indented (marks : List Mark) (lines : List Line) (blanks : List (List Mark × Line))

/-- What the last line was, as far as it matters to the next one. -/
inductive LastLine where
  /-- A line of text. -/
  | text
  /-- A line that makes a heading of the text above. -/
  | underline
  /-- A line of a table behind its head. -/
  | table
  /-- Anything else, and none at all. -/
  | other
deriving DecidableEq, Repr

/-- What the lines read so far mean for the next one. -/
structure LeafState where
  /-- The open leaf. -/
  leaf : OpenLeaf := .none
  /-- The last line. -/
  last : LastLine := .other
  /-- True when a block that starts on the next line interrupts text. -/
  interrupts : Bool := false
  /-- True when a pipe was the last that was seen of a head that no table followed. It adds a cell
  in front of the first pipe of the next head. -/
  pipeAhead : Bool := false

/-- Lines as one text. The last line comes first, and is taken without its ending unless `whole`. -/
def joinLines (whole : Bool) (lines : List Line) : List Char :=
  match lines with
  | [] => []
  | last :: others =>
    (others.reverse.map Line.full).flatten ++ if whole then last.full else last.text

/-- The text of a code block without one line ending at either end. -/
def codeText (s : List Char) : String := String.ofList (dropLastLineEnd (dropLineEnd s))

/-- The mark of a leaf. -/
def Leaf.mark (l : Leaf) : Mark := .token (.leaf l)

/-- The end of a line, unless it lacks the characters that end it. -/
def endMarks (t : Token) (ending : List Char) : List Mark :=
  if ending.isEmpty then [] else [.token t]

/-- The end of the last of some lines behind a block, unless it belongs to the block. -/
def lastEndMarks (whole : Bool) (lines : List Line) : List Mark :=
  match lines with
  | [] => []
  | last :: _ => if whole then [] else endMarks .lineEnd last.ending

/-- A fenced code block. `whole` tells that the end of its last line belongs to it. -/
def fencedLeaf (fence : Fence) (whole : Bool) (lines : List Line) : Leaf :=
  .code { value := codeText (joinLines whole lines), lang := fence.lang, info := fence.info }

namespace OpenLeaf

/-- True of blocks on whose lines no containers start. -/
def isRaw : OpenLeaf → Bool
  | fenced .. | html .. => true
  | _ => false

/-- The marks of an open leaf that ends, line by line. `whole` tells that the end of its last line
belongs to it, where its kind allows that. -/
def close (whole : Bool) : OpenLeaf → List (List Mark)
  | none | head .. => []
  | fenced marks fence lines =>
    [marks ++ (fencedLeaf fence whole lines).mark :: lastEndMarks whole lines]
  | html marks kind lines =>
    let whole := whole && !kind.endsAtBlank
    [marks ++ (Leaf.html (joinLines whole lines)).mark :: lastEndMarks whole lines]
  | indented marks lines blanks =>
    (marks ++ (Leaf.code { value := codeText (joinLines false lines) }).mark
      :: lastEndMarks false lines) :: blanks.reverse.map Prod.fst

end OpenLeaf

namespace LeafState

/-- Ends the open leaf, and gives its marks. `isCut` tells that a line ends it that cannot go on
with any leaf but text. -/
def close (isCut : Bool) (s : LeafState) : List (List Mark) × LeafState :=
  match s.leaf with
  | .none => ([], s)
  | .head _ endsWithPipe =>
    ([], { s with leaf := .none, interrupts := true, pipeAhead := isCut && endsWithPipe })
  | leaf => (leaf.close !isCut, { s with leaf := .none, last := .other, interrupts := false })

/-- True when text may go on with a lazy line. -/
def acceptsText (s : LeafState) : Bool :=
  match s.leaf with
  | .head .. => true
  | .none => s.last = .text || s.last = .underline
  | _ => false

end LeafState

/-- What reading a line gives. -/
structure LeafResult where
  /-- The marks of earlier lines, line by line. -/
  earlier : List (List Mark) := []
  /-- The marks of the line, unless its leaf is still open. -/
  own : Option (List Mark)
  /-- What the lines mean for the next one. -/
  state : LeafState

namespace LeafLine

/-- The rest of the line from a place on. -/
def lineFrom (x : LeafLine) (cursor : Cursor) : Line := ⟨cursor.rest, x.ending⟩

/-- The line as a line of text. -/
def textLine (x : LeafLine) : TextLine := ⟨x.cursor.front, x.lineFrom x.cursor⟩

/-- The text of the line behind white space. -/
def text (x : LeafLine) : List Char := x.cursor.skipAll.rest

/-- True of an indentation that a block may start behind. -/
def allowsStart (x : LeafLine) : Bool := x.constructs.allowsIndent x.cursor.indent

/-- True of a line that cannot go on with any leaf but text. -/
def isCut (x : LeafLine) : Bool := x.isLazy || x.startsContainer

/-- The marks of the line with the given ones of a leaf, and its end. -/
def marksWith (x : LeafLine) (t : Token) (marks : List Mark) : List Mark :=
  x.marks ++ marks ++ endMarks t x.ending

/-- The result of a line that holds a leaf of its own. -/
def leafResult (x : LeafLine) (l : Leaf) (last : LastLine) (interrupts : Bool) (s : LeafState) :
    LeafResult :=
  { own := some (x.marksWith .lineEnd [l.mark])
    state := { s with leaf := .none, last, interrupts } }

/-- The result of a line with a block that ends with it. -/
def block (x : LeafLine) (l : Leaf) (s : LeafState) : LeafResult := x.leafResult l .other false s

/-- The result of a line whose block goes on. -/
def openBlock (leaf : OpenLeaf) (s : LeafState) : LeafResult :=
  { own := none, state := { s with leaf, last := .other } }

/-- A blank line. -/
def blankLine (x : LeafLine) (s : LeafState) : LeafResult :=
  { own := some (x.marksWith .blankEnd x.cursor.spaceMarks)
    state := { s with last := .other, interrupts := false } }

/-- A line of text. -/
def plainLine (x : LeafLine) (s : LeafState) : LeafResult :=
  x.leafResult (.text x.textLine) .text true s

/-- A line of text that may be the head of a table. -/
def headLine (x : LeafLine) (s : LeafState) : LeafResult :=
  let row := x.cursor.rest
  if !Table.mayBeHead row then x.plainLine { s with pipeAhead := false }
  else
    let extra := if s.pipeAhead && Table.startsWithPipe row then 1 else 0
    let result := x.plainLine s
    { result with state := { result.state with
        leaf := .head ((Table.cells x.textLine).length + extra) (Table.endsWithPipe row) } }

/-- A line of text, or of the table that the last line belongs to. -/
def rowOrText (x : LeafLine) (s : LeafState) : LeafResult :=
  if !x.constructs.extended then x.plainLine s
  else if s.last = .table && !x.startsContainer then
    if x.isLazy then x.plainLine s
    else x.leafResult (.row (Table.cells x.textLine)) .table false s
  else if x.allowsStart && !x.ending.isEmpty then x.headLine s
  else x.plainLine s

/-- What the line starts as a block of HTML: its kind, and whether the line ends it. -/
def htmlStart (x : LeafLine) (s : LeafState) : Html.Attempt (Html.BlockKind × Bool) :=
  match x.text with
  | '<' :: rest =>
    if x.constructs.html then Html.blockStart (s.interrupts && !x.isLazy) rest else .refused
  | _ => .refused

/-- True of a line that starts like a tag. -/
def startsTag (x : LeafLine) : Bool :=
  match x.text with
  | '<' :: c :: _ => x.constructs.html && (c = '/' || c.isAlpha)
  | _ => false

/-- A line that starts a code block by indentation. -/
def codeLine (x : LeafLine) (s : LeafState) : LeafResult :=
  let line := x.lineFrom (x.cursor.skip 4)
  if x.isCut then x.block (.code { value := codeText line.text }) s
  else openBlock (.indented x.marks [line] []) s

/-- A line that starts a fenced code block, or else what is given. -/
def fenceOr (x : LeafLine) (other : LeafState → LeafResult) (s : LeafState) : LeafResult :=
  match fence? x.cursor with
  | some fence => openBlock (.fenced x.marks fence [⟨[], x.ending⟩]) s
  | none => other s

/-- A line that starts a block of HTML, or else what is given. -/
def htmlOr (x : LeafLine) (other : LeafState → LeafResult) (s : LeafState) : LeafResult :=
  let s := { s with pipeAhead := s.pipeAhead && !x.startsTag }
  match x.htmlStart s with
  | .found (_, true) => x.block (.html x.cursor.rest) s
  | .found (kind, false) => openBlock (.html x.marks kind [x.lineFrom x.cursor]) s
  | _ => other s

/-- A line with a heading, or else what is given. -/
def headingOr (x : LeafLine) (other : LeafState → LeafResult) (s : LeafState) : LeafResult :=
  match heading? x.cursor with
  | some (depth, text) => x.block (.heading depth text) s
  | none => other s

/-- A line that makes a heading of the text above, or else what is given. -/
def underlineOr (x : LeafLine) (other : LeafState → LeafResult) (s : LeafState) : LeafResult :=
  match if x.isCut || !s.acceptsText then none else underline? x.text with
  | some depth => x.leafResult (.underline depth x.textLine) .underline false s
  | none => other s

/-- A line with a thematic break, or else what is given. -/
def breakOr (x : LeafLine) (other : LeafState → LeafResult) (s : LeafState) : LeafResult :=
  if isThematicBreak x.text then x.block .thematicBreak s else other s

/-- A line whose first character leaves all blocks open. -/
def startAny (x : LeafLine) (s : LeafState) : LeafResult :=
  if x.cursor.isBlank then x.blankLine s
  else if x.constructs.indentedCode && !s.interrupts && 4 ≤ x.cursor.indent then x.codeLine s
  else if !x.allowsStart then x.rowOrText s
  else x.fenceOr (x.htmlOr <| x.headingOr <| x.underlineOr <| x.breakOr x.rowOrText) s

/-- A line that no leaf is open on. Its first character decides which blocks it may start: behind
some characters it is a line of text, and no line of a table, when it does not start theirs. -/
def start (x : LeafLine) (s : LeafState) : LeafResult :=
  match x.cursor.next? with
  | none => x.startAny s
  | some c =>
    if c = '#' then x.headingOr x.plainLine s
    else if c = '$' || c = '\x60' || c = '~' then x.fenceOr x.plainLine s
    else if c = '*' || c = '_' then x.breakOr x.plainLine s
    else if c = 'e' || c = 'i' || c = '\x7b' then x.plainLine s
    else x.startAny s

/-- A line that ends the open leaf and starts another one. -/
def startBehind (x : LeafLine) (isCut : Bool) (s : LeafState) : LeafResult :=
  let (earlier, s) := s.close isCut
  { x.start s with earlier }

/-- The alignments that the line gives to the columns of the line above. -/
def delimiters? (x : LeafLine) (columns : Nat) : Option (List (Option Align)) :=
  if x.isCut || !x.allowsStart then none
  else (Table.delimiters? x.text).filter fun align => align.length = columns

/-- Reads a line. -/
def read (x : LeafLine) (s : LeafState) : LeafResult :=
  match s.leaf with
  | .none => x.start s
  | .head columns _ =>
    match x.delimiters? columns with
    | some align => x.leafResult (.delimiters align) .table false { s with pipeAhead := false }
    | none => x.startBehind x.isCut s
  | .fenced marks fence lines =>
    if x.isLazy then x.startBehind true s
    else if x.allowsStart && fence.isClosedBy x.text then
      { x.block (fencedLeaf fence true lines) s with
        own := some (marks ++ (fencedLeaf fence true lines).mark :: endMarks .lineEnd x.ending) }
    else openBlock (.fenced marks fence (x.lineFrom (x.cursor.skip fence.indent) :: lines)) s
  | .html marks kind lines =>
    if x.isLazy || (kind.endsAtBlank && x.cursor.isBlank) then x.startBehind true s
    else
      let lines := x.lineFrom x.cursor :: lines
      if kind.isEndedBy x.cursor.rest then
        { x.block (.html (joinLines false lines)) s with
          own := some (marks ++ (Leaf.html (joinLines false lines)).mark
            :: endMarks .lineEnd x.ending) }
      else openBlock (.html marks kind lines) s
  | .indented marks lines blanks =>
    if x.isCut then x.startBehind true s
    else if 4 ≤ x.cursor.indent then
      openBlock (.indented marks
        (x.lineFrom (x.cursor.skip 4) :: blanks.map Prod.snd ++ lines) []) s
    else if x.cursor.isBlank && !x.ending.isEmpty then
      let blank := (x.marksWith .blankEnd x.cursor.spaceMarks, ⟨[], x.ending⟩)
      openBlock (.indented marks lines (blank :: blanks)) s
    else x.startBehind true s

/-- True of a line whose text may turn out to be something other than text when more of it
follows. -/
def isUndecided (x : LeafLine) (s : LeafState) : Bool :=
  if x.cursor.isBlank then true
  else if x.constructs.indentedCode && !s.interrupts && 4 ≤ x.cursor.indent then true
  else if !x.allowsStart then false
  else
    match x.text with
    | [] => true
    | c :: rest =>
      if c = '#' then (heading? x.cursor).isSome
      else if c = '\x60' || c = '~' then rest.all (· = c) || (fence? x.cursor).isSome
      else if c = '*' || c = '-' || c = '_' then rest.all fun d => d = c || isSpace d
      else
        match x.htmlStart s with
        | .refused => false
        | _ => true

end LeafLine

end SlideDeck.Markdown
