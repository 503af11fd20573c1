import SlideDeck.Markdown.Block.Element
import SlideDeck.Markdown.Block.List
import SlideDeck.Markdown.Block.Scan

/-!
# From marks to blocks

The marks of a page are read to blocks, container by container: items are grouped to lists, lines of
text are joined to definitions, paragraphs and tables, underlines make headings of paragraphs, and
the first paragraph of an item may start with the check mark of a task.
-/

namespace SlideDeck.Markdown

/-! ## Text and tables -/

/-- Lines that belong together. They come the last one first. -/
inductive TextRun where
  /-- No lines. -/
  | none
  /-- Lines of text. -/
  | text (lines : List TextLine)
  /-- A table with its rows. -/
  | table (align : List (Option Align)) (rows : List (List Cell))

/-- The definitions and the paragraph that lines of text make. -/
def textParts (lines : List TextLine) : List Part :=
  let (definitions, rest) := definitionsOf (.ofLines lines)
  definitions.map (fun d => .block (.definition d))
    ++ if rest.text.isEmpty then [] else [.block (.paragraph none rest)]

/-- The blocks of lines that belong together. -/
def TextRun.parts : TextRun → List Part
  | none => []
  | text lines => textParts lines.reverse
  | table align rows => [.block (.table align rows.reverse)]

/-- True of lines that other lines may belong to. -/
def TextRun.isOpen : TextRun → Bool
  | none => false
  | _ => true

/-- True of parts that may stand between lines that belong together. -/
def Part.joinsLines : Part → Bool
  | token .lineEnd => true
  | token t => t.isFront
  | _ => false

/-- Joins lines of text and of tables. `gap` holds the parts behind the lines of `run`, the last one
first. A row of delimiters takes the line of text above as the head of its table. -/
def joinText (run : TextRun) (gap : List Part) : List Part → List Part
  | [] => run.parts ++ gap.reverse
  | p :: rest =>
    match p, run with
    | .token (.leaf (.text line)), .text lines => joinText (.text (line :: lines)) [] rest
    | .token (.leaf (.delimiters align)), .text (head :: lines) =>
      textParts lines.reverse ++ joinText (.table align [Table.cells head]) [] rest
    | .token (.leaf (.row cells)), .table align rows =>
      joinText (.table align (cells :: rows)) [] rest
    | .token (.leaf (.text line)), run =>
      run.parts ++ gap.reverse ++ joinText (.text [line]) [] rest
    | p, run =>
      if run.isOpen && p.joinsLines then joinText run (p :: gap) rest
      else run.parts ++ gap.reverse ++ p :: joinText .none [] rest

/-! ## Underlined headings -/

/-- Makes headings of underlined paragraphs. `done` holds the parts in front, the last one first. An
underline without a paragraph above is text: the first line of the paragraph on the next line if
nothing stands in front of that, and otherwise a paragraph of its own. -/
def settleUnderlines (done : List Part) : List Part → List Part
  | [] => done.reverse
  | .token (.leaf (.underline depth line)) :: rest =>
    match done.dropWhile Part.joinsLines, rest with
    | .block (.paragraph _ p) :: before, rest =>
      settleUnderlines (.block (.heading depth p) :: before) rest
    | _, .token .lineEnd :: .block (.paragraph _ p) :: rest =>
      settleUnderlines (.block (.paragraph none (p.cons line)) :: done) rest
    | _, rest => settleUnderlines (.block (.paragraph none (.ofLines [line])) :: done) rest
  | p :: rest => settleUnderlines (p :: done) rest

/-! ## Tasks -/

/-- What stands between the brackets of a check mark: whether it says that the task is done, and the
text behind. Of white space there may be one column or one line end. -/
def checkValue? (p : Passage) (s : List Char) : Option (Bool × List Char) :=
  match takeLineEnd? s with
  | some (_, rest) => if (p.behind rest).front.isInTab then none else some (false, rest)
  | none =>
    match s with
    | c :: rest =>
      if c = 'x' || c = 'X' then some (true, rest)
      else if c = ' ' || (c = '\t' && toTabStop (p.front.column + 1) = 1) then some (false, rest)
      else none
    | [] => none

/-- True of what may follow a check mark: the end of a line, or white space with text behind it. -/
def mayFollowCheck (s : List Char) : Bool :=
  match s with
  | [] => false
  | c :: rest => isLineEnd c || (isSpace c && !rest.all isSpace)

/-- The check mark at the start of a text, and the text behind it. -/
def task? (p : Passage) : Option (Bool × Passage) :=
  match p.text with
  | '[' :: inside =>
    match if p.front.isInTab then none else checkValue? p inside with
    | some (checked, ']' :: rest) =>
      if mayFollowCheck rest then some (checked, p.behind rest) else none
    | _ => none
  | _ => none

/-- Reads the check mark of an item. It starts the first paragraph, with nothing but definitions
between the sign of the item and the paragraph; `isBehindSign` tells that the sign was met. -/
def markTask (isBehindSign : Bool) : List Part → List Part
  | [] => []
  | .token .itemSign :: rest => .token .itemSign :: markTask true rest
  | .token t :: rest =>
    .token t :: if isBehindSign && !t.isPause then rest else markTask isBehindSign rest
  | .block (.definition d) :: rest => .block (.definition d) :: markTask isBehindSign rest
  | .block (.paragraph checked p) :: rest =>
    match if isBehindSign then task? p else none with
    | some (checked, behind) => .block (.paragraph (some checked) behind) :: rest
    | none => .block (.paragraph checked p) :: rest
  | parts => parts

/-! ## Containers -/

/-- True of the parts of an item with a blank line between its blocks. A blank line right behind the
sign of the item is none; `atSign` tells that the sign was met last. -/
def isSpreadItem (atSign : Bool) : List Part → Bool
  | [] => false
  | .token .blankEnd :: rest => !atSign || isSpreadItem false rest
  | .token .itemSign :: rest => isSpreadItem true rest
  | .token .space :: rest => isSpreadItem atSign rest
  | _ :: rest => isSpreadItem false rest

/-- The parts of a container, once its items are grouped to lists, as blocks. -/
def settleParts (parts : List Part) : List Part := settleUnderlines [] (joinText .none [] parts)

/-- The blocks of an item. -/
def itemBlocks (c : Constructs) (parts : List Part) : List Block :=
  let parts := settleParts parts
  (if c.extended then markTask false parts else parts).filterMap Part.block?

/-- The blocks of any other container, or of a page. -/
def blocksOfParts (parts : List Part) : List Block :=
  (settleParts (groupItems parts)).filterMap Part.block?

/-- The part of a mark: the block that it says all of, or the mark. -/
def Part.ofToken : Token → Part
  | .leaf (.heading depth text) => .block (.heading depth text)
  | .leaf (.code code) => .block (.code code)
  | .leaf (.html value) => .block (.html value)
  | .leaf .thematicBreak => .block .thematicBreak
  | t => .token t

mutual

/-- What an element is among the parts of its container. -/
def Element.part (c : Constructs) : Element → Part
  | .token t => .ofToken t
  | .container kind inside =>
    let parts := Element.parts c inside
    match kind with
    | .quote => .block (.quote (blocksOfParts parts))
    | .footnote label => .block (.footnote label (blocksOfParts parts))
    | .item mark =>
      let parts := groupItems parts
      .item mark (Element.hidesGap inside) (.item (isSpreadItem false parts) (itemBlocks c parts))

/-- The parts of several elements. -/
def Element.parts (c : Constructs) : List Element → List Part
  | [] => []
  | e :: rest => Element.part c e :: Element.parts c rest

end

/-- The blocks of lines. The given characters stand in front of the first line. -/
def blocksOf (c : Constructs) (passed : List Char) (lines : List Line) : List Block :=
  blocksOfParts (Element.parts c (Element.ofMarks (marksOf c passed lines)))

end SlideDeck.Markdown
