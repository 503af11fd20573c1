import SlideDeck.Markdown.Block.Mark
import SlideDeck.Text.Blank

/-!
# Rows of tables

A row is cut into cells at its unescaped pipes. The row behind the head gives the alignment of each
column; it must have as many cells as the head.
-/

namespace SlideDeck.Markdown.Table

/-- Cuts a text at unescaped pipes; the backslash of an escape stays. -/
def splitCells : List Char → List (List Char)
  | [] => [[]]
  | '\\' :: '|' :: rest => pushAll ['\\', '|'] (splitCells rest)
  | '\\' :: '\\' :: rest => pushAll ['\\', '\\'] (splitCells rest)
  | '|' :: rest => [] :: splitCells rest
  | c :: rest => pushAll [c] (splitCells rest)
where
  /-- Puts characters in front of the first cell. -/
  pushAll (s : List Char) : List (List Char) → List (List Char)
    | [] => [s]
    | cell :: cells => (s ++ cell) :: cells

/-- A text without spaces and tabs at either end. -/
def trimSpaces (s : List Char) : List Char := Text.dropEndWhile isSpace (s.dropWhile isSpace)

/-- Entries without the empty one in front of a first pipe. -/
def dropFirstEmpty {α : Type} (isEmpty : α → Bool) : List α → List α
  | cell :: next :: cells => if isEmpty cell then next :: cells else cell :: next :: cells
  | cells => cells

/-- Entries without the empty one behind a last pipe. -/
def dropLastEmpty {α : Type} (isEmpty : α → Bool) (cells : List α) : List α :=
  (dropFirstEmpty isEmpty cells.reverse).reverse

/-- The cell that a part between two pipes holds. The characters on either side of the part are
given. -/
def cellOf (before after : Option Char) (part : List Char) : Cell :=
  let lead := part.takeWhile isSpace
  let text := trimSpaces part
  let trail := part.drop (lead.length + text.length)
  { before := lead.getLast?.or before, text, after := trail.head?.or after }

/-- The cells of the parts of a row, the first of which stands behind the given character. -/
def cellsFrom (before : Option Char) : List (List Char) → List Cell
  | [] => []
  | [part] => [cellOf before none part]
  | part :: parts => cellOf before (some '|') part :: cellsFrom (some '|') parts

/-- The cells of a row, at least one. -/
def cells (row : TextLine) : List Cell :=
  let isEmpty (c : Cell) := c.text.isEmpty
  dropLastEmpty isEmpty (dropFirstEmpty isEmpty
    (cellsFrom row.front.passed.head? (splitCells row.line.text)))

/-- True of a row that starts with a pipe. -/
def startsWithPipe (row : List Char) : Bool := (row.dropWhile isSpace).head? = some '|'

/-- True of a row that ends with an unescaped pipe. -/
def endsWithPipe (row : List Char) : Bool :=
  match (splitCells row).reverse with
  | last :: _ :: _ => last.all isSpace
  | _ => false

/-- True of a row that may be the head of a table: anything but a single pipe. -/
def mayBeHead (row : List Char) : Bool := trimSpaces row ≠ ['|']

/-- The alignment that a cell of the second row gives: hyphens, with a colon on the sides to which
the column is aligned. -/
def align? (cell : List Char) : Option (Option Align) :=
  let left := cell.head? == some ':'
  let filler := if left then cell.tail else cell
  let right := filler.getLast? == some ':'
  let filler := if right then filler.dropLast else filler
  if filler.isEmpty || filler.any (· ≠ '-') then none
  else if left && right then some (some .center)
  else if left then some (some .left)
  else if right then some (some .right)
  else some none

/-- The alignments that a row gives, if it can follow a head: it has a pipe or a colon, and nothing
but alignments. -/
def delimiters? (row : List Char) : Option (List (Option Align)) :=
  if row.any (fun c => c = '|' || c = ':') then
    (dropLastEmpty List.isEmpty (dropFirstEmpty List.isEmpty
      ((Text.splitAtEvery (· = '|') row).map trimSpaces))).mapM align?
  else none

end SlideDeck.Markdown.Table
