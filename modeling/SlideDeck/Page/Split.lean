import SlideDeck.Diagnostic
import SlideDeck.Page.Fence
import SlideDeck.Text.Line

/-!
# Splitting a deck into pages

A line `---` outside every code fence separates two pages. The pages are numbered from 1 and know
the line of the deck on which they start. A fence that stays open swallows every later separator,
so it sits on the last page, and a warning points at its opening line.
-/

namespace SlideDeck

/-- The text of one page. -/
structure RawPage where
  /-- The number of the page, from 1. -/
  index : Nat
  /-- The text, without the separators around it and without its last line break. -/
  text : List Char
  /-- The line of the deck, from 1, on which the page starts. -/
  firstLine : Nat
deriving DecidableEq, Repr

/-- The pages of a body and what was found while splitting it. -/
structure PageSplit where
  /-- The pages in order, at least one. -/
  pages : List RawPage
  /-- A fence that stays open, if there is one. -/
  warnings : List Warning
deriving DecidableEq, Repr

namespace Page

/-- A line without the carriage returns and line feeds at its end. -/
def content (line : List Char) : List Char :=
  Text.dropEndWhile (fun c => c = '\n' || c = '\r') line

/-- True of a line that separates pages where no fence is open. -/
def isSeparator (line : List Char) : Bool := Text.trimEnd (content line) == ['-', '-', '-']

/-- The lines of a body between its separators. -/
structure Segments where
  /-- The lines in front of the first separator. -/
  first : List (List Char) := []
  /-- For each separator the number of the line behind it and the lines up to the next one. -/
  others : List (Nat × List (List Char)) := []
  /-- The fence that is open at the end. -/
  fence : Option Fence := none

/-- The segments with a line put in front. -/
def Segments.push (s : Segments) (line : List Char) : Segments :=
  { s with first := line :: s.first }

/-- Cuts lines at separators, starting on the line `number` with `fence` open. -/
def segments (fence : Option Fence) (number : Nat) : List (List Char) → Segments
  | [] => { fence }
  | line :: rest =>
    let (fence, inside) := observe fence (content line) number
    let s := segments fence (number + 1) rest
    if !inside && isSeparator line then
      { first := [], others := (number + 1, s.first) :: s.others, fence := s.fence }
    else s.push line

/-- The text of a page: its lines without one line break at the end. -/
def textOfLines (lines : List (List Char)) : List Char :=
  let text := lines.flatten
  match text.reverse with
  | '\n' :: '\r' :: rest => rest.reverse
  | '\n' :: rest => rest.reverse
  | _ => text

/-- Numbers pages from `index`. -/
def number (index : Nat) : List (Nat × List (List Char)) → List RawPage
  | [] => []
  | (line, lines) :: rest =>
    { index, text := textOfLines lines, firstLine := line } :: number (index + 1) rest

end Page

/-- Splits a body whose first line has the given number in its deck. -/
def splitPages (body : List Char) (firstLine : Nat) : PageSplit :=
  let s := Page.segments none firstLine (Text.lines body)
  let pages := Page.number 1 ((firstLine, s.first) :: s.others)
  { pages
    warnings := match s.fence with
      | some fence =>
        [.unclosedFence
          { page := some pages.length, line := fence.line, column := fence.indent + 1 }
          fence.marker]
      | none => [] }

end SlideDeck
