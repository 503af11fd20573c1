import SlideDeck.Text.Blank

/-!
# Code fences as the page splitter sees them

A fence opens with at least three backticks or tildes behind at most three columns of indentation;
the rest of a line that opens a backtick fence holds no backtick. It closes with a line of at least
as many of the same marks, again behind at most three columns, and nothing but blank characters
after them. The splitter looks at lines alone and knows no containers.
-/

namespace SlideDeck.Page

/-- A fence that is open. -/
structure Fence where
  /-- The mark it is made of. -/
  marker : Char
  /-- The number of marks. -/
  length : Nat
  /-- The columns of indentation in front of it. -/
  indent : Nat
  /-- The line it stands on. -/
  line : Nat
deriving DecidableEq, Repr

/-- The columns of the white space at the start of a line and the text behind it. A tab reaches to
the next multiple of four. -/
def indentFrom (columns : Nat) : List Char → Nat × List Char
  | ' ' :: rest => indentFrom (columns + 1) rest
  | '\t' :: rest => indentFrom (columns + (4 - columns % 4)) rest
  | s => (columns, s)

/-- The columns of indentation of a line and the text behind them. -/
def indentOf (line : List Char) : Nat × List Char := indentFrom 0 line

/-- The marks that a text starts with, at least three: the mark, their number and the rest. -/
def run? (s : List Char) : Option (Char × Nat × List Char) :=
  match s with
  | [] => none
  | c :: _ =>
    let marks := s.takeWhile (· = c)
    if (c = '\x60' || c = '~') && 3 ≤ marks.length then
      some (c, marks.length, s.drop marks.length)
    else none

/-- The fence that a line opens. -/
def opener? (line : List Char) (number : Nat) : Option Fence :=
  let (indent, rest) := indentOf line
  if indent > 3 then none
  else
    match run? rest with
    | some (marker, length, info) =>
      if marker = '\x60' && info.contains '\x60' then none
      else some { marker, length, indent, line := number }
    | none => none

/-- True when a line closes a fence. -/
def Fence.isClosedBy (fence : Fence) (line : List Char) : Bool :=
  let (indent, rest) := indentOf line
  indent ≤ 3
    && (match run? rest with
      | some (marker, length, after) =>
        marker = fence.marker && fence.length ≤ length && Text.isBlankText after
      | none => false)

/-- Looks at one line: the fence that is open after it, and whether the line belongs to a fence. -/
def observe (fence : Option Fence) (line : List Char) (number : Nat) : Option Fence × Bool :=
  match fence with
  | some f => (if f.isClosedBy line then none else some f, true)
  | none =>
    match opener? line number with
    | some f => (some f, true)
    | none => (none, false)

end SlideDeck.Page
