/-!
# Lines and columns

The lines of a page, and a cursor in a line that counts columns. Tab stops are four columns apart. A
tab may be passed over in part: the rest of it still counts as columns of white space, but it is no
longer a character of the text.
-/

namespace SlideDeck.Markdown

/-- A line: its text and the characters that end it, which only the last line may lack. -/
structure Line where
  /-- The text. -/
  text : List Char
  /-- The characters that end the line. -/
  ending : List Char
deriving DecidableEq, Repr, Inhabited

/-- The whole line. -/
def Line.full (line : Line) : List Char := line.text ++ line.ending

/-- Cuts a text into lines. `text` holds the characters of the current line, the last one first. -/
def linesFrom (text : List Char) : List Char → List Line
  | [] => if text.isEmpty then [] else [⟨text.reverse, []⟩]
  | '\r' :: '\n' :: rest => ⟨text.reverse, ['\r', '\n']⟩ :: linesFrom [] rest
  | '\r' :: rest => ⟨text.reverse, ['\r']⟩ :: linesFrom [] rest
  | '\n' :: rest => ⟨text.reverse, ['\n']⟩ :: linesFrom [] rest
  | c :: rest => linesFrom (c :: text) rest

/-- The lines of a text; a line feed, a carriage return, or both in the other order end a line. -/
def linesOf (s : List Char) : List Line := linesFrom [] s

/-- Spaces and tabs. -/
def isSpace (c : Char) : Bool := c = ' ' || c = '\t'

/-- The characters that end lines. -/
def isLineEnd (c : Char) : Bool := c = '\n' || c = '\r'

/-- Spaces, tabs and the characters that end lines. -/
def isSpaceOrLineEnd (c : Char) : Bool := isSpace c || isLineEnd c

/-- A text without one line ending at its start. -/
def dropLineEnd : List Char → List Char
  | '\r' :: '\n' :: rest => rest
  | '\r' :: rest => rest
  | '\n' :: rest => rest
  | s => s

/-- A text without one line ending at its end. -/
def dropLastLineEnd (s : List Char) : List Char :=
  match s.reverse with
  | '\n' :: '\r' :: rest => rest.reverse
  | '\n' :: rest => rest.reverse
  | '\r' :: rest => rest.reverse
  | _ => s

/-- The line ending at the start of a text, if there is one, and the text behind it. -/
def takeLineEnd? : List Char → Option (List Char × List Char)
  | '\r' :: '\n' :: rest => some (['\r', '\n'], rest)
  | '\r' :: rest => some (['\r'], rest)
  | '\n' :: rest => some (['\n'], rest)
  | _ => none

/-- The columns from a column to the next tab stop. -/
def toTabStop (column : Nat) : Nat := 4 - column % 4

/-- The column behind a text that begins in a column. -/
def columnBehind (column : Nat) (s : List Char) : Nat :=
  s.foldl (fun n c => if c = '\t' then n + toTabStop n else n + 1) column

/-- The columns of the white space at the start of a text that begins in a column. -/
def indentFrom (column : Nat) : List Char → Nat
  | ' ' :: rest => 1 + indentFrom (column + 1) rest
  | '\t' :: rest => toTabStop column + indentFrom (column + toTabStop column) rest
  | _ => 0

/-- A place in a line. -/
structure Cursor where
  /-- The column, from 0. -/
  column : Nat := 0
  /-- The columns passed over of the tab that the place is in; 0 if it is in none. -/
  used : Nat := 0
  /-- The characters passed over, the last one first; a tab that the place is in is one of them. -/
  passed : List Char := []
  /-- The text from here on. -/
  rest : List Char
deriving DecidableEq, Repr, Inhabited

namespace Cursor

/-- The columns that are left of the tab that the place is in. -/
def tabRest (c : Cursor) : Nat := if c.used = 0 then 0 else toTabStop c.column

/-- The columns of white space at a place. -/
def indent (c : Cursor) : Nat := c.tabRest + indentFrom (c.column + c.tabRest) c.rest

/-- Passes over one column of white space, if there is any. -/
def skipColumn (c : Cursor) : Cursor :=
  if 0 < c.used then
    { c with column := c.column + 1, used := if c.tabRest = 1 then 0 else c.used + 1 }
  else
    match c.rest with
    | ' ' :: rest => { column := c.column + 1, passed := ' ' :: c.passed, rest }
    | '\t' :: rest =>
      { column := c.column + 1, used := if toTabStop c.column = 1 then 0 else 1
        passed := '\t' :: c.passed, rest }
    | _ => c

/-- Passes over at most the given number of columns of white space. -/
def skip : Nat → Cursor → Cursor
  | 0, c => c
  | n + 1, c => skip n c.skipColumn

/-- Passes over all white space. -/
def skipAll (c : Cursor) : Cursor := c.skip c.indent

/-- Passes over characters; the place must not be in a tab. -/
def advance (n : Nat) (c : Cursor) : Cursor :=
  { column := columnBehind c.column (c.rest.take n)
    passed := (c.rest.take n).reverse ++ c.passed, rest := c.rest.drop n }

/-- True when only white space follows. -/
def isBlank (c : Cursor) : Bool := c.rest.all isSpace

/-- True when nothing follows, not even the rest of a tab. -/
def isAtEnd (c : Cursor) : Bool := c.used = 0 && c.rest.isEmpty

/-- The next character; the rest of a tab counts as spaces. -/
def next? (c : Cursor) : Option Char := if 0 < c.used then some ' ' else c.rest.head?

/-- The number of characters from one place to a later one. Of a tab that the later place is in the
columns passed over count, and one that the earlier place is in counts as four columns wide. -/
def charactersTo (start stop : Cursor) : Nat :=
  stop.passed.length - start.passed.length + (if start.used = 0 then 0 else 4 - start.used)
    + (stop.used - 1)

end Cursor

/-- What stands in front of a text on its line. -/
structure Front where
  /-- The characters, the last one first. -/
  passed : List Char := []
  /-- The column that the text starts in. -/
  column : Nat := 0
  /-- True when the text starts in a tab, which is then the last of the characters. -/
  isInTab : Bool := false
deriving DecidableEq, Repr, Inhabited

/-- What stands in front of a place. -/
def Cursor.front (c : Cursor) : Front :=
  { passed := c.passed, column := c.column, isInTab := c.used ≠ 0 }

/-- A line of text behind what stands in front of it. -/
structure TextLine where
  /-- What stands in front of the text. -/
  front : Front
  /-- The text and the characters that end it. -/
  line : Line
deriving DecidableEq, Repr, Inhabited

end SlideDeck.Markdown
