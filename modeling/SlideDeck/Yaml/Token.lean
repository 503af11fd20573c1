/-!
# Tokens of YAML

The tokens that a YAML stream is cut into, and the cursor that reads it. A cursor knows how many
characters it has passed and on which line and column it stands, because indentation decides how
the tokens of block collections nest.
-/

namespace SlideDeck.Yaml

/-- A position in a stream together with the text that is still to be read. -/
structure Cursor where
  /-- The number of characters read. -/
  index : Nat := 0
  /-- The line, from 0. -/
  line : Nat := 0
  /-- The column, from 0. -/
  column : Nat := 0
  /-- The text that follows. -/
  rest : List Char

/-- The line breaks: carriage return, line feed, next line, line and paragraph separator. -/
def isBreak (c : Char) : Bool :=
  c = '\r' || c = '\n' || c.toNat = 0x85 || c.toNat = 0x2028 || c.toNat = 0x2029

/-- Space and tab. -/
def isSpaceOrTab (c : Char) : Bool := c = ' ' || c = '\t'

/-- ASCII letters and digits, the hyphen and the underscore. -/
def isWordChar (c : Char) : Bool := c.isAlphanum || c = '-' || c = '_'

namespace Cursor

/-- The next character. -/
def next? (c : Cursor) : Option Char := c.rest.head?

/-- The character `n` places ahead. -/
def ahead? (c : Cursor) (n : Nat) : Option Char := c.rest[n]?

/-- True when the next character is `x`. -/
def looksAt (c : Cursor) (x : Char) : Bool := c.next? == some x

/-- True when the character `n` places ahead is a space, a tab, a line break or the end. -/
def isBlankOrEndAt (c : Cursor) (n : Nat) : Bool :=
  match c.ahead? n with
  | none => true
  | some x => isSpaceOrTab x || isBreak x

/-- True when the next character is a line break. -/
def atBreak (c : Cursor) : Bool := (c.next?.map isBreak).getD false

/-- True when the next character is a space or a tab. -/
def atSpaceOrTab (c : Cursor) : Bool := (c.next?.map isSpaceOrTab).getD false

/-- Moves over one character of a line. -/
def skip (c : Cursor) : Cursor :=
  match c.rest with
  | [] => c
  | _ :: rest => { c with index := c.index + 1, column := c.column + 1, rest }

/-- Moves over several characters of a line. -/
def skipMany (c : Cursor) (n : Nat) : Cursor :=
  { c with index := c.index + n, column := c.column + n, rest := c.rest.drop n }

/-- Moves over a line break and gives the text it stands for: a line feed, except that line and
paragraph separators stay as they are. -/
def readBreak (c : Cursor) : List Char × Cursor :=
  match c.rest with
  | '\r' :: '\n' :: rest =>
    (['\n'], { index := c.index + 2, line := c.line + 1, column := 0, rest })
  | x :: rest =>
    if isBreak x then
      (if x.toNat = 0x2028 || x.toNat = 0x2029 then [x] else ['\n'],
        { index := c.index + 1, line := c.line + 1, column := 0, rest })
    else ([], c)
  | [] => ([], c)

/-- True at the start of a line with three equal marks that end a document or start one. -/
def atDocumentMark (c : Cursor) : Bool :=
  c.column == 0 && c.isBlankOrEndAt 3
    && (c.rest.take 3 == ['-', '-', '-'] || c.rest.take 3 == ['.', '.', '.'])

/-- Moves over characters of a line while they satisfy `p`, and gives them. -/
def takeWhile (c : Cursor) (p : Char → Bool) : List Char × Cursor :=
  let taken := c.rest.takeWhile p
  (taken, c.skipMany taken.length)

end Cursor

/-- How a scalar is written, as far as its meaning depends on it. -/
inductive Style where
  /-- Without quotes, so that the text decides the type. -/
  | plain
  /-- In quotes or as a block, always a text. -/
  | quoted
deriving DecidableEq, Repr

/-- A token. -/
inductive Token where
  /-- A directive that names the version. -/
  | version (major minor : Nat)
  /-- A directive that declares a tag handle. -/
  | tagDirective (handle start : List Char)
  /-- The mark that starts a document. -/
  | documentStart
  /-- The mark that ends a document. -/
  | documentEnd
  /-- The end of the stream. -/
  | streamEnd
  /-- The start of a block sequence. -/
  | blockSequenceStart
  /-- The start of a block mapping. -/
  | blockMappingStart
  /-- The end of a block collection. -/
  | blockEnd
  /-- An opening bracket. -/
  | flowSequenceStart
  /-- A closing bracket. -/
  | flowSequenceEnd
  /-- An opening brace. -/
  | flowMappingStart
  /-- A closing brace. -/
  | flowMappingEnd
  /-- The dash of a block sequence. -/
  | blockEntry
  /-- The comma of a flow collection. -/
  | flowEntry
  /-- The start of a key. -/
  | key
  /-- The start of a value. -/
  | value
  /-- A reference to an anchor. -/
  | alias (name : List Char)
  /-- An anchor. -/
  | anchor (name : List Char)
  /-- A tag, as a handle and the rest. -/
  | tag (handle suffix : List Char)
  /-- A scalar. -/
  | scalar (text : List Char) (style : Style)
deriving DecidableEq, Repr

end SlideDeck.Yaml
