import SlideDeck.Text.Entity
import SlideDeck.Yaml.Token

/-!
# Scalars as written

The reading of quoted, plain and block scalars. Line breaks inside quoted and plain scalars fold: a
single one becomes a space and of several the first is dropped. A block scalar keeps its lines or
folds them, and its header says what happens to the line breaks at its end.
-/

namespace SlideDeck.Yaml

/-- The text of a scalar while it is read, with the white space that is not yet part of it. -/
structure Fold where
  /-- The text, the last character first. -/
  text : List Char := []
  /-- White space on the current line, the last character first. -/
  spaces : List Char := []
  /-- The first line break of a run of breaks. -/
  first : List Char := []
  /-- The further line breaks of the run. -/
  more : List Char := []
  /-- True when a line break was passed since the last character of the text. -/
  broken : Bool := false

namespace Fold

/-- Adds a character to the text. -/
def push (f : Fold) (c : Char) : Fold := { f with text := c :: f.text }

/-- Adds several characters to the text. -/
def pushAll (f : Fold) (cs : List Char) : Fold := { f with text := cs.reverse ++ f.text }

/-- Makes the white space that was passed part of the text, line breaks folded. -/
def settle (f : Fold) : Fold :=
  if f.broken then
    let joined :=
      if f.first.head? == some '\n' then (if f.more.isEmpty then [' '] else f.more)
      else f.first ++ f.more
    { text := joined.reverse ++ f.text }
  else { text := f.spaces ++ f.text }

/-- Passes white space and line breaks. Before `indent`, a tab on a line after a break is
refused. -/
def passBlanks (indent : Nat) : Nat → Fold → Cursor → Option (Fold × Cursor)
  | 0, f, c => some (f, c)
  | fuel + 1, f, c =>
    if c.atSpaceOrTab then
      if f.broken && c.column < indent && c.looksAt '\t' then none
      else
        let f := if f.broken then f else { f with spaces := c.rest.take 1 ++ f.spaces }
        passBlanks indent fuel f c.skip
    else if c.atBreak then
      let (text, c) := c.readBreak
      if f.broken then passBlanks indent fuel { f with more := f.more ++ text } c
      else passBlanks indent fuel { f with spaces := [], first := text, broken := true } c
    else some (f, c)

end Fold

/-- The characters that a one-letter escape of a double-quoted scalar stands for. -/
def escapeChar? (c : Char) : Option Char :=
  match c with
  | '0' => some '\x00'
  | 'a' => some '\x07'
  | 'b' => some '\x08'
  | 't' | '\t' => some '\t'
  | 'n' => some '\n'
  | 'v' => some '\x0b'
  | 'f' => some '\x0c'
  | 'r' => some '\r'
  | 'e' => some '\x1b'
  | ' ' => some ' '
  | '"' => some '"'
  | '/' => some '/'
  | '\\' => some '\\'
  | 'N' => some '\u0085'
  | '_' => some '\u00a0'
  | 'L' => some '\u2028'
  | 'P' => some '\u2029'
  | _ => none

/-- The number of hexadecimal digits behind an escape that takes a code point. -/
def escapeWidth? (c : Char) : Option Nat :=
  match c with
  | 'x' => some 2
  | 'u' => some 4
  | 'U' => some 8
  | _ => none

/-- Reads the escape that starts at a backslash. -/
def readEscape (c : Cursor) : Option (Char × Cursor) := do
  let mark ← c.ahead? 1
  match escapeChar? mark with
  | some x => some (x, c.skipMany 2)
  | none =>
    let width ← escapeWidth? mark
    let digits := (c.rest.drop 2).take width
    if digits.length < width then none
    else
      let n ← Text.natOfDigits? 16 digits
      if (0xD800 ≤ n && n ≤ 0xDFFF) || n > 0x10FFFF then none
      else some (Char.ofNat n, c.skipMany (2 + width))

/-- Reads the characters of a quoted scalar up to white space or the closing quote. -/
def readQuotedRun (single : Bool) : Nat → Fold → Cursor → Option (Fold × Cursor)
  | 0, f, c => some (f, c)
  | fuel + 1, f, c =>
    if c.isBlankOrEndAt 0 then some (f, c)
    else if single then
      match c.rest with
      | '\x27' :: '\x27' :: _ => readQuotedRun single fuel (f.push '\x27') (c.skipMany 2)
      | '\x27' :: _ => some (f, c)
      | x :: _ => readQuotedRun single fuel (f.push x) c.skip
      | [] => some (f, c)
    else
      match c.rest with
      | '"' :: _ => some (f, c)
      | '\\' :: x :: _ =>
        if isBreak x then some ({ f with broken := true }, c.skip.readBreak.2)
        else do
          let (x, c) ← readEscape c
          readQuotedRun single fuel (f.push x) c
      | '\\' :: [] => none
      | x :: _ => readQuotedRun single fuel (f.push x) c.skip
      | [] => some (f, c)

/-- Reads a quoted scalar from behind its opening quote. -/
def readQuotedFrom (single : Bool) : Nat → Fold → Cursor → Option (List Char × Cursor)
  | 0, _, _ => none
  | fuel + 1, f, c =>
    if c.atDocumentMark || c.rest.isEmpty then none
    else do
      let (f, c) ← readQuotedRun single (c.rest.length + 1) f c
      if c.looksAt (if single then '\x27' else '"') then some (f.text.reverse, c.skip)
      else
        let (f, c) ← f.passBlanks 0 (c.rest.length + 1) c
        readQuotedFrom single fuel f.settle c

/-- Reads a quoted scalar. -/
def readQuoted (single : Bool) (c : Cursor) : Option (List Char × Cursor) :=
  readQuotedFrom single (c.rest.length + 1) {} c.skip

/-- The characters that end a plain scalar inside a flow collection. -/
def isFlowMark (c : Char) : Bool := c = ',' || c = '[' || c = ']' || c = '\x7b' || c = '\x7d'

/-- Reads the characters of a plain scalar up to white space or a mark that ends it. A colon in
front of a flow mark is refused. -/
def readPlainRun (flow : Bool) : Nat → Fold → Cursor → Option (Fold × Cursor)
  | 0, f, c => some (f, c)
  | fuel + 1, f, c =>
    match c.rest with
    | [] => some (f, c)
    | x :: _ =>
      if c.isBlankOrEndAt 0 then some (f, c)
      else if flow && x = ':' && ((c.ahead? 1).map fun y => isFlowMark y || y = '?') == some true
      then none
      else if (x = ':' && c.isBlankOrEndAt 1) || (flow && isFlowMark x) then some (f, c)
      else
        let f := if f.broken || !f.spaces.isEmpty then f.settle else f
        readPlainRun flow fuel (f.push x) c.skip

/-- Reads a plain scalar; the last component tells whether it ended behind a line break. -/
def readPlainFrom (flow : Bool) (indent : Nat) :
    Nat → Fold → Cursor → Option (List Char × Bool × Cursor)
  | 0, f, c => some (f.text.reverse, f.broken, c)
  | fuel + 1, f, c =>
    if c.atDocumentMark || c.looksAt '#' then some (f.text.reverse, f.broken, c)
    else do
      let (f, c) ← readPlainRun flow (c.rest.length + 1) f c
      if !(c.atSpaceOrTab || c.atBreak) then some (f.text.reverse, f.broken, c)
      else
        let (f, c) ← f.passBlanks indent (c.rest.length + 1) c
        if !flow && c.column < indent then some (f.text.reverse, f.broken, c)
        else readPlainFrom flow indent fuel f c

/-- Reads a plain scalar whose further lines have to stand at `indent` or deeper. -/
def readPlain (flow : Bool) (indent : Nat) (c : Cursor) : Option (List Char × Bool × Cursor) :=
  readPlainFrom flow indent (c.rest.length + 1) {} c

/-- What becomes of the line breaks at the end of a block scalar. -/
inductive Chomp where
  /-- All are dropped. -/
  | strip
  /-- One is kept. -/
  | clip
  /-- All are kept. -/
  | keep
deriving DecidableEq, Repr

/-- Passes the indentation and the empty lines in front of a line of a block scalar. Gives the line
breaks, the deepest indentation seen and the cursor; a tab in the indentation is refused. -/
def passIndent (indent : Nat) : Nat → List Char → Nat → Cursor → Option (List Char × Nat × Cursor)
  | 0, breaks, deepest, c => some (breaks, deepest, c)
  | fuel + 1, breaks, deepest, c =>
    if (indent == 0 || c.column < indent) && c.looksAt ' ' then
      passIndent indent fuel breaks deepest c.skip
    else
      let deepest := max deepest c.column
      if (indent == 0 || c.column < indent) && c.looksAt '\t' then none
      else if c.atBreak then
        let (text, c) := c.readBreak
        passIndent indent fuel (breaks ++ text) deepest c
      else some (breaks, deepest, c)

/-- Reads the lines of a block scalar. `first` and `more` are the line breaks since the last line,
and `leading` tells whether that line started with white space. -/
def readBlockLines (literal : Bool) (chomp : Chomp) (indent : Nat) :
    Nat → List Char → List Char → List Char → Bool → Cursor → Option (List Char × Cursor)
  | 0, _, _, _, _, _ => none
  | fuel + 1, text, first, more, leading, c =>
    if c.column == indent && !c.rest.isEmpty then do
      let blank := c.atSpaceOrTab
      let joined :=
        if !literal && first.head? == some '\n' && !leading && !blank then
          (if more.isEmpty then [' '] else [])
        else first
      let (line, c) := c.takeWhile fun x => !isBreak x
      let (first', c) := c.readBreak
      let (more', _, c) ← passIndent indent (c.rest.length + 1) [] 0 c
      readBlockLines literal chomp indent fuel
        (line.reverse ++ more.reverse ++ joined.reverse ++ text) first' more' blank c
    else
      let tail := match chomp with
        | .strip => []
        | .clip => first
        | .keep => first ++ more
      some (text.reverse ++ tail, c)

/-- Reads the indicators behind the mark of a block scalar, in either order. -/
def readBlockHeader (c : Cursor) : Option (Chomp × Nat × Cursor) :=
  let chomp? := fun (x : Char) => if x = '+' then some Chomp.keep else if x = '-' then some .strip
    else none
  let digit? := fun (x : Char) => if x.isDigit then some (x.toNat - 0x30) else none
  match c.rest with
  | x :: y :: _ =>
    match chomp? x, digit? x with
    | some chomp, _ =>
      match digit? y with
      | some 0 => none
      | some n => some (chomp, n, c.skipMany 2)
      | none => some (chomp, 0, c.skip)
    | none, some 0 => none
    | none, some n =>
      match chomp? y with
      | some chomp => some (chomp, n, c.skipMany 2)
      | none => some (.clip, n, c.skip)
    | none, none => some (.clip, 0, c)
  | [x] =>
    match chomp? x, digit? x with
    | some chomp, _ => some (chomp, 0, c.skip)
    | none, some 0 => none
    | none, some n => some (.clip, n, c.skip)
    | none, none => some (.clip, 0, c)
  | [] => some (.clip, 0, c)

/-- Reads a block scalar; `parent` is the indentation of the collection around it, `-1` at the top
of the document. -/
def readBlock (literal : Bool) (parent : Int) (c : Cursor) : Option (List Char × Cursor) := do
  let (chomp, increment, c) ← readBlockHeader c.skip
  let (_, c) := c.takeWhile isSpaceOrTab
  let c := if c.looksAt '#' then (c.takeWhile fun x => !isBreak x).2 else c
  if !(c.atBreak || c.rest.isEmpty) then none
  else
    let (_, c) := c.readBreak
    let given : Nat := if increment == 0 then 0
      else if 0 ≤ parent then parent.toNat + increment else increment
    let (more, deepest, c) ← passIndent given (c.rest.length + 1) [] 0 c
    let indent := if given == 0 then max deepest (max (parent + 1).toNat 1) else given
    readBlockLines literal chomp indent (c.rest.length + 2) [] [] more false c

end SlideDeck.Yaml
