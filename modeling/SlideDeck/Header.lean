import SlideDeck.Diagnostic
import SlideDeck.Directive.Basic
import SlideDeck.Json
import SlideDeck.Text.Line

/-!
# The header of a deck

A header opens with a line `---` that only blank lines precede and closes with the next such line.
`frame` finds it and splits the text behind it off; `readHeader` reads what stands between the two
lines. How YAML is read, and what is said about a text that cannot be read, is a parameter. A byte
order mark at the very start is passed over.
-/

namespace SlideDeck

/-- True of the line that opens or closes a header: three hyphens, perhaps with carriage returns
behind them. -/
def isHeaderFence (line : List Char) : Bool :=
  Text.dropEndWhile (· = '\r') (line.filter (· ≠ '\n')) == ['-', '-', '-']

/-- How the header stands in a text. -/
inductive Framing where
  /-- There is no header. -/
  | absent
  /-- A header is opened and not closed. -/
  | unterminated
  /-- The text between the two fences, all text up to the end of the second, and the text behind. -/
  | found (block header body : List Char)
deriving DecidableEq, Repr

/-- Looks for the closing fence. `block` holds the lines between the fences and `header` all lines
up to here, the last one first. -/
def frameClosing (block header : List (List Char)) : List (List Char) → Framing
  | [] => .unterminated
  | line :: rest =>
    if isHeaderFence line then
      .found (Text.dropEndWhile (fun c => c = '\r' || c = '\n') block.reverse.flatten)
        (line :: header).reverse.flatten rest.flatten
    else frameClosing (line :: block) (line :: header) rest

/-- Looks for the opening fence behind blank lines. -/
def frameOpening (header : List (List Char)) : List (List Char) → Framing
  | [] => .absent
  | line :: rest =>
    if Text.isBlankText line then frameOpening (line :: header) rest
    else if isHeaderFence line then frameClosing [] (line :: header) rest
    else .absent

/-- Finds the header of a text. -/
def frame (source : List Char) : Framing :=
  match source with
  | '\uFEFF' :: rest => frameOpening [['\uFEFF']] (Text.lines rest)
  | _ => frameOpening [] (Text.lines source)

/-- The header of a deck, with the deck cut behind it. -/
structure Header where
  /-- What the header says. -/
  metadata : Metadata := []
  /-- The text of the deck up to the end of the header. -/
  front : List Char := []
  /-- The text of the deck behind the header. -/
  body : List Char

namespace Header

/-- The size of the text up to the end of the header in UTF-8. -/
def bodyStart (h : Header) : Nat := Text.byteSize h.front

/-- The line of the deck, from 1, on which the body begins. -/
def bodyLine (h : Header) : Nat := Text.countBreaks h.front + 1

/-- The title, when it is a text. -/
def title? (h : Header) : Option String := (Json.field? h.metadata "title").bind Json.text?

end Header

/-- Reads the text between the fences. -/
def readHeaderBlock (yaml : String → Except String Json) (block : List Char) :
    Except HeaderError Metadata :=
  if Text.isBlankText block then .ok []
  else
    match yaml (String.ofList block) with
    | .error message => .error (.malformed message)
    | .ok .null => .ok []
    | .ok (.object entries) => .ok entries
    | .ok _ => .error .notMapping

/-- Reads the header of a deck. -/
def readHeader (yaml : String → Except String Json) (source : List Char) :
    Except HeaderError Header :=
  match frame source with
  | .absent => .ok { body := source }
  | .unterminated => .error .unterminated
  | .found block front body => do
    let metadata ← readHeaderBlock yaml block
    .ok { metadata, front, body }

/-- The value of a directive that a metadata value gives: texts and truth values as they are,
numbers as their decimal text. -/
def directiveOfJson? : Json → Option Value
  | .string s => some (.text s)
  | .bool b => some (.flag b)
  | .number n => some (.text n.text)
  | _ => none

/-- The directives that a header gives. -/
def directivesOfMetadata (metadata : Metadata) : DirectiveMap :=
  metadata.foldl (fun d e =>
    match directiveOfJson? e.2 with
    | some v => d.insert e.1 v
    | none => d) Dict.empty

end SlideDeck
