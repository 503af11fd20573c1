import SlideDeck.Markdown.Constructs
import SlideDeck.Markdown.Html
import SlideDeck.Markdown.Inline.Piece
import SlideDeck.Markdown.Target

/-!
# From text to nodes

The text of a paragraph, a heading or a table cell is read from the left, one construct at a time.
Links and images are found at their closing bracket: what stands between the brackets is finished
first, and a link makes the open brackets in front of it unusable for links.
-/

namespace SlideDeck.Markdown

/-- What a text is read with. -/
structure InlineContext where
  /-- The constructs. -/
  constructs : Constructs
  /-- The identifiers of the definitions of the page. -/
  definitions : List (List Char)
  /-- The identifiers of the footnotes of the page. -/
  footnotes : List (List Char)
  /-- True in a cell of a table. -/
  inTable : Bool := false
  /-- The character behind the text; nothing if the text ends with its line. -/
  after : Option Char := none

/-- A place in a text. -/
structure InlineState where
  /-- The pieces in front of it, the last one first. -/
  pieces : List Piece
  /-- The character in front of it. -/
  previous : Option Char
  /-- What stands in front of the lines behind its own. -/
  fronts : List Front

/-! ## Code and other spans -/

/-- The text up to a run of exactly the given number of backticks, and the text behind that run.
`fuel` is at least the length of the text. -/
def codeEnd? (fuel size : Nat) (s : List Char) : Option (List Char × List Char) :=
  match fuel, s with
  | 0, _ | _, [] => none
  | fuel + 1, c :: rest =>
    if c = '\x60' then
      let marks := s.takeWhile (· = '\x60')
      let behind := s.drop marks.length
      if marks.length = size then some ([], behind)
      else (codeEnd? fuel size behind).map fun (inside, rest) => (marks ++ inside, rest)
    else (codeEnd? fuel size rest).map fun (inside, rest) => (c :: inside, rest)

/-- A text with every escaped pipe as a pipe. -/
def unescapePipes : List Char → List Char
  | '\\' :: '|' :: rest => '|' :: unescapePipes rest
  | c :: rest => c :: unescapePipes rest
  | [] => []

/-- The text of a code span: one space at either end goes when there is one at both and something
else between them. -/
def codeSpanText (s : List Char) : List Char :=
  if 2 < s.length && s.head? = some ' ' && s.getLast? = some ' ' && s.any (· ≠ ' ') then
    s.tail.dropLast
  else s

/-- What characters around a run of marks count as. -/
inductive Neighbour where
  /-- White space, or the end of the text. -/
  | blank
  /-- Punctuation. -/
  | punctuation
  /-- Anything else. -/
  | other
deriving DecidableEq, Repr

/-- The kind of a neighbour. -/
def Neighbour.ofChar? : Option Char → Neighbour
  | none => .blank
  | some c =>
    if Text.isBlank c then .blank else if Text.isPunctuation c then .punctuation else .other

/-- True when a mark next to a run of another kind counts like a letter. -/
def isMarkBeside (c : Constructs) (marker : Char) (neighbour : Option Char) : Bool :=
  marker ≠ '~' && (neighbour = some '*' || neighbour = some '_'
    || (c.extended && neighbour = some '~'))

/-- A run between two characters. -/
def Run.between (c : Constructs) (marker : Char) (size : Nat) (previous next : Option Char) : Run :=
  let before := Neighbour.ofChar? previous
  let after := Neighbour.ofChar? next
  let canOpen := after = .other || (after = .punctuation && before ≠ .other)
    || isMarkBeside c marker next
  let canClose := before = .other || (before = .punctuation && after ≠ .other)
    || isMarkBeside c marker previous
  if marker = '_' then
    { marker, size, canOpen := canOpen && (before ≠ .other || !canClose)
      canClose := canClose && (after ≠ .other || !canOpen) }
  else { marker, size, canOpen, canClose }

/-! ## Links -/

mutual

/-- The text of a node; images and line breaks have none. -/
def Node.plainText : Node → String
  | .text s | .inlineCode s | .html s => s
  | .emphasis children | .strong children | .delete children | .link _ children
  | .linkReference _ _ children => Node.plainTexts children
  | _ => ""

/-- The text of several nodes. -/
def Node.plainTexts : List Node → String
  | [] => ""
  | n :: rest => Node.plainText n ++ Node.plainTexts rest

end

/-- The most parentheses that are open at a time in the address of a link. -/
def maxNesting : Nat := 32

/-- The target written in parentheses, given the text behind the opening one, and the text
behind. -/
def resource? (s : List Char) : Option (Target × List Char) :=
  match skipSpace s with
  | ')' :: rest => some ({ url := "" }, rest)
  | inside =>
    match destination? maxNesting inside with
    | none => none
    | some (url, rest) =>
      match skipSpace rest with
      | ')' :: rest => some (.ofWritten url none, rest)
      | behind =>
        if behind.length = rest.length then none
        else
          match title? behind with
          | none => none
          | some (title, rest) =>
            match skipSpace rest with
            | ')' :: rest => some (.ofWritten url (some title), rest)
            | _ => none

/-- How what stands between brackets is referred to. -/
inductive Reference where
  /-- By a target. -/
  | target (t : Target)
  /-- By a definition with an identifier; a full reference has a label of its own. -/
  | label (kind : ReferenceKind) (identifier : List Char) (written : Option (List Char))

/-- The last character of a reference behind its text. -/
def Reference.lastChar : Reference → Option Char
  | .target _ => some ')'
  | .label .. => some ']'

/-- What follows a closing bracket: how the text between the brackets, whose identifier is given, is
referred to, and the text behind that. -/
def reference? (x : InlineContext) (fronts : List Front) (identifier rest : List Char) :
    Option (Reference × List Char) :=
  let defined := x.definitions.contains identifier
  let shortcut := if defined then some (.label .shortcut identifier none, rest) else none
  match rest with
  | '(' :: inside =>
    match resource? inside with
    | some (target, rest) => some (.target target, rest)
    | none => shortcut
  | '[' :: inside =>
    let identify (label : List Char) := identifierOf (onPage fronts label)
    let full := (label? inside).filter fun (label, _) => x.definitions.contains (identify label)
    match full with
    | some (label, rest) => some (.label .full (identify label) (some label), rest)
    | none =>
      match inside with
      | ']' :: rest => if defined then some (.label .collapsed identifier none, rest) else none
      | _ => none
  | _ => shortcut

/-- The label of a reference whose text is given. -/
def labelOf (text : String) (identifier : List Char) (written : Option (List Char)) : Label :=
  .ofIdentifier identifier (match written with
    | some label => decode label
    | none => text.toList)

/-- The node of a link or an image. -/
def referenceNode (isImage : Bool) (reference : Reference) (children : List Node) : Node :=
  let text := Node.plainTexts children
  match isImage, reference with
  | false, .target t => .link t children
  | false, .label kind identifier written =>
    .linkReference kind (labelOf text identifier written) children
  | true, .target t => .image { url := t.url, alt := text, title := t.title }
  | true, .label kind identifier written =>
    .imageReference kind (labelOf text identifier written) text

/-- Makes open brackets unusable, those of images aside. -/
def deactivate (pieces : List Piece) : List Piece :=
  pieces.map fun p =>
    match p with
    | .bracket b => .bracket { b with active := b.active && b.kind = .image }
    | p => p

/-- The nearest open bracket, with the pieces behind it and those in front of it. -/
def findBracket (inside : List Piece) : List Piece → Option (List Piece × Bracket × List Piece)
  | [] => none
  | .bracket b :: rest => some (inside.reverse, b, rest)
  | p :: rest => findBracket (p :: inside) rest

/-- The pieces with a closing bracket that matches none, whose opening bracket is given. -/
def dropBracket (inside : List Piece) (b : Bracket) (rest : List Piece) : List Piece :=
  let front := Piece.pushPlain b.kind.text.reverse rest
  Piece.pushPlain [']'] (inside.reverse.foldl (fun pieces p =>
    match p with
    | .plain s => Piece.pushPlain s pieces
    | p => p :: pieces) front)

/-- Reads a closing bracket; `rest` is the text behind it. -/
def closeBracket (x : InlineContext) (state : InlineState) (rest : List Char) :
    InlineState × List Char :=
  let goOn (pieces : List Piece) := { state with pieces, previous := some ']' }
  match findBracket [] state.pieces with
  | none => (goOn (Piece.pushPlain [']'] state.pieces), rest)
  | some (inside, b, front) =>
    let dropped := (goOn (dropBracket inside b front), rest)
    if !b.active then dropped
    else
      let label := b.behind.take (b.behind.length - (rest.length + 1))
      let identifier := identifierOf (onPage b.fronts label)
      let isFootnote := b.kind = .footnote
      if isFootnote && x.footnotes.contains identifier then
        let text := Node.plainTexts (finishPieces false inside)
        let node := Node.footnoteReference (.ofIdentifier identifier text.toList)
        (goOn (.node node :: deactivate front), rest)
      else
        match reference? x state.fronts (if isFootnote then '^' :: identifier else identifier)
            rest with
        | none => dropped
        | some (reference, behind) =>
          let inside := if isFootnote then inside ++ [.plain ['^']] else inside
          let isImage := b.kind = .image
          let node := referenceNode isImage reference (finishPieces false inside)
          let passed := countLineEnds (rest.take (rest.length - behind.length))
          ({ pieces := .node node :: (if isImage then front else deactivate front)
             previous := reference.lastChar, fronts := state.fronts.drop passed }, behind)

/-! ## The whole text -/

/-- Plain text, read backwards, without the white space at its end. -/
def trimPlain (pieces : List Piece) : List Piece :=
  match pieces with
  | .plain s :: rest =>
    let s := s.dropWhile isSpace
    if s.isEmpty then rest else .plain s :: rest
  | pieces => pieces

/-- True when two or more spaces, and no tab, end the plain text in front. -/
def breaksLine : List Piece → Bool
  | .plain s :: _ => 2 ≤ (s.takeWhile isSpace).length && (s.takeWhile isSpace).all (· = ' ')
  | _ => false

namespace InlineState

/-- Goes on behind plain text, read backwards. -/
def plain (state : InlineState) (reversed rest : List Char) : InlineState × List Char :=
  ({ state with pieces := Piece.pushPlain reversed state.pieces, previous := reversed.head? }, rest)

/-- Goes on behind a piece whose last character is given. -/
def piece (state : InlineState) (p : Piece) (last : Char) (rest : List Char) :
    InlineState × List Char :=
  ({ state with pieces := p :: state.pieces, previous := some last }, rest)

/-- Goes on behind a piece that may go over several lines, whose text and last character are
given. -/
def pieceOver (state : InlineState) (p : Piece) (text : List Char) (last : Char)
    (rest : List Char) : InlineState × List Char :=
  { state with fronts := state.fronts.drop (countLineEnds text) }.piece p last rest

/-- Goes on at the start of a line. -/
def startLine (state : InlineState) (s : List Char) : InlineState × List Char :=
  let front := nextFront state.fronts
  let spaces := s.takeWhile isSpace
  let pieces :=
    if front.isInTab then .indent (spaces.getLast?.getD '\t') :: state.pieces else state.pieces
  ({ pieces, previous := (spaces.getLast?.or front.passed.head?).or (some '\n')
     fronts := state.fronts.tail }, s.drop spaces.length)

/-- Reads the end of a line and the white space behind it. -/
def lineEnd (state : InlineState) (ending rest : List Char) : InlineState × List Char :=
  let p : Piece := if breaksLine state.pieces then .node .lineBreak else .lineEnd ending
  { state with pieces := p :: trimPlain state.pieces }.startLine rest

/-- Reads what a backslash starts. -/
def backslash (state : InlineState) (rest : List Char) : InlineState × List Char :=
  match takeLineEnd? rest with
  | some (_, behind) => { state with pieces := .node .lineBreak :: state.pieces }.startLine behind
  | none =>
    match rest with
    | c :: behind =>
      if Text.isAsciiPunctuation c then state.piece (.literal [c]) c behind
      else state.plain ['\\'] rest
    | [] => state.plain ['\\'] []

/-- Reads what an opening angle bracket starts. -/
def angle (x : InlineContext) (state : InlineState) (rest : List Char) :
    InlineState × List Char :=
  match Autolink.bracketed? rest with
  | some (link, behind) => state.piece (.node link) '>' behind
  | none =>
    match if x.constructs.html then Html.phrase? rest else none with
    | some (value, behind) =>
      state.pieceOver (.node (.html (String.ofList value))) value '>' behind
    | none => state.plain ['<'] rest

/-- Reads what a run of backticks starts; `s` starts with it. -/
def code (x : InlineContext) (state : InlineState) (s : List Char) : InlineState × List Char :=
  let marks := s.takeWhile (· = '\x60')
  let rest := s.drop marks.length
  match codeEnd? rest.length marks.length rest with
  | some (inside, behind) =>
    let text := codeSpanText (if x.inTable then unescapePipes inside else inside)
    state.pieceOver (.node (.inlineCode (String.ofList text))) inside '\x60' behind
  | none => state.plain marks rest

/-- Reads a run of marks; `s` starts with it. -/
def run (x : InlineContext) (state : InlineState) (marker : Char) (s : List Char) :
    InlineState × List Char :=
  let marks := s.takeWhile (· = marker)
  let rest := s.drop marks.length
  let next := rest.head?.or x.after
  state.piece (.run (.between x.constructs marker marks.length state.previous next)) marker rest

/-- Reads an opening bracket. -/
def bracket (state : InlineState) (kind : BracketKind) (behind : List Char) :
    InlineState × List Char :=
  let b : Bracket := { kind, behind, fronts := state.fronts }
  state.piece (.bracket b) (kind.text.getLast?.getD '[') behind

/-- Reads a letter or any other character, which may start a literal link. -/
def letter (x : InlineContext) (state : InlineState) (c : Char) (rest : List Char) :
    InlineState × List Char :=
  let ends := (x.after.map Text.isBlank).getD true
  let previous := if state.pieces.isEmpty then none else state.previous
  match if x.constructs.extended then Autolink.literal? ends previous (c :: rest) else none with
  | some (link, behind) =>
    state.piece (.node link) ((Node.plainText link).toList.getLast?.getD c) behind
  | none => state.plain [c] rest

/-- Reads the construct at the start of a text that is not empty. -/
def read (x : InlineContext) (state : InlineState) (c : Char) (rest : List Char) :
    InlineState × List Char :=
  match takeLineEnd? (c :: rest) with
  | some (ending, behind) => state.lineEnd ending behind
  | none =>
    match c with
    | '\\' => state.backslash rest
    | '&' =>
      match characterReference? rest with
      | some (value, behind) => state.piece (.literal value) ';' behind
      | none => state.plain ['&'] rest
    | '\x60' => code x state (c :: rest)
    | '<' => angle x state rest
    | '*' | '_' => run x state c (c :: rest)
    | '~' => if x.constructs.extended then run x state c (c :: rest) else state.plain ['~'] rest
    | '[' =>
      match rest with
      | '^' :: behind =>
        if x.constructs.extended then state.bracket .footnote behind else state.bracket .link rest
      | _ => state.bracket .link rest
    | ']' => closeBracket x state rest
    | '!' =>
      match rest with
      | '[' :: '^' :: behind =>
        if x.constructs.extended then state.plain ['!'] rest
        else state.bracket .image ('^' :: behind)
      | '[' :: behind => state.bracket .image behind
      | _ => state.plain ['!'] rest
    | c => letter x state c rest

end InlineState

/-- Reads a text. `fuel` is at least its length. -/
def readPieces (x : InlineContext) (fuel : Nat) (state : InlineState) (s : List Char) :
    List Piece :=
  match fuel, s with
  | 0, _ | _, [] => state.pieces
  | fuel + 1, c :: rest =>
    let (state, behind) := InlineState.read x state c rest
    readPieces x fuel state behind

/-- The nodes of a text that is read on from a place. The white space at its end does not belong to
it. -/
def InlineState.nodes (x : InlineContext) (start : InlineState × List Char) : List Node :=
  finishPieces x.constructs.extended
    (trimPlain (readPieces x start.2.length start.1 start.2))

/-- The nodes of a passage, without the white space at its start. -/
def Passage.nodes (x : InlineContext) (p : Passage) : List Node :=
  InlineState.nodes x
    (({ pieces := [], previous := none, fronts := p.fronts } : InlineState).startLine p.text)

/-- The nodes of the text of a task, which starts behind the check mark. -/
def Passage.taskNodes (x : InlineContext) (p : Passage) : List Node :=
  InlineState.nodes x ({ pieces := [], previous := some ']', fronts := p.laterFronts }, p.text)

end SlideDeck.Markdown
