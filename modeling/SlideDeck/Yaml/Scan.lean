import SlideDeck.Yaml.Scalar

/-!
# Cutting a YAML stream into tokens

Block collections have no brackets of their own: where a line is indented deeper than the
collection around it a new one starts, and where it is indented less, collections end. A key is
known as one only by the colon behind it, so the place of a possible key is remembered and the
tokens in front of it are put in when the colon comes.
-/

namespace SlideDeck.Yaml

/-- A place where a key may have started. -/
structure SimpleKey where
  /-- True when a colon may still turn the place into a key. -/
  possible : Bool := false
  /-- True when the text there can be nothing but a key. -/
  required : Bool := false
  /-- The number of tokens in front of the place. -/
  tokenNumber : Nat := 0
  /-- The number of characters in front of the place. -/
  index : Nat := 0
  /-- The line of the place. -/
  line : Nat := 0
  /-- The column of the place. -/
  column : Nat := 0

/-- The state of the scanner. -/
structure Scanner where
  /-- Where the scanner stands. -/
  cursor : Cursor
  /-- The tokens found. -/
  tokens : Array Token := #[]
  /-- The indentation of the innermost block collection, `-1` outside of all. -/
  indent : Int := -1
  /-- The indentations of the collections around it. -/
  indents : List Int := []
  /-- True when a key may start here. -/
  keyAllowed : Bool := true
  /-- The possible key of the current level. -/
  key : SimpleKey := {}
  /-- The possible keys of the levels around it; there is one more level than open brackets. -/
  outerKeys : List SimpleKey := []

namespace Scanner

/-- True inside brackets or braces. -/
def inFlow (s : Scanner) : Bool := !s.outerKeys.isEmpty

/-- Appends a token. -/
def emit (s : Scanner) (t : Token) : Scanner := { s with tokens := s.tokens.push t }

/-- Puts a token in front of the token with the given number. -/
def emitAt (s : Scanner) (n : Nat) (t : Token) : Scanner :=
  { s with tokens := s.tokens.insertIdxIfInBounds n t }

/-- Passes white space, comments and line breaks in front of the next token. A tab is white space
only where no key may start, and a byte order mark at the start of a line. -/
def passSpace : Nat → Scanner → Scanner
  | 0, s => s
  | fuel + 1, s =>
    let c := s.cursor
    let c := if c.column == 0 && c.looksAt '\uFEFF' then c.skip else c
    let tabs := s.inFlow || !s.keyAllowed
    let (_, c) := c.takeWhile fun x => x = ' ' || (tabs && x = '\t')
    let c := if c.looksAt '#' then (c.takeWhile fun x => !isBreak x).2 else c
    if c.atBreak then
      passSpace fuel { s with cursor := c.readBreak.2, keyAllowed := s.keyAllowed || !s.inFlow }
    else { s with cursor := c }

/-- A possible key is given up on a later line or after 1024 characters; where it is required that
is an error. -/
def expireKey (c : Cursor) (k : SimpleKey) : Option SimpleKey :=
  if k.possible && (k.line < c.line || k.index + 1024 < c.index) then
    if k.required then none else some { k with possible := false }
  else some k

/-- Gives up the keys that have expired. -/
def expireKeys (s : Scanner) : Option Scanner := do
  let key ← expireKey s.cursor s.key
  let outerKeys ← s.outerKeys.mapM (expireKey s.cursor)
  some { s with key, outerKeys }

/-- Gives up the possible key of the current level. -/
def removeKey (s : Scanner) : Option Scanner :=
  if s.key.possible && s.key.required then none
  else some { s with key := { s.key with possible := false } }

/-- Remembers that a key may start here. -/
def saveKey (s : Scanner) : Option Scanner :=
  if s.keyAllowed then do
    let required := !s.inFlow && s.indent == (s.cursor.column : Int)
    let s ← s.removeKey
    some { s with
      key := { possible := true, required, tokenNumber := s.tokens.size, index := s.cursor.index,
               line := s.cursor.line, column := s.cursor.column } }
  else some s

/-- Opens a block collection when the column is deeper than the current indentation. -/
def rollIndent (s : Scanner) (column : Nat) (place : Option Nat) (t : Token) : Scanner :=
  if s.inFlow || (column : Int) ≤ s.indent then s
  else
    let s := { s with indents := s.indent :: s.indents, indent := column }
    match place with
    | some n => if n < s.tokens.size then s.emitAt n t else s.emit t
    | none => s.emit t

/-- Ends the block collections that are indented deeper than the column. -/
def closeIndents (column : Int) : List Int → Int → Array Token → List Int × Int × Array Token
  | [], indent, tokens => ([], indent, tokens)
  | outer :: rest, indent, tokens =>
    if indent > column then closeIndents column rest outer (tokens.push .blockEnd)
    else (outer :: rest, indent, tokens)

/-- Ends the block collections that are indented deeper than the column. -/
def unrollIndent (s : Scanner) (column : Int) : Scanner :=
  if s.inFlow then s
  else
    let (indents, indent, tokens) := closeIndents column s.indents s.indent s.tokens
    { s with indents, indent, tokens }

/-- Reads a number of at most nine digits of a version directive. -/
def readVersionNumber (c : Cursor) : Option (Nat × Cursor) :=
  let (digits, c) := c.takeWhile Char.isDigit
  if digits.isEmpty || digits.length > 9 then none
  else (Text.natOfDigits? 10 digits).map fun n => (n, c)

/-- Reads a tag handle: an exclamation mark, word characters and perhaps another mark. -/
def readTagHandle (directive : Bool) (c : Cursor) : Option (List Char × Cursor) :=
  if !c.looksAt '!' then none
  else
    let (word, c) := c.skip.takeWhile isWordChar
    if c.looksAt '!' then some ('!' :: word ++ ['!'], c.skip)
    else if directive && !word.isEmpty then none
    else some ('!' :: word, c)

/-- The characters of a tag besides word characters; commas and brackets only where `wide` holds. -/
def isUriChar (wide : Bool) (x : Char) : Bool :=
  isWordChar x || ";/?:@&=+$.%!~*\x27()".toList.contains x
    || (wide && (x = ',' || x = '[' || x = ']'))

/-- The number of further bytes behind the first byte of a character in UTF-8. -/
def utf8Tail? (b : Nat) : Option Nat :=
  if b < 0x80 then some 0
  else if 0xC0 ≤ b && b < 0xE0 then some 1
  else if 0xE0 ≤ b && b < 0xF0 then some 2
  else if 0xF0 ≤ b && b < 0xF8 then some 3
  else none

/-- Reads one percent-encoded byte. -/
def readPercent? (s : List Char) : Option (Nat × List Char) :=
  match s with
  | '%' :: a :: b :: rest => (Text.natOfDigits? 16 [a, b]).map fun n => (n, rest)
  | _ => none

/-- Reads the percent-encoded bytes that continue a character. -/
def readContinuation : Nat → Nat → List Char → Option (Nat × List Char)
  | 0, point, s => some (point, s)
  | n + 1, point, s => do
    let (b, s) ← readPercent? s
    if 0x80 ≤ b && b < 0xC0 then readContinuation n (point * 64 + b % 64) s else none

/-- Decodes the percent-encoded characters of a tag. -/
def decodeUri : Nat → List Char → Option (List Char)
  | 0, _ => some []
  | fuel + 1, s =>
    match s with
    | [] => some []
    | '%' :: _ => do
      let (b, rest) ← readPercent? s
      let n ← utf8Tail? b
      let start := if n == 0 then b else b % Nat.pow 2 (6 - n)
      let (point, rest) ← readContinuation n start rest
      (decodeUri fuel rest).map (Char.ofNat point :: ·)
    | x :: rest => (decodeUri fuel rest).map (x :: ·)

/-- Reads the part of a tag behind its handle. -/
def readUri (wide : Bool) (head : List Char) (c : Cursor) : Option (List Char × Cursor) := do
  let (raw, c) := c.takeWhile (isUriChar wide)
  let text ← decodeUri (raw.length + 1) raw
  let text := head.drop 1 ++ text
  if raw.isEmpty && head.isEmpty then none else some (text, c)

/-- Reads a tag: verbatim between angle brackets, with a handle, or local. -/
def readTag (s : Scanner) : Option (Token × Cursor) := do
  let c := s.cursor
  let (handle, suffix, c) ←
    if c.ahead? 1 == some '<' then do
      let (uri, c) ← readUri true [] (c.skipMany 2)
      if c.looksAt '>' then some ([], uri, c.skip) else none
    else do
      let (handle, c) ← readTagHandle false c
      if handle.length > 1 && handle.getLast? == some '!' then
        let (suffix, c) ← readUri false [] c
        some (handle, suffix, c)
      else
        let (suffix, c) ← readUri false handle c
        if suffix.isEmpty then some ([], ['!'], c) else some (['!'], suffix, c)
  if c.isBlankOrEndAt 0 || (s.inFlow && c.looksAt ',') then some (.tag handle suffix, c) else none

/-- Reads the rest of a directive line. -/
def finishDirective (c : Cursor) : Option Cursor :=
  let (_, c) := c.takeWhile isSpaceOrTab
  let c := if c.looksAt '#' then (c.takeWhile fun x => !isBreak x).2 else c
  if c.rest.isEmpty then some c else if c.atBreak then some c.readBreak.2 else none

/-- Reads a directive: a version or a tag handle. -/
def readDirective (c : Cursor) : Option (Token × Cursor) := do
  let (name, c) := c.skip.takeWhile isWordChar
  if !c.isBlankOrEndAt 0 then none
  else if name == "YAML".toList then
    let (_, c) := c.takeWhile isSpaceOrTab
    let (major, c) ← readVersionNumber c
    if !c.looksAt '.' then none
    else
      let (minor, c) ← readVersionNumber c.skip
      let c ← finishDirective c
      some (.version major minor, c)
  else if name == "TAG".toList then
    let (_, c) := c.takeWhile isSpaceOrTab
    let (handle, c) ← readTagHandle true c
    if !c.atSpaceOrTab then none
    else
      let (_, c) := c.takeWhile isSpaceOrTab
      let (start, c) ← readUri true [] c
      if !c.isBlankOrEndAt 0 then none
      else
        let c ← finishDirective c
        some (.tagDirective handle start, c)
  else none

/-- Reads the name of an anchor or an alias. -/
def readAnchor (c : Cursor) : Option (List Char × Cursor) :=
  let (name, c) := c.skip.takeWhile isWordChar
  let ended := c.isBlankOrEndAt 0
    || ((c.next?.map fun x => "?:,]\x7d%@\x60".toList.contains x).getD false)
  if name.isEmpty || !ended then none else some (name, c)

/-- Opens a bracket or a brace. -/
def openFlow (s : Scanner) (t : Token) : Option Scanner := do
  let s ← s.saveKey
  some { s.emit t with
    outerKeys := s.key :: s.outerKeys, key := {}, keyAllowed := true, cursor := s.cursor.skip }

/-- Closes a bracket or a brace. -/
def closeFlow (s : Scanner) (t : Token) : Option Scanner := do
  let s ← s.removeKey
  let s := match s.outerKeys with
    | key :: outerKeys => { s with key, outerKeys }
    | [] => s
  some { s.emit t with keyAllowed := false, cursor := s.cursor.skip }

/-- Reads a token whose place may be a key. -/
def atKeyPlace (s : Scanner) (read : Scanner → Option (Token × Cursor)) : Option Scanner := do
  let s ← s.saveKey
  let (t, cursor) ← read s
  some { s.emit t with keyAllowed := false, cursor }

/-- Reads the dash of a block sequence. -/
def readEntry (s : Scanner) : Option Scanner :=
  if !s.inFlow && !s.keyAllowed then none
  else do
    let s := s.rollIndent s.cursor.column none .blockSequenceStart
    let s ← s.removeKey
    some { s.emit .blockEntry with keyAllowed := true, cursor := s.cursor.skip }

/-- Reads the question mark of an explicit key. -/
def readKey (s : Scanner) : Option Scanner :=
  if !s.inFlow && !s.keyAllowed then none
  else do
    let s := s.rollIndent s.cursor.column none .blockMappingStart
    let s ← s.removeKey
    some { s.emit .key with keyAllowed := !s.inFlow, cursor := s.cursor.skip }

/-- Reads the colon of a value, which turns the possible key of the level into one. -/
def readValue (s : Scanner) : Option Scanner :=
  if s.key.possible then
    let n := s.key.tokenNumber
    let s := if n < s.tokens.size then s.emitAt n .key else s.emit .key
    let s := s.rollIndent s.key.column (some n) .blockMappingStart
    some { s.emit .value with
      key := { s.key with possible := false }, keyAllowed := false, cursor := s.cursor.skip }
  else if !s.inFlow && !s.keyAllowed then none
  else
    let s := s.rollIndent s.cursor.column none .blockMappingStart
    some { s.emit .value with keyAllowed := !s.inFlow, cursor := s.cursor.skip }

/-- Reads a block scalar. -/
def readBlockScalar (s : Scanner) (literal : Bool) : Option Scanner := do
  let s ← s.removeKey
  let (text, cursor) ← readBlock literal s.indent s.cursor
  some { s.emit (.scalar text .quoted) with keyAllowed := true, cursor }

/-- Reads a plain scalar. A line break behind it allows a key again. -/
def readPlainScalar (s : Scanner) : Option Scanner := do
  let s ← s.saveKey
  let (text, broken, cursor) ← readPlain s.inFlow (s.indent + 1).toNat s.cursor
  some { s.emit (.scalar text .plain) with keyAllowed := broken, cursor }

/-- True when a plain scalar may start here, the marks that start other tokens being ruled out. -/
def plainMayStart (s : Scanner) (x : Char) : Bool :=
  let c := s.cursor
  !(c.isBlankOrEndAt 0 || "-?:,[]\x7b\x7d#&*!|>\x27\"%@\x60".toList.contains x)
    || (x = '-' && !((c.ahead? 1).map isSpaceOrTab == some true))
    || (!s.inFlow && (x = '?' || x = ':') && !c.isBlankOrEndAt 1)

/-- Reads one token; the flag tells that it was the last. -/
def step (s : Scanner) : Option (Scanner × Bool) := do
  let s := s.passSpace (s.cursor.rest.length + 1)
  let s ← s.expireKeys
  let s := s.unrollIndent s.cursor.column
  let c := s.cursor
  match c.next? with
  | none =>
    let s := s.unrollIndent (-1)
    let s ← s.removeKey
    some (s.emit .streamEnd, true)
  | some x =>
    let more := fun (s : Scanner) => (s, false)
    if c.column == 0 && x = '%' then
      let s := s.unrollIndent (-1)
      let s ← s.removeKey
      let (t, cursor) ← readDirective s.cursor
      some (more { s.emit t with keyAllowed := false, cursor })
    else if c.atDocumentMark then
      let s := s.unrollIndent (-1)
      let s ← s.removeKey
      let t := if x = '-' then Token.documentStart else .documentEnd
      some (more { s.emit t with keyAllowed := false, cursor := c.skipMany 3 })
    else
      let blankNext := c.isBlankOrEndAt 1
      let anchor := fun (make : List Char → Token) (s : Scanner) =>
        (readAnchor s.cursor).map fun (name, cursor) => (make name, cursor)
      let quoted := fun (single : Bool) (s : Scanner) =>
        (readQuoted single s.cursor).map fun (text, cursor) => (Token.scalar text .quoted, cursor)
      if x = '[' then (s.openFlow .flowSequenceStart).map more
      else if x = '\x7b' then (s.openFlow .flowMappingStart).map more
      else if x = ']' then (s.closeFlow .flowSequenceEnd).map more
      else if x = '\x7d' then (s.closeFlow .flowMappingEnd).map more
      else if x = ',' then
        let s ← s.removeKey
        some (more { s.emit .flowEntry with keyAllowed := true, cursor := c.skip })
      else if x = '-' && blankNext then s.readEntry.map more
      else if x = '?' && (s.inFlow || blankNext) then s.readKey.map more
      else if x = ':' && (s.inFlow || blankNext) then s.readValue.map more
      else if x = '*' then (s.atKeyPlace (anchor .alias)).map more
      else if x = '&' then (s.atKeyPlace (anchor .anchor)).map more
      else if x = '!' then (s.atKeyPlace readTag).map more
      else if x = '|' && !s.inFlow then (s.readBlockScalar true).map more
      else if x = '>' && !s.inFlow then (s.readBlockScalar false).map more
      else if x = '\x27' then (s.atKeyPlace (quoted true)).map more
      else if x = '"' then (s.atKeyPlace (quoted false)).map more
      else if s.plainMayStart x then s.readPlainScalar.map more
      else none

/-- Reads tokens until the stream ends; every step but the last moves the cursor. -/
def run : Nat → Scanner → Option (Array Token)
  | 0, _ => none
  | fuel + 1, s => do
    let (s, done) ← s.step
    if done then some s.tokens else run fuel s

end Scanner

/-- The characters that may stand in a stream. -/
def isStreamChar (c : Char) : Bool :=
  let n := c.toNat
  n == 9 || n == 0xA || n == 0xD || (0x20 ≤ n && n ≤ 0x7E) || n == 0x85
    || (0xA0 ≤ n && n ≤ 0xFFFD) || n ≥ 0x10000

/-- The tokens of a stream, or nothing if it is malformed. -/
def tokens? (stream : List Char) : Option (List Token) :=
  if stream.all isStreamChar then
    (Scanner.run (stream.length + 2) { cursor := { rest := stream } }).map Array.toList
  else none

end SlideDeck.Yaml
