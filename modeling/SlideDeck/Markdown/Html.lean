import SlideDeck.Markdown.Line
import SlideDeck.Text.Blank

/-!
# HTML in Markdown

Where a phrase of HTML ends, and which lines start and end a block of HTML. Only the shape of tags,
comments, instructions, declarations and character data is looked at; tags need not match.
-/

namespace SlideDeck.Markdown.Html

/-- What reading a text for a construct comes to. -/
inductive Attempt (α : Type) where
  /-- Whatever may follow, the text does not start the construct. -/
  | refused
  /-- The text ends within the construct. -/
  | unfinished
  /-- The construct was found. -/
  | found (a : α)
deriving Repr

/-- What was found. -/
def Attempt.toOption {α : Type} : Attempt α → Option α
  | found a => some a
  | _ => none

/-- The characters of the name of a tag behind its first letter. -/
def isNamePart (c : Char) : Bool := c.isAlphanum || c = '-'

/-- The characters that the name of an attribute starts with. -/
def isAttributeStart (c : Char) : Bool := c.isAlpha || c = ':' || c = '_'

/-- The characters of the name of an attribute. -/
def isAttributePart (c : Char) : Bool := c.isAlphanum || c = ':' || c = '_' || c = '.' || c = '-'

/-- How far the reading of an opening tag has come. -/
inductive TagState where
  /-- Between attributes. -/
  | between
  /-- Behind the slash that closes the tag. -/
  | closing
  /-- In the name of an attribute. -/
  | name
  /-- Behind the name of an attribute. -/
  | nameAfter
  /-- In front of the value of an attribute. -/
  | valueBefore
  /-- In a value between quotes. -/
  | quoted (mark : Char)
  /-- Behind the closing quote of a value. -/
  | quotedAfter
  /-- In a value without quotes. -/
  | unquoted
deriving DecidableEq, Repr

namespace TagState

/-- Between attributes; nothing means that the character cannot stand there. -/
def fromBetween (c : Char) : Option TagState :=
  if isSpaceOrLineEnd c then some between
  else if c = '/' then some closing
  else if isAttributeStart c then some name
  else none

/-- Behind the name of an attribute. -/
def fromNameAfter (c : Char) : Option TagState :=
  if isSpaceOrLineEnd c then some nameAfter
  else if c = '=' then some valueBefore
  else fromBetween c

/-- The state behind a character that does not end the tag. In a block an equals sign behind a value
without quotes starts another value. -/
def step (inBlock : Bool) (state : TagState) (c : Char) : Option TagState :=
  match state with
  | between => fromBetween c
  | closing => none
  | name => if isAttributePart c then some name else fromNameAfter c
  | nameAfter => fromNameAfter c
  | valueBefore =>
    if isSpaceOrLineEnd c then some valueBefore
    else if c = '"' || c = '\x27' then some (quoted c)
    else if c = '<' || c = '=' || c = '>' || c = '\x60' then none
    else some unquoted
  | quoted mark => if c = mark then some quotedAfter else some (quoted mark)
  | quotedAfter => if isSpaceOrLineEnd c || c = '/' then fromBetween c else none
  | unquoted =>
    if isSpaceOrLineEnd c || c = '/' then fromBetween c
    else if c = '=' && inBlock then some valueBefore
    else if c = '"' || c = '\x27' || c = '<' || c = '=' || c = '\x60' then none
    else some unquoted

/-- True when a closing angle bracket ends the tag. -/
def mayEnd : TagState → Bool
  | valueBefore | quoted _ => false
  | _ => true

end TagState

/-- The text behind an opening tag, read from the given state on. -/
def openTagFrom (inBlock : Bool) (state : TagState) : List Char → Attempt (List Char)
  | [] => .unfinished
  | c :: rest =>
    if c = '>' && state.mayEnd then .found rest
    else
      match state.step inBlock c with
      | some state => openTagFrom inBlock state rest
      | none => .refused

/-- The text behind the rest of an opening tag whose name was read. -/
def openTagRest (inBlock : Bool) (s : List Char) : Attempt (List Char) :=
  match s with
  | [] => .unfinished
  | c :: _ =>
    if isSpaceOrLineEnd c || c = '/' || c = '>' then openTagFrom inBlock .between s else .refused

/-- The text behind the rest of a closing tag whose name was read. -/
def closeTagRest (s : List Char) : Attempt (List Char) :=
  match s.dropWhile isSpaceOrLineEnd with
  | [] => .unfinished
  | c :: rest => if c = '>' then .found rest else .refused

/-- The text behind a phrase of HTML, given the text behind its opening angle bracket. -/
def phraseEnd? (s : List Char) : Option (List Char) :=
  match s with
  | '!' :: '-' :: '-' :: rest =>
    (Text.cutAtMark "-->".toList ('-' :: '-' :: rest)).map Prod.snd
  | '!' :: rest =>
    match Text.stripStart? "[CDATA[".toList rest with
    | some inside => (Text.cutAtMark "]]>".toList inside).map Prod.snd
    | none =>
      match rest with
      | c :: _ => if c.isAlpha then (Text.cutAtMark ['>'] rest).map Prod.snd else none
      | [] => none
  | '?' :: rest => (Text.cutAtMark "?>".toList rest).map Prod.snd
  | '/' :: c :: rest =>
    if c.isAlpha then (closeTagRest (rest.dropWhile isNamePart)).toOption else none
  | c :: rest =>
    if c.isAlpha then (openTagRest false (rest.dropWhile isNamePart)).toOption else none
  | [] => none

/-- A text without the white space at the start of every line but the first. -/
def dropIndents (lineStart : Bool) : List Char → List Char
  | [] => []
  | c :: rest =>
    if lineStart && isSpace c then dropIndents true rest
    else c :: dropIndents (isLineEnd c) rest

/-- A phrase of HTML, given the text behind its opening angle bracket, and the text behind it. -/
def phrase? (s : List Char) : Option (List Char × List Char) :=
  (phraseEnd? s).map fun rest => (dropIndents false ('<' :: s.take (s.length - rest.length)), rest)

/-- The elements whose content is not looked into. -/
def rawTags : List String := ["pre", "script", "style", "textarea"]

/-- The elements that make a block by themselves. -/
def blockTags : List String :=
  ["address", "article", "aside", "base", "basefont", "blockquote", "body", "caption", "center",
    "col", "colgroup", "dd", "details", "dialog", "dir", "div", "dl", "dt", "fieldset",
    "figcaption", "figure", "footer", "form", "frame", "frameset", "h1", "h2", "h3", "h4", "h5",
    "h6", "head", "header", "hr", "html", "iframe", "legend", "li", "link", "main", "menu",
    "menuitem", "nav", "noframes", "ol", "optgroup", "option", "p", "param", "search", "section",
    "summary", "table", "tbody", "td", "tfoot", "th", "thead", "title", "tr", "track", "ul"]

/-- What a block of HTML starts with. -/
inductive BlockKind where
  /-- An element whose content is not looked into, up to a closing tag of such an element. -/
  | raw
  /-- A comment. -/
  | comment
  /-- An instruction. -/
  | instruction
  /-- A declaration. -/
  | declaration
  /-- Character data. -/
  | characters
  /-- A tag of a block element, up to a blank line. -/
  | basic
  /-- One other tag alone on its line, up to a blank line. -/
  | complete
deriving DecidableEq, Repr

namespace BlockKind

/-- True of blocks that end at a blank line. -/
def endsAtBlank : BlockKind → Bool
  | basic | complete => true
  | _ => false

/-- True of text that starts with the rest of a closing tag of an element whose content is not
looked into, behind its slash. -/
def isRawClose (s : List Char) : Bool :=
  let name := s.takeWhile Char.isAlpha
  rawTags.contains (String.ofList (name.map Char.toLower))
    && (s.drop name.length).head? = some '>'

/-- True of text with a closing tag of an element whose content is not looked into. -/
def hasRawClose : List Char → Bool
  | [] => false
  | '<' :: '/' :: rest => isRawClose rest || hasRawClose rest
  | _ :: rest => hasRawClose rest

/-- True of text with two closing square brackets and a closing angle bracket. The square brackets
are counted off in pairs, so that a third one starts another pair. -/
def hasCharactersEnd : List Char → Bool
  | ']' :: ']' :: '>' :: _ => true
  | ']' :: ']' :: rest => hasCharactersEnd rest
  | _ :: rest => hasCharactersEnd rest
  | [] => false

/-- True of a line that ends a block. On the first line `s` is the text behind what decided the
kind. -/
def isEndedBy (kind : BlockKind) (s : List Char) : Bool :=
  match kind with
  | raw => hasRawClose s
  | comment => (Text.cutAtMark "-->".toList s).isSome
  | instruction => (Text.cutAtMark "?>".toList s).isSome
  | declaration => s.contains '>'
  | characters => hasCharactersEnd s
  | basic | complete => false

end BlockKind

/-- The kind of a block that starts with a tag, and the text behind the name of the tag. -/
def tagBlock (interrupts isClosing : Bool) (s : List Char) : Attempt (BlockKind × List Char) :=
  let name := s.takeWhile isNamePart
  let rest := s.drop name.length
  let tag := String.ofList (name.map Char.toLower)
  let startsSlash := rest.head? = some '/'
  let ends := match rest with
    | [] => true
    | c :: _ => isSpace c || c = '/' || c = '>'
  if name.isEmpty || !ends then .refused
  else if !startsSlash && !isClosing && rawTags.contains tag then .found (.raw, rest)
  else if blockTags.contains tag then
    if !startsSlash then .found (.basic, rest)
    else
      match rest.tail with
      | [] => .unfinished
      | c :: _ => if c = '>' then .found (.basic, rest) else .refused
  else if interrupts then .refused
  else
    match if isClosing then closeTagRest rest else openTagRest true rest with
    | .found after => if after.all isSpace then .found (.complete, after) else .refused
    | .unfinished => .unfinished
    | .refused => .refused

/-- The kind of the block that text behind an exclamation mark starts, and the text behind what
decided the kind. -/
def markedBlock (s : List Char) : Attempt (BlockKind × List Char) :=
  match s with
  | [] | ['-'] => .unfinished
  | '-' :: '-' :: rest => .found (.comment, '-' :: '-' :: rest)
  | c :: rest =>
    if c.isAlpha then .found (.declaration, rest)
    else
      match Text.stripStart? "[CDATA[".toList s, Text.stripStart? s "[CDATA[".toList with
      | some inside, _ => .found (.characters, inside)
      | none, some _ => .unfinished
      | none, none => .refused

/-- The kind of the block that a line starts, given the text behind its opening angle bracket, and
whether the line ends it too. A tag that is alone on its line does not interrupt a paragraph. -/
def blockStart (interrupts : Bool) (s : List Char) : Attempt (BlockKind × Bool) :=
  let found : Attempt (BlockKind × List Char) :=
    match s with
    | [] | ['/'] => .unfinished
    | '!' :: rest => markedBlock rest
    | '?' :: rest => .found (.instruction, '?' :: rest)
    | '/' :: c :: rest => if c.isAlpha then tagBlock interrupts true (c :: rest) else .refused
    | c :: rest => if c.isAlpha then tagBlock interrupts false (c :: rest) else .refused
  match found with
  | .found (kind, rest) => .found (kind, kind.isEndedBy rest)
  | .unfinished => .unfinished
  | .refused => .refused

end SlideDeck.Markdown.Html
