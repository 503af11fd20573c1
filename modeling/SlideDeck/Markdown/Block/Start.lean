import SlideDeck.Markdown.Block.Mark
import SlideDeck.Markdown.Constructs
import SlideDeck.Markdown.Target

/-!
# Starts of blocks

What a line says about the blocks that start on it: headings, thematic breaks, code fences, and the
marks of quotes, list items and footnotes.
-/

namespace SlideDeck.Markdown

/-- True of three or more of one of the marks `*`, `-` and `_`, with white space anywhere. -/
def isThematicBreak (s : List Char) : Bool :=
  let marks := s.filter fun c => !isSpace c
  match marks with
  | [] => false
  | c :: _ => (c = '*' || c = '-' || c = '_') && 3 ≤ marks.length && marks.all (· = c)

/-- A text without the words at its end that consist of number signs. -/
def dropClosingMarks (fuel : Nat) (s : List Char) : List Char :=
  let s := Text.dropEndWhile isSpace s
  match fuel with
  | 0 => s
  | fuel + 1 =>
    let shorter := Text.dropEndWhile (· = '#') s
    match shorter.reverse with
    | [] => []
    | c :: _ => if isSpace c && shorter.length < s.length then dropClosingMarks fuel shorter else s

/-- The rank and the text of a heading that starts with number signs behind white space. Number
signs that stand alone on either side of the text do not belong to it. -/
def heading? (cursor : Cursor) : Option (Nat × Passage) :=
  let start := cursor.skipAll
  let depth := (start.rest.takeWhile (· = '#')).length
  let behind := start.advance depth
  let ends := match behind.rest with
    | [] => true
    | c :: _ => isSpace c
  if 1 ≤ depth && depth ≤ 6 && ends then
    let front := behind.rest.takeWhile fun c => isSpace c || c = '#'
    let inside := behind.advance front.length
    some (depth, .ofText inside.front (dropClosingMarks inside.rest.length inside.rest))
  else none

/-- The rank of the heading that a line of equals signs or hyphens makes of the paragraph above. -/
def underline? (s : List Char) : Option Nat :=
  match s with
  | [] => none
  | c :: _ =>
    if (c = '=' || c = '-') && (s.dropWhile (· = c)).all isSpace then
      some (if c = '=' then 1 else 2)
    else none

/-- The start of a fenced code block. -/
structure Fence where
  /-- The mark it is made of. -/
  marker : Char
  /-- The number of marks. -/
  length : Nat
  /-- The number of characters of white space in front of it. -/
  indent : Nat
  /-- The first word behind it. -/
  lang : Option String
  /-- What follows the first word. -/
  info : Option String
deriving DecidableEq, Repr

/-- A decoded text, unless it is empty. -/
def decoded? (s : List Char) : Option String :=
  if s.isEmpty then none else some (String.ofList (decode s))

/-- The fence that a line starts behind white space. -/
def fence? (cursor : Cursor) : Option Fence :=
  let start := cursor.skipAll
  let s := start.rest
  match s with
  | [] => none
  | c :: _ =>
    let marks := s.takeWhile (· = c)
    let words := (s.drop marks.length).dropWhile isSpace
    let lang := words.takeWhile fun c => !isSpace c
    let info := (words.drop lang.length).dropWhile isSpace
    if (c = '\x60' || c = '~') && 3 ≤ marks.length && !(c = '\x60' && words.contains '\x60') then
      some { marker := c, length := marks.length, indent := cursor.charactersTo start
             lang := decoded? lang, info := decoded? info }
    else none

/-- True of a line that closes a fence. -/
def Fence.isClosedBy (fence : Fence) (s : List Char) : Bool :=
  let marks := s.takeWhile (· = fence.marker)
  fence.length ≤ marks.length && (s.drop marks.length).all isSpace

/-- An open container. -/
structure OpenContainer where
  /-- The container. -/
  container : Container
  /-- The columns that the lines of an item are indented by. -/
  width : Nat := 0
  /-- True of an item of which nothing but its mark was seen so far. -/
  isBare : Bool := false
deriving DecidableEq, Repr

/-- The place behind the mark of a quote. -/
def quoteMark? (c : Constructs) (cursor : Cursor) : Option Cursor :=
  if c.allowsIndent cursor.indent then
    match cursor.skipAll.rest with
    | '>' :: _ => some ((cursor.skipAll.advance 1).skip 1)
    | _ => none
  else none

/-- The mark of an item and the number of its characters. A numbered item interrupts a paragraph
only with the number 1. -/
def itemMark? (interrupts : Bool) (s : List Char) : Option (ItemMark × Nat) :=
  match s with
  | [] => none
  | c :: _ =>
    if c = '+' then some (.bullet c, 1)
    else if c = '*' || c = '-' then if isThematicBreak s then none else some (.bullet c, 1)
    else
      let digits := s.takeWhile Char.isDigit
      let delimiter := (s.drop digits.length).head?
      let n := digits.foldl (fun n c => 10 * n + (c.toNat - 0x30)) 0
      if digits.isEmpty || digits.length > 9 || (interrupts && digits ≠ ['1']) then none
      else if delimiter = some '.' then some (.number n '.', digits.length + 1)
      else if delimiter = some ')' then some (.number n ')', digits.length + 1)
      else none

/-- The item that starts at a place of a line with the given end, and the place behind its mark and
the white space that belongs to it. An item without text does not interrupt a paragraph. The width
of an item is the number of characters up to its text, however wide they are. When the rest of the
line is blank, one character behind the mark counts, or the end of the line if it comes right behind
the mark. -/
def itemStart? (c : Constructs) (interrupts : Bool) (ending : List Char) (cursor : Cursor) :
    Option (OpenContainer × Cursor) :=
  if c.allowsIndent cursor.indent then
    match itemMark? interrupts cursor.skipAll.rest with
    | some (mark, size) =>
      let behind := cursor.skipAll.advance size
      if behind.isBlank then
        if interrupts then none
        else
          let gap := if behind.rest.isEmpty then max 1 ending.length else 1
          some ({ container := .item mark, width := cursor.charactersTo behind + gap
                  isBare := true }, behind)
      else if behind.indent = 0 then none
      else
        let inside := behind.skip (if behind.indent ≤ 4 then behind.indent else 1)
        some ({ container := .item mark, width := cursor.charactersTo inside }, inside)
    | none => none
  else none

/-- The label of a footnote up to and with its closing bracket. -/
def footnoteLabelFrom : List Char → Option (List Char × List Char)
  | [] => none
  | ']' :: rest => some ([], rest)
  | '[' :: _ => none
  | '\\' :: c :: rest =>
    if c = '[' || c = ']' || c = '\\' then
      (footnoteLabelFrom rest).map fun (label, rest) => ('\\' :: c :: label, rest)
    else (footnoteLabelFrom (c :: rest)).map fun (label, rest) => ('\\' :: label, rest)
  | c :: rest =>
    if isSpaceOrLineEnd c then none
    else (footnoteLabelFrom rest).map fun (label, rest) => (c :: label, rest)

/-- The footnote that starts at a place, and the place behind its label. -/
def footnoteStart? (c : Constructs) (cursor : Cursor) : Option (OpenContainer × Cursor) :=
  if c.extended && c.allowsIndent cursor.indent then
    let start := cursor.skipAll
    match start.rest with
    | '[' :: '^' :: rest =>
      match footnoteLabelFrom rest with
      | some (label, ':' :: behind) =>
        if label.isEmpty || labelSize false label > maxLabelSize then none
        else
          some ({ container := .footnote label },
            (start.advance (start.rest.length - behind.length)).skipAll)
      | _ => none
    | _ => none
  else none

/-- The sign of a container. -/
def Container.sign : Container → Token
  | quote => .quoteSign
  | item _ => .itemSign
  | footnote _ => .footnoteSign

/-- White space in front of a place, as far as it is there. -/
def Cursor.spaceMarks (c : Cursor) : List Mark := if c.indent = 0 then [] else [.token .space]

/-- The container that starts at a place of a line with the given end, and the place behind its
mark. -/
def containerStart? (c : Constructs) (interrupts : Bool) (ending : List Char) (cursor : Cursor) :
    Option (OpenContainer × Cursor) :=
  match quoteMark? c cursor with
  | some behind => some ({ container := .quote }, behind)
  | none =>
    match itemStart? c interrupts ending cursor with
    | some found => some found
    | none => footnoteStart? c cursor

/-- A container as it goes on, the place behind what marks a line as its own, and the marks in front
of that place; nothing when the line is not its own. -/
def OpenContainer.continue? (c : Constructs) (o : OpenContainer) (cursor : Cursor) :
    Option (OpenContainer × Cursor × List Mark) :=
  match o.container with
  | .quote =>
    (quoteMark? c cursor).map fun behind => (o, behind, cursor.spaceMarks ++ [.token .quoteSign])
  | .item _ =>
    if cursor.isBlank then
      if o.isBare then none else some (o, cursor.skip o.width, cursor.spaceMarks)
    else if o.width ≤ cursor.indent then
      some ({ o with isBare := false }, cursor.skip o.width, cursor.spaceMarks)
    else none
  | .footnote _ =>
    if cursor.isBlank || 4 ≤ cursor.indent then some (o, cursor.skip 4, cursor.spaceMarks)
    else none

end SlideDeck.Markdown
