import SlideDeck.Markdown.Decode
import SlideDeck.Markdown.Tree
import SlideDeck.Text.Blank
import SlideDeck.Text.Case

/-!
# Labels, addresses and titles

The parts that links, images and definitions are written with. Each reader takes the text from the
start of the part and gives the part and the text behind it.
-/

namespace SlideDeck.Markdown

/-- Reads up to an unescaped closing bracket; an unescaped opening bracket is refused. -/
def labelFrom : List Char → Option (List Char × List Char)
  | [] => none
  | ']' :: rest => some ([], rest)
  | '[' :: _ => none
  | '\\' :: c :: rest =>
    if c = '[' || c = ']' || c = '\\' then
      (labelFrom rest).map fun (label, rest) => ('\\' :: c :: label, rest)
    else (labelFrom (c :: rest)).map fun (label, rest) => ('\\' :: label, rest)
  | c :: rest => (labelFrom rest).map fun (label, rest) => (c :: label, rest)

/-- The largest size of a label in bytes. -/
def maxLabelSize : Nat := 999

/-- The size of a label in bytes, without line ends and the white space behind them. -/
def labelSize (lineStart : Bool) : List Char → Nat
  | [] => 0
  | c :: rest =>
    if isLineEnd c || (lineStart && isSpace c) then labelSize true rest
    else c.utf8Size + labelSize false rest

/-- A label behind its opening bracket, up to and with its closing bracket: not blank and not too
long. -/
def label? (s : List Char) : Option (List Char × List Char) :=
  match labelFrom s with
  | some (label, rest) =>
    if label.all isSpaceOrLineEnd || labelSize false label > maxLabelSize then none
    else some (label, rest)
  | none => none

/-- The words of a text between spaces, tabs and line ends. -/
def labelWords (s : List Char) : List (List Char) :=
  (Text.splitAtEvery isSpaceOrLineEnd s).filter fun w => !w.isEmpty

/-- The words of a label with one space between them. The first gap counts only when white space
comes before the first word, too. -/
def joinLabelWords (isIndented : Bool) : List (List Char) → List Char
  | first :: second :: rest =>
    let gap := if isIndented then [' '] else []
    first ++ gap ++ [' '].intercalate (second :: rest)
  | words => words.flatten

/-- The form of a label by which labels are compared: without regard to letter case and to the
amount of white space. -/
def identifierOf (label : List Char) : List Char :=
  let isIndented := (label.head?.map isSpaceOrLineEnd).getD false
  Text.upper (Text.lower (joinLabelWords isIndented (labelWords label)))

/-- A label with its identifier as a tree shows it. -/
def Label.ofIdentifier (identifier : List Char) (written : List Char) : Label :=
  { identifier := String.ofList (Text.lower identifier)
    written := some (String.ofList written) }

/-- An address in angle brackets behind the opening one. -/
def bracketedFrom : List Char → Option (List Char × List Char)
  | [] => none
  | '>' :: rest => some ([], rest)
  | '<' :: _ => none
  | '\\' :: c :: rest =>
    if c = '<' || c = '>' || c = '\\' then
      (bracketedFrom rest).map fun (url, rest) => ('\\' :: c :: url, rest)
    else (bracketedFrom (c :: rest)).map fun (url, rest) => ('\\' :: url, rest)
  | c :: rest =>
    if isLineEnd c then none
    else (bracketedFrom rest).map fun (url, rest) => (c :: url, rest)

/-- True of the space and of ASCII control characters but NUL. -/
def isControlOrSpace (c : Char) : Bool := (0 < c.toNat && c.toNat ≤ 0x20) || c.toNat = 0x7F

/-- An address without brackets around it, of which `depth` parentheses are open. At most `limit`
parentheses are open at a time. -/
def bareFrom (limit depth : Nat) : List Char → Option (List Char × List Char)
  | [] => if depth = 0 then some ([], []) else none
  | '(' :: rest =>
    if depth < limit then
      (bareFrom limit (depth + 1) rest).map fun (url, rest) => ('(' :: url, rest)
    else none
  | ')' :: rest =>
    match depth with
    | 0 => some ([], ')' :: rest)
    | depth + 1 => (bareFrom limit depth rest).map fun (url, rest) => (')' :: url, rest)
  | '\\' :: c :: rest =>
    if c = '(' || c = ')' || c = '\\' then
      (bareFrom limit depth rest).map fun (url, rest) => ('\\' :: c :: url, rest)
    else (bareFrom limit depth (c :: rest)).map fun (url, rest) => ('\\' :: url, rest)
  | c :: rest =>
    if isSpaceOrLineEnd c then if depth = 0 then some ([], c :: rest) else none
    else if isControlOrSpace c then none
    else (bareFrom limit depth rest).map fun (url, rest) => (c :: url, rest)

/-- An address. -/
def destination? (limit : Nat) (s : List Char) : Option (List Char × List Char) :=
  match s with
  | [] => none
  | '<' :: rest => bracketedFrom rest
  | c :: _ => if isControlOrSpace c || c = ')' then none else bareFrom limit 0 s

/-- Reads up to an unescaped closing mark. -/
def titleFrom (mark : Char) : List Char → Option (List Char × List Char)
  | [] => none
  | '\\' :: c :: rest =>
    if c = mark || c = '\\' then
      (titleFrom mark rest).map fun (title, rest) => ('\\' :: c :: title, rest)
    else (titleFrom mark (c :: rest)).map fun (title, rest) => ('\\' :: title, rest)
  | c :: rest =>
    if c = mark then some ([], rest)
    else (titleFrom mark rest).map fun (title, rest) => (c :: title, rest)

/-- A title in quotes or parentheses. -/
def title? : List Char → Option (List Char × List Char)
  | '"' :: rest => titleFrom '"' rest
  | '\x27' :: rest => titleFrom '\x27' rest
  | '(' :: rest => titleFrom ')' rest
  | _ => none

/-- The text behind spaces, tabs and line ends. -/
def skipSpace (s : List Char) : List Char := s.dropWhile isSpaceOrLineEnd

/-- The target of an address and a title as they are written. An empty title counts for none. -/
def Target.ofWritten (url : List Char) (title : Option (List Char)) : Target :=
  { url := String.ofList (decode url)
    title := (title.filter fun t => !t.isEmpty).map fun t => String.ofList (decode t) }

end SlideDeck.Markdown
