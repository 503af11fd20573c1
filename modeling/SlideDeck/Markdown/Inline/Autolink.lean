import SlideDeck.Markdown.Line
import SlideDeck.Markdown.Tree
import SlideDeck.Text.Blank
import SlideDeck.Text.Punctuation

/-!
# Automatic links

Addresses that are links without further marks: those in angle brackets, and literal addresses that
start with `www.`, `http://` or `https://` or hold an at sign. A literal address does not take in
the punctuation at its end.
-/

namespace SlideDeck.Markdown.Autolink

/-- A link that shows a text. -/
def linkTo (url text : String) : Node := .link { url } [.text text]

/-! ## In angle brackets -/

/-- The characters of a scheme behind its first letter. -/
def isSchemePart (c : Char) : Bool := c.isAlphanum || c = '+' || c = '-' || c = '.'

/-- True of an address with a scheme of 2 to 32 characters. -/
def hasScheme (s : List Char) : Bool :=
  match s with
  | [] => false
  | c :: rest =>
    let scheme := rest.takeWhile isSchemePart
    c.isAlpha && 1 ≤ scheme.length && scheme.length ≤ 31
      && (rest.drop scheme.length).head? = some ':'

/-- The characters in front of the at sign of a mail address. -/
def isMailPart (c : Char) : Bool := c.isAlphanum || ".#$%&'*+/=?^_\x60\x7b|\x7d~-".toList.contains c

/-- True of a part of a domain between two dots. -/
def isDomainLabel (s : List Char) : Bool :=
  1 ≤ s.length && s.length ≤ 63 && s.all (fun c => c.isAlphanum || c = '-')
    && s.head? ≠ some '-' && s.getLast? ≠ some '-'

/-- True of a mail address. -/
def isMail (s : List Char) : Bool :=
  match Text.cutAtFirst (· = '@') s with
  | some (name, _, domain) =>
    !name.isEmpty && name.all isMailPart && (Text.splitAtEvery (· = '.') domain).all isDomainLabel
  | none => false

/-- The link in angle brackets, given the text behind the opening one. -/
def bracketed? (s : List Char) : Option (Node × List Char) :=
  let body := s.takeWhile fun c => c ≠ '>' && c ≠ '<' && 0x20 < c.toNat && c.toNat ≠ 0x7F
  match s.drop body.length with
  | '>' :: rest =>
    let text := String.ofList body
    if hasScheme body then some (linkTo text text, rest)
    else if isMail body then some (linkTo ("mailto:" ++ text) text, rest)
    else none
  | _ => none

/-! ## Literal addresses -/

/-- How far the reading of what may be the punctuation behind an address has come. -/
inductive TrailState where
  /-- In the punctuation. -/
  | inside
  /-- Behind an ampersand. -/
  | ampersand
  /-- In the name of a character reference. -/
  | name
  /-- Behind a closing bracket. -/
  | bracket
deriving DecidableEq

/-- The characters that count as punctuation behind an address. -/
def isTrailing (c : Char) : Bool := "!\"')*,.:;?_~".toList.contains c

/-- True of text that consists of punctuation up to an end of addresses: white space, a tag, or a
closing bracket of a link. `ends` tells whether the end of the text is one. -/
def isTrailFrom (ends : Bool) (state : TrailState) : List Char → Bool
  | [] => (state = .inside && ends) || state = .bracket
  | c :: rest =>
    match state with
    | .ampersand => c.isAlpha && isTrailFrom ends .name rest
    | .name =>
      if c.isAlpha then isTrailFrom ends .name rest else c = ';' && isTrailFrom ends .inside rest
    | .inside => isTrailAt c rest
    | .bracket => isSpaceOrLineEnd c || c = '(' || c = '[' || isTrailAt c rest
where
  /-- The same in the punctuation, at its first character. -/
  isTrailAt (c : Char) (rest : List Char) : Bool :=
    if isTrailing c then isTrailFrom ends .inside rest
    else if c = '&' then isTrailFrom ends .ampersand rest
    else if c = '<' then true
    else if c = ']' then isTrailFrom ends .bracket rest
    else Text.isBlank c

/-- True of text that consists of punctuation up to an end of addresses. -/
def isTrail (ends : Bool) (s : List Char) : Bool := isTrailFrom ends .inside s

/-- True of characters that are neither white space nor punctuation. -/
def isWordPart (c : Char) : Bool := !Text.isBlank c && !Text.isPunctuation c

/-- The length of the domain that a text starts with. The last two parts of a domain between dots
hold no underscore; `last` and `before` tell whether they do so far, and `seen` whether a character
of a word was met. -/
def domainLength? (ends last before seen : Bool) : List Char → Option Nat
  | [] => if last || before || !seen then none else some 0
  | c :: rest =>
    let ended := if last || before || !seen then none else some 0
    if c = '_' then
      if isTrail ends (c :: rest) then ended
      else (domainLength? ends true before seen rest).map (· + 1)
    else if c = '.' then
      if isTrail ends (c :: rest) then ended
      else (domainLength? ends false last seen rest).map (· + 1)
    else if c = '-' then (domainLength? ends last before seen rest).map (· + 1)
    else if isWordPart c then (domainLength? ends last before true rest).map (· + 1)
    else ended

/-- The length of what follows the domain of an address, of which `opened` and `closed` parentheses
were met. -/
def pathLength (ends : Bool) (opened closed : Nat) : List Char → Nat
  | [] => 0
  | c :: rest =>
    if c = '(' then 1 + pathLength ends (opened + 1) closed rest
    else if isTrailing c || c = '&' || c = '<' || c = ']' then
      if isTrail ends (c :: rest) && !(c = ')' && closed < opened) then 0
      else 1 + pathLength ends opened (if c = ')' then closed + 1 else closed) rest
    else if Text.isBlank c then 0
    else 1 + pathLength ends opened closed rest

/-- The length of a domain and what follows it. -/
def addressLength? (ends : Bool) (s : List Char) : Option Nat :=
  (domainLength? ends false false false s).map fun n => n + pathLength ends 0 0 (s.drop n)

/-- The link at the start of a text that starts with a scheme. -/
def scheme? (ends : Bool) (s : List Char) : Option (Node × List Char) :=
  let scheme := s.takeWhile Char.isAlpha
  let name := String.ofList (scheme.map Char.toLower)
  if name = "http" || name = "https" then
    match Text.stripStart? "://".toList (s.drop scheme.length) with
    | some rest =>
      (addressLength? ends rest).map fun n =>
        let size := scheme.length + 3 + n
        let text := String.ofList (s.take size)
        (linkTo text text, s.drop size)
    | none => none
  else none

/-- The link at the start of a text that starts with `www.`. -/
def www? (ends : Bool) (s : List Char) : Option (Node × List Char) :=
  if (s.take 4).map Char.toLower = "www.".toList && 4 < s.length then
    (addressLength? ends s).map fun n =>
      let text := String.ofList (s.take n)
      (linkTo ("http://" ++ text) text, s.drop n)
  else none

/-- True of characters that an address with `www.` may follow. -/
def mayPrecedeWww (c : Char) : Bool := isSpaceOrLineEnd c || "(*_[]~".toList.contains c

/-- The literal link at the start of a text behind the given character. `ends` tells whether the end
of the text is an end of addresses. -/
def literal? (ends : Bool) (previous : Option Char) (s : List Char) : Option (Node × List Char) :=
  match s with
  | [] => none
  | c :: _ =>
    if c.toLower = 'h' && !(previous.map Char.isAlpha).getD false then scheme? ends s
    else if c.toLower = 'w' && (previous.map mayPrecedeWww).getD true then www? ends s
    else none

/-! ## Mail addresses in text -/

/-- The characters in front of the at sign of a mail address in text. -/
def isPlainMailPart (c : Char) : Bool :=
  c.isAlphanum || c = '+' || c = '-' || c = '.' || c = '_'

/-- The length of the domain of a mail address, which may have a path after `xmpp:`; `dotted` tells
whether a dot was met, and `previous` is the last character. -/
def mailDomainLength? (path dotted : Bool) (previous : Char) : List Char → Option Nat
  | [] => if dotted && previous.isAlpha then some 0 else none
  | c :: rest =>
    let goesOn := c.isAlphanum || c = '-' || c = '_' || (c = '/' && path)
    let dot := c = '.' && (rest.head?.map Char.isAlphanum).getD false
    if goesOn || dot then (mailDomainLength? path (dotted || dot) c rest).map (· + 1)
    else if dotted && previous.isAlpha then some 0
    else none

/-- The scheme that stands right in front of a mail address, read backwards. -/
def mailScheme (before : List Char) : List Char :=
  match before with
  | ':' :: rest =>
    let name := rest.takeWhile Char.isAlphanum
    let lower := String.ofList (name.reverse.map Char.toLower)
    if lower = "mailto" || lower = "xmpp" then ':' :: name else []
  | _ => []

/-- The mail address around an at sign: `before` is the text in front of it read backwards. Gives
the number of characters in front of the at sign, the link, and the text behind. -/
def mailAround? (before rest : List Char) : Option (Nat × Node × List Char) :=
  let name := before.takeWhile isPlainMailPart
  let front := before.drop name.length
  if name.isEmpty || front.head? = some '/' then none
  else
    let scheme := mailScheme front
    let path := scheme.length = 5
    (mailDomainLength? path false '@' rest).map fun n =>
      let text := String.ofList ((name ++ scheme).reverse ++ '@' :: rest.take n)
      ((name ++ scheme).length,
        linkTo (if scheme.isEmpty then "mailto:" ++ text else text) text, rest.drop n)

/-- The nodes of a text with its mail addresses. `before` is the text since the last address, read
backwards, and `fuel` is at least the length of the text. -/
def mailNodesFrom (fuel : Nat) (before : List Char) (s : List Char) : List Node :=
  match fuel, s with
  | 0, _ | _, [] => textNode before
  | fuel + 1, '@' :: rest =>
    match mailAround? before rest with
    | some (n, link, rest) =>
      textNode (before.drop n) ++ link :: mailNodesFrom fuel (rest.take 1).reverse (rest.drop 1)
    | none => mailNodesFrom fuel ('@' :: before) rest
  | fuel + 1, c :: rest => mailNodesFrom fuel (c :: before) rest
where
  /-- The text read backwards, if there is one. -/
  textNode (before : List Char) : List Node :=
    if before.isEmpty then [] else [.text (String.ofList before.reverse)]

/-- The nodes of a text with its mail addresses. -/
def mailNodes (s : List Char) : List Node := mailNodesFrom s.length [] s

end SlideDeck.Markdown.Autolink
