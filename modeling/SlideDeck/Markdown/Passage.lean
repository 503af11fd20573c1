import SlideDeck.Markdown.Line

/-!
# Passages

A text over one or more lines together with what stands in front of each of its lines on the page.
The text itself does without these fronts, but a label is compared as it stands on the page, and
whether marks may start emphasis depends on the character in front of them on the page.
-/

namespace SlideDeck.Markdown

/-- A text with what stands in front of its lines. -/
structure Passage where
  /-- What stands in front of each line; there is one for the start and one for each line end. -/
  fronts : List Front
  /-- The text. -/
  text : List Char
deriving DecidableEq, Repr, Inhabited

/-- The number of line ends in a text. -/
def countLineEnds : List Char → Nat
  | [] => 0
  | '\r' :: '\n' :: rest => 1 + countLineEnds rest
  | c :: rest => (if isLineEnd c then 1 else 0) + countLineEnds rest

/-- What stands in front of the next line. -/
def nextFront (fronts : List Front) : Front := fronts.head?.getD {}

/-- A text as it stands on the page, given the fronts of the lines that follow its first one. -/
def onPage (fronts : List Front) : List Char → List Char
  | [] => []
  | '\r' :: '\n' :: rest =>
    '\r' :: '\n' :: ((nextFront fronts).passed.reverse ++ onPage fronts.tail rest)
  | c :: rest =>
    if isLineEnd c then c :: ((nextFront fronts).passed.reverse ++ onPage fronts.tail rest)
    else c :: onPage fronts rest

namespace Passage

/-- A passage with another line in front. -/
def cons (l : TextLine) (p : Passage) : Passage := ⟨l.front :: p.fronts, l.line.full ++ p.text⟩

/-- The passage of lines; the characters that end the last one do not belong to it. -/
def ofLines : List TextLine → Passage
  | [] => ⟨[], []⟩
  | [l] => ⟨[l.front], l.line.text⟩
  | l :: rest => cons l (ofLines rest)

/-- A text on one line. -/
def ofText (front : Front) (text : List Char) : Passage := ⟨[front], text⟩

/-- What stands in front of the first line. -/
def front (p : Passage) : Front := nextFront p.fronts

/-- What stands in front of the lines behind the first one. -/
def laterFronts (p : Passage) : List Front := p.fronts.tail

/-- The passage of the end of a text, which starts a line unless it is on the last one. -/
def behind (p : Passage) (rest : List Char) : Passage :=
  ⟨p.fronts.drop (p.fronts.length - (countLineEnds rest + 1)), rest⟩

end Passage

end SlideDeck.Markdown
