import SlideDeck.Markdown.Block.Leaf

/-!
# From lines to marks

A page is read line by line. A line first goes on with the open containers, then starts new ones,
and what is left of it is read as a line of a leaf block. A line that does not go on with all
containers closes the others, unless it is lazy text. Containers end in front of the end of the line
before the one that closes them.
-/

namespace SlideDeck.Markdown

/-- What was read so far. -/
structure ScanState where
  /-- The marks of the lines, the last line first. -/
  lines : List (List Mark) := []
  /-- The open containers, the outermost one first. -/
  stack : List OpenContainer := []
  /-- What the lines mean for leaf blocks on the next one. -/
  leaf : LeafState := {}
  /-- True when the last line ended in text that a lazy line may go on with. -/
  acceptsText : Bool := false
  /-- True when the last line was lazy. -/
  isLazy : Bool := false

/-- The marks of a line with the ends of containers in front of its end. -/
def insertLeaves (n : Nat) (line : List Mark) : List Mark :=
  let leaves := List.replicate n Mark.leave
  match line.getLast? with
  | some (.token t) => if t.endsLine then line.dropLast ++ leaves ++ [.token t] else line ++ leaves
  | _ => line ++ leaves

namespace ScanState

/-- Puts the marks of lines behind those read so far. -/
def pushLines (lines : List (List Mark)) (s : ScanState) : ScanState :=
  { s with lines := lines.reverse ++ s.lines }

/-- Ends all containers but the given number of outer ones on the last line. -/
def leaveTo (keep : Nat) (s : ScanState) : ScanState :=
  if s.stack.length ≤ keep then s
  else
    let closing := s.stack.length - keep
    let lines := match s.lines with
      | [] => [insertLeaves closing []]
      | line :: lines => insertLeaves closing line :: lines
    { s with lines, stack := s.stack.take keep, leaf := { s.leaf with interrupts := false } }

/-- Ends the open leaf and all containers but the given number of outer ones. -/
def closeTo (keep : Nat) (s : ScanState) : ScanState :=
  let (lines, leaf) := s.leaf.close s.isLazy
  ({ s with leaf }.pushLines lines).leaveTo keep

end ScanState

/-- Goes on with containers, the outermost one first. Gives those that the line belongs to, the
place behind their signs, and the marks in front of it. -/
def continueAll (c : Constructs) :
    List OpenContainer → Cursor → List OpenContainer × Cursor × List Mark
  | [], cursor => ([], cursor, [])
  | o :: rest, cursor =>
    match o.continue? c cursor with
    | some (o, behind, marks) =>
      let (others, cursor, more) := continueAll c rest behind
      (o :: others, cursor, marks ++ more)
    | none => ([], cursor, [])

/-- A line that is being read, as far as its containers go. -/
structure LineStart where
  /-- What was read before. -/
  state : ScanState
  /-- The number of open containers that the line belongs to. -/
  keep : Nat
  /-- The place behind their signs. -/
  cursor : Cursor
  /-- The marks in front of it. -/
  marks : List Mark
  /-- True when a container starts on the line. -/
  startsContainer : Bool := false

namespace LineStart

/-- True when the line belongs to all open containers. -/
def isWhole (l : LineStart) : Bool := l.state.stack.length = l.keep

/-- Starts a container. The containers that the line does not belong to end. -/
def enter (o : OpenContainer) (behind : Cursor) (l : LineStart) : LineStart :=
  let s := if l.isWhole then l.state else l.state.closeTo l.keep
  { state := { s with stack := s.stack ++ [o] }
    keep := l.keep + 1
    cursor := behind
    marks := l.marks ++ .enter o.container
      :: l.cursor.spaceMarks ++ [.token o.container.sign]
    startsContainer := true }

/-- Starts the containers whose signs follow on a line with the given end, at most `fuel` of
them. -/
def enterAll (c : Constructs) (ending : List Char) : Nat → LineStart → LineStart
  | 0, l => l
  | fuel + 1, l =>
    if l.isWhole && l.state.leaf.leaf.isRaw then l
    else
      match containerStart? c (l.isWhole && l.state.leaf.interrupts) ending l.cursor with
      | some (o, behind) => enterAll c ending fuel (l.enter o behind)
      | none => l

/-- The rest of the line for the leaf blocks. -/
def leafLine (c : Constructs) (ending : List Char) (l : LineStart) : LeafLine :=
  { constructs := c, cursor := l.cursor, ending, isLazy := !l.isWhole
    startsContainer := l.startsContainer, marks := l.marks }

/-- Reads what is left of the line, and tells whether it is text that a lazy line may go on with.
Without any text, and without an end, the line says nothing about leaf blocks but ends the open
one. -/
def readRest (x : LeafLine) (s : LeafState) : LeafResult × Bool :=
  if x.ending.isEmpty && x.cursor.isAtEnd then
    let (earlier, state) := s.close x.isLazy
    ({ earlier, own := some x.marks, state }, state.acceptsText)
  else
    let result := x.read s
    if x.ending.isEmpty && x.isLazy then (result, !x.isUndecided (s.close true).2)
    else (result, result.state.acceptsText)

/-- Reads the rest of the line, and ends the containers that it does not belong to unless it is lazy
text. -/
def finish (c : Constructs) (ending : List Char) (l : LineStart) : ScanState :=
  let x := l.leafLine c ending
  let (result, acceptsText) := readRest x l.state.leaf
  let s := { l.state with leaf := result.state }.pushLines result.earlier
  let s := if x.isLazy && s.acceptsText && acceptsText then s else s.leaveTo l.keep
  { s.pushLines result.own.toList with acceptsText, isLazy := x.isLazy }

end LineStart

/-- Reads one line behind the given characters, the last of which comes first. -/
def ScanState.step (c : Constructs) (passed : List Char) (s : ScanState) (line : Line) :
    ScanState :=
  let (kept, cursor, marks) := continueAll c s.stack { passed, rest := line.text }
  let keep := kept.length
  let state := { s with stack := kept ++ s.stack.drop keep }
  let start : LineStart := { state, keep, cursor, marks }
  (start.enterAll c line.ending (line.text.length + 1)).finish c line.ending

/-- The marks of lines. The given characters stand in front of the first line. -/
def marksOf (c : Constructs) (passed : List Char) (lines : List Line) : List Mark :=
  match lines with
  | [] => []
  | first :: rest =>
    let s := rest.foldl (ScanState.step c []) (ScanState.step c passed {} first)
    (s.closeTo 0).lines.reverse.flatten

end SlideDeck.Markdown
