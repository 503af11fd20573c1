import SlideDeck.Markdown.Inline.Autolink
import SlideDeck.Markdown.Passage

/-!
# Pieces of a text

A text that is being read is a sequence of pieces: plain text, finished nodes, runs of marks that
may turn into emphasis, and opening brackets that may turn into links. Runs are matched from the
left: a run that can close takes the nearest run in front of it that can open it.
-/

namespace SlideDeck.Markdown

/-- A run of one of the marks `*`, `_` and `~`. -/
structure Run where
  /-- The mark. -/
  marker : Char
  /-- The number of marks. -/
  size : Nat
  /-- True when it may open. -/
  canOpen : Bool
  /-- True when it may close. -/
  canClose : Bool
deriving DecidableEq, Repr

/-- What an opening bracket may start. -/
inductive BracketKind where
  /-- A link. -/
  | link
  /-- An image. -/
  | image
  /-- A footnote mark; the sign behind the bracket belongs to it. -/
  | footnote
deriving DecidableEq, Repr

/-- An opening bracket. -/
structure Bracket where
  /-- What it may start. -/
  kind : BracketKind
  /-- False when a link was found behind it, which cannot be inside another one. -/
  active : Bool := true
  /-- The text behind it. -/
  behind : List Char
  /-- What stands in front of the lines behind its own. -/
  fronts : List Front

/-- How an opening bracket is written. -/
def BracketKind.text : BracketKind → List Char
  | link => ['[']
  | image => ['!', '[']
  | footnote => ['[', '^']

/-- A piece of a text. -/
inductive Piece where
  /-- Plain text, read backwards. -/
  | plain (reversed : List Char)
  /-- Text of an escape or a reference. -/
  | literal (s : List Char)
  /-- The end of a line. -/
  | lineEnd (s : List Char)
  /-- The white space that a line starts with when it starts in a tab: the last character of it
  belongs to plain text right behind it. -/
  | indent (c : Char)
  /-- A finished node. -/
  | node (n : Node)
  /-- A run of marks. -/
  | run (r : Run)
  /-- An opening bracket. -/
  | bracket (b : Bracket)

namespace Piece

/-- Puts plain text, read backwards, behind pieces, the last one of which comes first. -/
def pushPlain (reversed : List Char) : List Piece → List Piece
  | .plain s :: rest => .plain (reversed ++ s) :: rest
  | pieces => .plain reversed :: pieces

/-- The plain text that an unmatched run stands for. -/
def runText (r : Run) : List Char := List.replicate r.size r.marker

/-- Turns unmatched runs and brackets into plain text and joins neighbouring plain texts. The last
piece comes first, and the result is in order. -/
def settle (done : List Piece) : List Piece → List Piece
  | [] => done
  | .run r :: rest => settle (joinFront (runText r).reverse done) rest
  | .bracket b :: rest => settle (joinFront b.kind.text.reverse done) rest
  | .plain s :: rest => settle (joinFront s done) rest
  | .indent c :: rest =>
    settle (match done with
      | .plain s :: others => .plain (s ++ [c]) :: others
      | done => done) rest
  | p :: rest => settle (p :: done) rest
where
  /-- Puts plain text, read backwards, in front of pieces. -/
  joinFront (reversed : List Char) : List Piece → List Piece
    | .plain s :: rest => .plain (s ++ reversed) :: rest
    | pieces => .plain reversed :: pieces

end Piece

/-- Joins neighbouring texts. -/
def joinTexts : List Node → List Node
  | [] => []
  | .text s :: rest =>
    match joinTexts rest with
    | .text t :: others => .text (s ++ t) :: others
    | others => .text s :: others
  | n :: rest => n :: joinTexts rest

/-- The nodes of one piece. Mail addresses are looked for when `mail` is true. -/
def Piece.nodes (mail : Bool) : Piece → List Node
  | .plain s => if mail then Autolink.mailNodes s.reverse else [.text (String.ofList s.reverse)]
  | .literal s | .lineEnd s => [.text (String.ofList s)]
  | .node n => [n]
  | .indent _ | .run _ | .bracket _ => []

/-- The nodes of pieces without further matches, the last piece coming first. -/
def nodesOfPieces (mail : Bool) (pieces : List Piece) : List Node :=
  joinTexts ((Piece.settle [] pieces).flatMap (Piece.nodes mail))

/-- True of runs that open and close one emphasis. Where one of them could do both, their sizes may
not add up to a multiple of three unless the second is one. Deleted text is marked by equal runs of
one or two. -/
def Run.opens (first second : Run) : Bool :=
  first.canOpen && first.marker = second.marker
    && !((first.canClose || second.canOpen) && second.size % 3 ≠ 0
      && (first.size + second.size) % 3 = 0)
    && !(second.marker = '~' && (second.size ≠ first.size || second.size > 2))

/-- The nearest run that opens what a run closes, with the pieces behind it and those in front of
it, each the last one first. -/
def findOpener (second : Run) (between : List Piece) :
    List Piece → Option (List Piece × Run × List Piece)
  | [] => none
  | .run first :: rest =>
    if first.opens second then some (between.reverse, first, rest)
    else findOpener second (.run first :: between) rest
  | p :: rest => findOpener second (p :: between) rest

/-- The node that a number of marks makes. -/
def emphasisNode (marker : Char) (size : Nat) (children : List Node) : Node :=
  if marker = '~' then .delete children
  else if size = 2 then .strong children
  else .emphasis children

/-- Puts a run behind pieces, after it has closed all it can. `fuel` is its size. -/
def closeRun (mail : Bool) (fuel : Nat) (r : Run) (pieces : List Piece) : List Piece :=
  match fuel with
  | 0 => pieces
  | fuel + 1 =>
    if r.canClose then
      match findOpener r [] pieces with
      | some (inside, first, rest) =>
        let size := if 1 < first.size && 1 < r.size then 2 else 1
        let node := emphasisNode r.marker size (nodesOfPieces mail inside)
        let rest :=
          if size < first.size then .run { first with size := first.size - size } :: rest else rest
        if size < r.size then
          closeRun mail fuel { r with size := r.size - size } (.node node :: rest)
        else .node node :: rest
      | none => .run r :: pieces
    else .run r :: pieces

/-- Matches the runs of pieces. The pieces are in order, and the last one of the result comes
first. -/
def matchRuns (mail : Bool) (done : List Piece) : List Piece → List Piece
  | [] => done
  | .run r :: rest => matchRuns mail (closeRun mail r.size r done) rest
  | p :: rest => matchRuns mail (p :: done) rest

/-- The nodes of pieces, the last piece coming first. -/
def finishPieces (mail : Bool) (pieces : List Piece) : List Node :=
  nodesOfPieces mail (matchRuns mail [] pieces.reverse)

end SlideDeck.Markdown
