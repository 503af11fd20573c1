import SlideDeck.Markdown.Line
import SlideDeck.Text.Entity
import SlideDeck.Text.Punctuation

/-!
# Escapes and character references

The plain texts of Markdown, such as addresses, titles and labels: a backslash before punctuation
stands for that punctuation, a character reference stands for its characters, and white space around
the ends of lines counts for nothing.
-/

namespace SlideDeck.Markdown

/-- The characters that a character reference stands for, given the text behind its ampersand, and
the text behind the reference. -/
def characterReference? (s : List Char) : Option (List Char × List Char) :=
  let body := s.takeWhile fun c => c.isAlphanum || c = '#'
  match s.drop body.length with
  | ';' :: rest => if body.length ≤ 31 then (Text.reference? body).map fun t => (t, rest) else none
  | _ => none

/-- What a plain text consists of. -/
inductive Segment where
  /-- A character that stands for itself. -/
  | plain (c : Char)
  /-- The characters of an escape or a reference. -/
  | literal (s : List Char)
deriving DecidableEq, Repr

/-- Cuts a text into segments. `fuel` is the length of the text. -/
def segmentsFrom (fuel : Nat) (s : List Char) : List Segment :=
  match fuel, s with
  | 0, _ | _, [] => []
  | fuel + 1, '\\' :: c :: rest =>
    if Text.isAsciiPunctuation c then .literal [c] :: segmentsFrom fuel rest
    else .plain '\\' :: segmentsFrom fuel (c :: rest)
  | fuel + 1, '&' :: rest =>
    match characterReference? rest with
    | some (value, rest) => .literal value :: segmentsFrom fuel rest
    | none => .plain '&' :: segmentsFrom fuel rest
  | fuel + 1, c :: rest => .plain c :: segmentsFrom fuel rest

/-- The segments of a text. -/
def segmentsOf (s : List Char) : List Segment := segmentsFrom s.length s

/-- Joins segments. `spaces` holds white space that counts unless a line ends behind it, and
`lineStart` tells that only white space was met since the last line ended. -/
def joinSegments (lineStart : Bool) (spaces : List Char) : List Segment → List Char
  | [] => spaces.reverse
  | .plain c :: rest =>
    if isSpace c then joinSegments lineStart (if lineStart then [] else c :: spaces) rest
    else if isLineEnd c then c :: joinSegments true [] rest
    else spaces.reverse ++ c :: joinSegments false [] rest
  | .literal s :: rest => spaces.reverse ++ s ++ joinSegments false [] rest

/-- The text that a plain text stands for. -/
def decode (s : List Char) : List Char := joinSegments false [] (segmentsOf s)

end SlideDeck.Markdown
