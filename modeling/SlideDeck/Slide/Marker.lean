import SlideDeck.Attribute.Token

/-!
# Layout comments

Two kinds of comments at the root of a page lay it out. A split marker, such as `split:2fr
vertical`, closes the partition above it and gives that partition its size. A partition directive
starts with the word `@split` and styles the partition that it stands in.
-/

namespace SlideDeck.Slide

/-- The size of a partition without an explicit one. -/
def defaultSize : String := "1fr"

/-- A split marker. -/
structure Marker where
  /-- The size of the partition that the marker closes. -/
  size : String
  /-- True when partitions stack vertically. -/
  vertical : Bool
deriving DecidableEq, Repr

namespace Marker

/-- True of a token with the key `vertical`. -/
def asksVertical : Token → Bool
  | .pair "vertical" _ => true
  | _ => false

/-- The split marker that the body of a comment is: its first token has the key `split`. -/
def parse? (body : String) : Option Marker :=
  match tokenize body with
  | .pair "split" value :: rest => some ⟨value.getD defaultSize, rest.any asksVertical⟩
  | _ => none

/-- The partition directive that the body of a comment is. -/
def directive? (body : String) : Option Bag :=
  match Text.stripStart? "@split".toList (Text.trimStart body.toList) with
  | some [] => some (Bag.parse "")
  | some (c :: rest) =>
    if Text.isBlank c then some (Bag.parse (String.ofList (c :: rest))) else none
  | none => none

/-- True of a comment that belongs to the layout of its page. -/
def isLayout (body : String) : Bool := (parse? body).isSome || (directive? body).isSome

end Marker

end SlideDeck.Slide
