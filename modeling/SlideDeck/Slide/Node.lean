import SlideDeck.Attribute.Basic
import SlideDeck.Content

/-!
# The slide tree

A slide is a forest of nodes: elements with ordered attributes, text, trusted markup, comments, and
the images, code blocks and placeholders that later passes replace. A transparent element stands for
its children.
-/

namespace SlideDeck

namespace Slide

/-- A node of the slide tree. -/
inductive Node where
  /-- An element; a transparent one renders only its children. -/
  | element (tag : String) (attrs : Attributes) (children : List Node) (transparent : Bool)
  /-- Text, escaped on output. -/
  | text (s : String)
  /-- Trusted markup, written as it is. -/
  | raw (s : String)
  /-- The body of a comment. -/
  | comment (body : String)
  /-- An image. -/
  | image (i : Image)
  /-- A code block. -/
  | code (c : CodeBlock)
  /-- The place of highlighted markup, by the number of its request. -/
  | placeholder (handle : Nat)
deriving Repr, Inhabited

namespace Node

/-- An element with attributes and children. -/
def tagged (tag : String) (attrs : List (String × Value)) (children : List Node) : Node :=
  .element tag (Attributes.ofList attrs) children false

/-- An element with children only. -/
def plain (tag : String) (children : List Node) : Node := .element tag .empty children false

/-- An element with a class and children. -/
def classed (tag names : String) (children : List Node) : Node :=
  .element tag (Attributes.empty.addClass names) children false

/-- True of text made of blank characters only. -/
def isBlankText : Node → Bool
  | text s => Text.isBlankText s.toList
  | _ => false

mutual

/-- The text of a node and of everything in it, code included. -/
def textContent : Node → String
  | text s => s
  | element _ _ children _ => textContents children
  | code c => c.value
  | _ => ""

/-- The text of several nodes. -/
def textContents : List Node → String
  | [] => ""
  | n :: rest => textContent n ++ textContents rest

end

mutual

/-- The tags of the elements in a node, an element before the elements in it. -/
def tags : Node → List String
  | element tag _ children _ => tag :: tagsOf children
  | _ => []

/-- The tags of the elements in several nodes. -/
def tagsOf : List Node → List String
  | [] => []
  | n :: rest => tags n ++ tagsOf rest

end

mutual

/-- The first element with a tag in a node, searched in depth. -/
def find? (tag : String) : Node → Option Node
  | element t attrs children transparent =>
    if t = tag then some (element t attrs children transparent) else findIn? tag children
  | _ => none

/-- The first element with a tag in several nodes, searched in depth. -/
def findIn? (tag : String) : List Node → Option Node
  | [] => none
  | n :: rest =>
    match find? tag n with
    | some found => some found
    | none => findIn? tag rest

end

/-- The children of an element. -/
def children : Node → List Node
  | element _ _ cs _ => cs
  | _ => []

end Node

end Slide

end SlideDeck
