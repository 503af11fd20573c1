import SlideDeck.Directive.Basic
import SlideDeck.Slide.Marker
import SlideDeck.Slide.Node

/-!
# Comments of a page

A comment at the root of a page assigns page directives, unless it belongs to the layout of the
page. A comment that is the last child of an element, blank text aside, annotates that element; a
transparent element passes its annotations on to the element around it. Every other comment says
nothing and goes.
-/

namespace SlideDeck.Slide

/-- Nodes without the blank characters at the end of a last text; a text that is nothing else
goes. -/
def trimLastText (nodes : List Node) : List Node :=
  match nodes.reverse with
  | .text s :: rest =>
    let trimmed := Text.trimEnd s.toList
    if trimmed.isEmpty then rest.reverse else (.text (String.ofList trimmed) :: rest).reverse
  | _ => nodes

/-- The annotation in a last comment, blank text behind it aside, and the nodes in front of it. -/
def takeTrailing (nodes : List Node) : Option Bag × List Node :=
  match nodes.reverse.dropWhile Node.isBlankText with
  | .comment body :: rest => (some (Bag.parse body), trimLastText rest.reverse)
  | _ => (none, nodes)

/-- True of a comment. -/
def Node.isComment : Node → Bool
  | .comment _ => true
  | _ => false

mutual

/-- Annotates the elements in a node. Gives the annotations that a transparent element could not
keep, inner ones before outer ones. -/
def annotate : Node → Node × List Bag
  | .element tag attrs children transparent =>
    let (children, pending) := annotateAll children
    let (bag, children) := takeTrailing children
    let pending := pending ++ bag.toList
    let children := children.filter fun n => !n.isComment
    if transparent then (.element tag attrs children true, pending)
    else (.element tag (pending.foldl Attributes.merge attrs) children false, [])
  | other => (other, [])

/-- Annotates the elements in several nodes. -/
def annotateAll : List Node → List Node × List Bag
  | [] => ([], [])
  | n :: rest =>
    let (n, bags) := annotate n
    let (rest, more) := annotateAll rest
    (n :: rest, bags ++ more)

end

/-- Applies the comments of a page. Annotations that reach the root without finding an element are
dropped. -/
def applyComments : List Node → PageDirectives → List Node × PageDirectives
  | [], d => ([], d)
  | .comment body :: rest, d =>
    if Marker.isLayout body then
      let (rest, d) := applyComments rest d
      (.comment body :: rest, d)
    else applyComments rest (d.apply (Bag.parse body))
  | n :: rest, d =>
    let (rest, d) := applyComments rest d
    ((annotate n).1 :: rest, d)

end SlideDeck.Slide
