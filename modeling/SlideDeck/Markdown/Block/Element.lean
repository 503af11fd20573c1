import SlideDeck.Markdown.Block.Mark

/-!
# Elements

The marks of a page as a tree: each container with the marks and containers in it.
-/

namespace SlideDeck.Markdown

/-- A mark that is no boundary of a container, or a container with what is in it. -/
inductive Element where
  /-- A mark. -/
  | token (t : Token)
  /-- A container. -/
  | container (c : Container) (inside : List Element)
deriving Repr

namespace Element

/-- A container that is not closed yet, with what stands in front of it. Elements come the last one
first. -/
structure Opened where
  /-- The container. -/
  container : Container
  /-- The elements in front of it. -/
  before : List Element

/-- Closes the innermost container, where `inside` holds its elements. -/
def leave (opened : List Opened) (inside : List Element) : List Opened × List Element :=
  match opened with
  | [] => ([], inside)
  | o :: rest => (rest, .container o.container inside.reverse :: o.before)

/-- The elements of marks, given the open containers, the innermost one first, and the elements of
the innermost one, the last one first. All containers end at the end of the marks. -/
def nest (opened : List Opened) (inside : List Element) : List Mark → List Element
  | [] => close opened inside
  | .enter c :: rest => nest (⟨c, inside⟩ :: opened) [] rest
  | .leave :: rest =>
    let (opened, inside) := leave opened inside
    nest opened inside rest
  | .token t :: rest => nest opened (.token t :: inside) rest
where
  /-- Closes all containers. -/
  close : List Opened → List Element → List Element
    | [], inside => inside.reverse
    | o :: rest, inside => close rest (.container o.container inside.reverse :: o.before)

/-- The elements of marks. -/
def ofMarks (marks : List Mark) : List Element := nest [] [] marks

/-- True of elements that end with the sign of a quote. -/
def endsWithQuoteSign (inside : List Element) : Bool :=
  match inside.getLast? with
  | some (.token .quoteSign) => true
  | _ => false

/-- True of the elements of an item behind which a blank line does not spread its list: those of an
item of which there is only the sign, and those that end with a quote that ends with its sign. -/
def hidesGap (inside : List Element) : Bool :=
  match inside.reverse with
  | .token .itemSign :: _ | .token .space :: .token .itemSign :: _ => true
  | .container .quote quoted :: _ => endsWithQuoteSign quoted
  | _ => false

end Element

end SlideDeck.Markdown
