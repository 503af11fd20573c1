import SlideDeck.Directive.Basic
import SlideDeck.Slide.Node

/-!
# Sections

The section around a page or a partition: its class list, its inline style and its id, derived from
resolved directives.
-/

namespace SlideDeck

/-- How a page is split. -/
structure SplitInfo where
  /-- True when the page has a split marker. -/
  enabled : Bool := false
  /-- The sizes of the partitions. -/
  size : Option String := none
  /-- True when the partitions stack vertically. -/
  vertical : Bool := false
deriving DecidableEq, Repr, Inhabited

namespace Slide

/-- The directives that become variables of a section, with the names of the variables. -/
def backgroundVariables : List (String × String) :=
  [("bgImg", "--bg-img"), ("bgColor", "--bg-color"), ("bgSize", "--bg-size"),
    ("bgPosition", "--bg-pos"), ("bgRepeat", "--bg-repeat"), ("bgOpacity", "--bg-opacity")]

/-- The class list, the style and the id of a section. -/
structure Frame where
  /-- The class list. -/
  className : String
  /-- The inline style, if anything contributes to it. -/
  style : Option String
  /-- The id. -/
  id : Option String
deriving DecidableEq, Repr

namespace Frame

/-- A style text without blanks around it and without the semicolons at its end. -/
def trimStyle (s : String) : String :=
  String.ofList <|
    Text.trimEnd (Text.dropEndWhile (· = ';') (Text.trim s.toList))

/-- The parts of the style of a section. -/
def styleParts (directives : DirectiveMap) (split : SplitInfo) : List String :=
  let own := match DirectiveMap.getText? directives "style" with
    | some s => if (trimStyle s).isEmpty then [] else [trimStyle s]
    | none => []
  let color := match DirectiveMap.getNonEmpty? directives "color" with
    | some c => ["color: " ++ c]
    | none => []
  let background := backgroundVariables.filterMap fun (key, variableName) =>
    (DirectiveMap.getNonEmpty? directives key).map fun v => variableName ++ ": " ++ v
  let sizes := match split.enabled, split.size with
    | true, some size =>
      [(if split.vertical then "--split-row" else "--split-col") ++ ": " ++ size]
    | _, _ => []
  own ++ color ++ background ++ sizes

/-- Derives a frame whose class list starts with `base`. -/
def build (base : String) (directives : DirectiveMap) (split : SplitInfo) : Frame :=
  let classes := match DirectiveMap.getText? directives "class" with
    | some names => (Text.words names.toList).map String.ofList
    | none => []
  let splitClass := if split.enabled then ["split"] else []
  let hasBackground := DirectiveMap.isEnabled directives "bgImg"
    || DirectiveMap.isEnabled directives "bgColor"
  let backgroundClass := if hasBackground then ["bg"] else []
  let parts := styleParts directives split
  { className := " ".intercalate (base :: classes ++ splitClass ++ backgroundClass)
    style := if parts.isEmpty then none else some ("; ".intercalate parts)
    id := DirectiveMap.getNonEmpty? directives "id" }

/-- The frame of a page. -/
def ofPage (directives : DirectiveMap) (split : SplitInfo) : Frame :=
  build "slide" directives split

/-- The frame of a partition, which knows nothing of the split of its page. -/
def ofPartition (directives : DirectiveMap) : Frame := build "split-contents" directives {}

/-- The section of a frame; `key` and `value` are the attribute that stands between its id and its
style. -/
def section_ (frame : Frame) (key value : String) (children : List Node) : Node :=
  let id := match frame.id with
    | some id => [("id", Value.text id)]
    | none => []
  let style := match frame.style with
    | some style => [("style", Value.text style)]
    | none => []
  .tagged "section" ([("class", Value.text frame.className)] ++ id ++ [(key, .text value)] ++ style)
    children

/-- Wraps the content of a page. -/
def wrap (frame : Frame) (page : Nat) (children : List Node) : Node :=
  frame.section_ "data-page" (toString page) children

end Frame

/-- The speaker note of a page. -/
def note? (directives : DirectiveMap) : Option String :=
  DirectiveMap.getNonEmpty? directives "note"

end Slide

end SlideDeck
