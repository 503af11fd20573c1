import SlideDeck.Slide.ImageStyle
import SlideDeck.Slide.Node

/-!
# Images of a page

Every image becomes an `img` element in its place, or leaves the flow as a background layer; the
layers are gathered in one container behind all other nodes. An element that holds nothing but
images taken out of the flow is marked, and paragraphs without content go.
-/

namespace SlideDeck.Slide

/-- How images are treated. -/
structure ImageOptions where
  /-- Inline images are loaded lazily. -/
  lazy : Bool
  /-- Background layers stack vertically even if none asks for it. -/
  vertical : Bool
deriving DecidableEq, Repr

/-- A background layer that left the flow. -/
structure Layer where
  /-- The element of the layer. -/
  node : Node
  /-- Its size in the grid of layers. -/
  size : String
  /-- True when it asks for vertical stacking. -/
  vertical : Bool
deriving Repr

/-- The element of an inline image. -/
def inlineImage (i : Image) (name : String) (style : ImageStyle) (options : ImageOptions) : Node :=
  let attrs := (Attributes.empty.insert "src" (.text i.url)).insert "alt" (.text name)
  let attrs := match i.title with
    | some title => attrs.insert "title" (.text title)
    | none => attrs
  let attrs := attrs.merge style.extra
  let attrs := match style.inlineStyle with
    | some inline => attrs.insert "style" (.text inline)
    | none => attrs
  let attrs := if options.lazy then attrs.insert "loading" (.text "lazy") else attrs
  .element "img" attrs [] false

/-- The layer of a background image. -/
def backgroundLayer (i : Image) (style : ImageStyle) : Layer :=
  let attrs := (Attributes.empty.addClass "advanced-bg-image").merge style.extra
  { node := .element "div" (attrs.insert "style" (.text (style.backgroundStyle i.url))) [] false
    size := style.size.getD defaultLayerSize
    vertical := style.vertical }
where
  /-- The size of a layer that gives none. -/
  defaultLayerSize : String := "1fr"

/-- What the children of an element are made of. -/
structure Flow where
  /-- True when one of them is taken out of the flow. -/
  absolute : Bool := false
  /-- True when one of them stays in it. -/
  content : Bool := false
deriving DecidableEq, Repr

/-- True of children that are taken out of the flow and nothing else. -/
def Flow.onlyAbsolute (f : Flow) : Bool := f.absolute && !f.content

/-- The makeup of two groups of children together. -/
def Flow.join (f g : Flow) : Flow := ⟨f.absolute || g.absolute, f.content || g.content⟩

mutual

/-- Replaces the images in a node. Gives the node unless it left the flow, the layers found in it in
document order, and how it counts in the element around it. -/
def placeImage (options : ImageOptions) : Node → Option Node × List Layer × Flow
  | .image i =>
    let (name, words) := splitAlt i.alt
    let style := ImageStyle.parse words
    if style.background then (none, [backgroundLayer i style], {})
    else
      (some (inlineImage i name style options), [],
        if style.isAbsolute then { absolute := true } else { content := true })
  | .element tag attrs children transparent =>
    let (children, layers, flow) := placeImages options children
    if flow.onlyAbsolute then
      if transparent then (some (.element tag attrs children true), layers, { absolute := true })
      else
        (some (.element tag (attrs.addClass "absolute-container") children false), layers,
          { content := true })
    else (some (.element tag attrs children transparent), layers, { content := true })
  | other => (some other, [], { content := !other.isBlankText })

/-- Replaces the images in several nodes. -/
def placeImages (options : ImageOptions) : List Node → List Node × List Layer × Flow
  | [] => ([], [], {})
  | n :: rest =>
    let (kept, layers, flow) := placeImage options n
    let (nodes, more, others) := placeImages options rest
    (kept.toList ++ nodes, layers ++ more, flow.join others)

end

mutual

/-- Removes the paragraphs without content in a node. -/
def pruneIn : Node → Node
  | .element tag attrs children transparent => .element tag attrs (prune children) transparent
  | other => other

/-- Removes the paragraphs without content, at every depth. -/
def prune : List Node → List Node
  | [] => []
  | n :: rest => if isEmptyParagraph (pruneIn n) then prune rest else pruneIn n :: prune rest
where
  /-- True of a paragraph that holds nothing but blank text. -/
  isEmptyParagraph : Node → Bool
    | .element tag _ children _ => tag = "p" && children.all Node.isBlankText
    | _ => false

end

/-- The container of the background layers. -/
def layerContainer (layers : List Layer) (vertical : Bool) : Node :=
  let property :=
    if vertical || layers.any Layer.vertical then "--bg-rows" else "--bg-columns"
  let sizes := " ".intercalate (layers.map Layer.size)
  .element "div"
    ((Attributes.empty.addClass "advanced-bg").insert "style" (.text (property ++ ": " ++ sizes)))
    (layers.map Layer.node) false

/-- Replaces the images of a partition and appends the container of its background layers. -/
def applyImages (options : ImageOptions) (nodes : List Node) : List Node :=
  let (nodes, layers, _) := placeImages options nodes
  let nodes := prune nodes
  if layers.isEmpty then nodes else nodes ++ [layerContainer layers options.vertical]

end SlideDeck.Slide
