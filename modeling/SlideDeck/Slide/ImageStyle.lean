import SlideDeck.Attribute.Token

/-!
# Image annotations

The first word of an alternative text is the name of the image, and the rest is an annotation whose
words say how the image is shown: filters, a fit, a place, a size, repetition, and whether it is a
background layer, taken out of the flow or stacked vertically. Other words pass through as
attributes.
-/

namespace SlideDeck.Slide

/-- The filters with the value that a bare word stands for. -/
def filterDefaults : List (String × String) :=
  [("blur", "10px"), ("brightness", "1.5"), ("contrast", "2"), ("grayscale", "1"),
    ("hue-rotate", "180deg"), ("invert", "1"), ("opacity", "0.5"), ("saturate", "2"),
    ("sepia", "1"), ("drop-shadow", "2px 2px 5px rgba(0, 0, 0, 0.5)")]

/-- The words for a fit. -/
def fitWords : List String := ["cover", "contain", "fill"]

/-- The words for a place. -/
def positionWords : List String := ["top", "left", "right", "bottom", "center"]

/-- The sides that take an offset, in the order in which offsets are written. -/
def offsetSides : List String := ["top", "left", "right", "bottom"]

/-- The words for repetition. -/
def repeatWords : List String := ["repeat", "no-repeat", "repeat-x", "repeat-y", "space", "round"]

/-- How an image is shown. -/
structure ImageStyle where
  /-- The filters with their values in source order. -/
  filters : List String := []
  /-- The fit. -/
  fit : Option String := none
  /-- The place as a word. -/
  position : Option String := none
  /-- The horizontal place. -/
  x : Option String := none
  /-- The vertical place. -/
  y : Option String := none
  /-- The width. -/
  width : Option String := none
  /-- The height. -/
  height : Option String := none
  /-- Offsets from sides: top, left, right, bottom, and in source order for one side. -/
  offsets : List (String × String) := []
  /-- Repetition as a word. -/
  repetition : Option String := none
  /-- Horizontal repetition. -/
  repeatX : Option String := none
  /-- Vertical repetition. -/
  repeatY : Option String := none
  /-- The size of a background layer in its grid. -/
  size : Option String := none
  /-- True of a background layer. -/
  background : Bool := false
  /-- True of an image taken out of the flow. -/
  absolute : Bool := false
  /-- True when background layers stack vertically. -/
  vertical : Bool := false
  /-- What passes through as attributes, classes and ids. -/
  extra : Bag := {}
deriving DecidableEq, Repr, Inhabited

namespace ImageStyle

/-- Takes a word without a value. -/
def applyWord (s : ImageStyle) (key : String) : ImageStyle :=
  if fitWords.contains key then { s with fit := some key }
  else if positionWords.contains key then { s with position := some key }
  else if repeatWords.contains key then { s with repetition := some key }
  else if key = "bg" || key = "background" then { s with background := true }
  else if key = "absolute" then { s with absolute := true }
  else if key = "vertical" then { s with vertical := true }
  else { s with extra := { s.extra with attrs := s.extra.attrs.insert key (.flag true) } }

/-- Takes a word with a value. -/
def applyValue (s : ImageStyle) (key value : String) : ImageStyle :=
  if key = "x" then { s with x := some value }
  else if key = "y" then { s with y := some value }
  else if key = "w" then { s with width := some value }
  else if key = "h" then { s with height := some value }
  else if key = "rx" then { s with repeatX := some value }
  else if key = "ry" then { s with repeatY := some value }
  else if key = "size" then { s with size := some value }
  else if offsetSides.contains key then { s with offsets := s.offsets ++ [(key, value)] }
  else { s with extra := { s.extra with attrs := s.extra.attrs.insert key (.text value) } }

/-- Takes a key with or without a value; a filter takes its own default value. -/
def applyPair (s : ImageStyle) (key : String) (value : Option String) : ImageStyle :=
  match filterDefaults.find? fun f => f.1 = key with
  | some (name, default) =>
    { s with filters := s.filters ++ [name ++ "(" ++ value.getD default ++ ")"] }
  | none =>
    match value with
    | none => s.applyWord key
    | some value => s.applyValue key value

/-- Takes one token. -/
def apply (s : ImageStyle) : Token → ImageStyle
  | .className name => { s with extra := { s.extra with classes := s.extra.classes ++ [name] } }
  | .idName name => { s with extra := { s.extra with ids := s.extra.ids ++ [name] } }
  | .pair key value => s.applyPair key value

/-- Sorts offsets by their sides. -/
def sortOffsets (offsets : List (String × String)) : List (String × String) :=
  offsets.mergeSort fun o p => offsetSides.idxOf o.1 ≤ offsetSides.idxOf p.1

/-- Reads an annotation. -/
def parse (source : String) : ImageStyle :=
  let s := (tokenize source).foldl apply {}
  { s with offsets := sortOffsets s.offsets }

/-- The horizontal and vertical place, when one of them is given. -/
def axis? (s : ImageStyle) : Option String :=
  if s.x.isSome || s.y.isSome then some (s.x.getD "50%" ++ " " ++ s.y.getD "50%") else none

/-- True of an image that is taken out of the flow. -/
def isAbsolute (s : ImageStyle) : Bool := s.absolute || s.extra.classes.contains "absolute"

/-- A property of a style, if it has a value. -/
def property (name : String) (value : Option String) : List String :=
  match value with
  | some v => [name ++ ": " ++ v]
  | none => []

/-- The parts of the inline style of an image. -/
def inlineParts (s : ImageStyle) : List String :=
  property "filter" (if s.filters.isEmpty then none else some (" ".intercalate s.filters))
    ++ property "object-fit" s.fit
    ++ property "object-position" (s.axis?.orElse fun _ => s.position)
    ++ property "width" s.width
    ++ property "height" s.height
    ++ s.offsets.map (fun (side, value) => side ++ ": " ++ value)
    ++ (if s.absolute then ["position: absolute"] else [])

/-- The inline style of an image, if anything contributes to it. -/
def inlineStyle (s : ImageStyle) : Option String :=
  if s.inlineParts.isEmpty then none else some ("; ".intercalate s.inlineParts)

/-- The style of a background layer. -/
def backgroundStyle (s : ImageStyle) (url : String) : String :=
  let filter := if s.filters.isEmpty then [] else ["filter:" ++ " ".intercalate s.filters]
  let position := (s.axis?.orElse fun _ => s.position).getD "center"
  let size :=
    if s.width.isSome || s.height.isSome then
      ["background-size:" ++ s.width.getD "auto" ++ " " ++ s.height.getD "auto"]
    else
      match s.fit with
      | some fit => ["background-size:" ++ fit]
      | none => []
  let repetition :=
    if s.repeatX.isSome || s.repeatY.isSome then
      s.repeatX.getD "no-repeat" ++ " " ++ s.repeatY.getD "no-repeat"
    else s.repetition.getD "no-repeat"
  "; ".intercalate (["background-image:url(" ++ url ++ ")"] ++ filter
    ++ ["background-position:" ++ position] ++ size ++ ["background-repeat:" ++ repetition])

end ImageStyle

/-- The name at the start of an alternative text and the annotation behind it. -/
def splitAlt (alt : String) : String × String :=
  match Text.cutAtFirst Text.isBlank (Text.trim alt.toList) with
  | some (name, _, rest) => (String.ofList name, String.ofList (Text.trimStart rest))
  | none => (String.ofList (Text.trim alt.toList), "")

end SlideDeck.Slide
