import SlideDeck.Json

/-!
# Options of a compilation

The options, their defaults, and their reading from a metadata value. A field that is missing takes
its default; a field of another kind than its own refuses the whole value.
-/

namespace SlideDeck

/-- How decks are compiled. -/
structure Options where
  /-- Inline images are loaded lazily. -/
  lazyImages : Bool := true
  /-- The languages whose code blocks become diagrams. -/
  diagramLanguages : List String := ["mermaid"]
  /-- The title of a deck that gives none. -/
  defaultTitle : String := "SlideMD"
  /-- The number of threads that highlight, when it is fixed. -/
  highlightThreads : Option Nat := none
deriving DecidableEq, Repr, Inhabited

namespace Options

/-- A truth value. -/
def bool? : Json → Option Bool
  | .bool b => some b
  | _ => none

/-- A list of texts. -/
def texts? : Json → Option (List String)
  | .array items => items.mapM Json.text?
  | _ => none

/-- A number of threads; the null value leaves it open. -/
def threads? : Json → Option (Option Nat)
  | .null => some none
  | .number (.int (.ofNat n)) => if n < Nat.pow 2 64 then some (some n) else none
  | _ => none

/-- Reads a field that may be missing. -/
def orDefault {α : Type} (read : Json → Option α) (field : Option Json) (default : α) : Option α :=
  match field with
  | some value => read value
  | none => some default

/-- The options given by up to four fields. -/
def ofFields? (lazyImages diagramLanguages defaultTitle highlightThreads : Option Json) :
    Option Options := do
  let defaults : Options := {}
  let lazyImages ← orDefault bool? lazyImages defaults.lazyImages
  let diagramLanguages ← orDefault texts? diagramLanguages defaults.diagramLanguages
  let defaultTitle ← orDefault Json.text? defaultTitle defaults.defaultTitle
  let highlightThreads ← orDefault threads? highlightThreads defaults.highlightThreads
  some { lazyImages, diagramLanguages, defaultTitle, highlightThreads }

/-- Reads options from an object by key, or from an array by place. -/
def ofJson? : Json → Option Options
  | .object entries =>
    ofFields? (Json.field? entries "lazyImages") (Json.field? entries "diagramLanguages")
      (Json.field? entries "defaultTitle") (Json.field? entries "highlightThreads")
  | .array items =>
    if items.length ≤ 4 then ofFields? items[0]? items[1]? items[2]? items[3]? else none
  | _ => none

end Options

end SlideDeck
