import SlideDeck.Dict
import SlideDeck.Slide.Node

/-!
# Highlighters

A highlighter loads languages and turns source text into markup. The built-in one knows a list of
languages and marks nothing but lines.
-/

namespace SlideDeck

/-- Why a highlighter refuses. -/
inductive HighlightError where
  /-- The language is not known. -/
  | unknownLanguage (lang : String)
  /-- The language is known, but the text could not be highlighted. -/
  | failed (lang message : String)
deriving DecidableEq, Repr

/-- The text of a refusal. -/
def HighlightError.message : HighlightError → String
  | unknownLanguage lang => "unknown language '" ++ lang ++ "'"
  | failed lang message => "failed to highlight " ++ lang ++ ": " ++ message

/-- A highlighter. -/
structure Highlighter where
  /-- Loads a language. -/
  load : String → Except HighlightError Unit
  /-- Highlights a text in a language. -/
  highlight (code lang : String) : Except HighlightError (List Slide.Node)

namespace Highlight

/-- The language of a block without one, and of a block whose language cannot be loaded. -/
def plaintext : String := "plaintext"

/-- Nodes with the text of a line feed between each two. -/
def withBreaks : List Slide.Node → List Slide.Node
  | [] => []
  | [n] => [n]
  | n :: rest => n :: .text "\n" :: withBreaks rest

/-- The element of one line. -/
def lineNode (line : List Char) : Slide.Node :=
  .classed "span" "line" [.text (String.ofList line)]

/-- A text marked by lines, as source of a language. -/
def plainLines (code lang : String) : List Slide.Node :=
  let lines := (Text.splitAtEvery (· = '\n') code.toList).map lineNode
  [.element "pre"
    ((Attributes.empty.addClass "shiki").insert "data-language" (.text lang))
    [.plain "code" (withBreaks lines)] false]

/-- The languages that the built-in highlighter knows. -/
def knownLanguages : List String :=
  ["plaintext", "text", "txt", "bash", "sh", "shell", "c", "cpp", "css", "diff", "go", "html",
    "java", "javascript", "js", "json", "jsx", "markdown", "md", "python", "py", "rust", "rs",
    "scss", "sql", "svelte", "toml", "ts", "tsx", "typescript", "xml", "yaml", "yml"]

/-- The highlighter that marks lines and knows the given languages. -/
def byLines (languages : List String) : Highlighter where
  load lang := if languages.contains lang then .ok () else .error (.unknownLanguage lang)
  highlight code lang := .ok (plainLines code lang)

/-- The built-in highlighter. -/
def builtin : Highlighter := byLines knownLanguages

end Highlight

end SlideDeck
