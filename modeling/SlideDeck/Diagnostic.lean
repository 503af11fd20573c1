/-!
# Diagnostics

Where something was found in a deck, what is reported without stopping, and why a deck is refused.
-/

namespace SlideDeck

/-- A place in a deck. -/
structure Location where
  /-- The page, from 1, when the place is known to be on one. -/
  page : Option Nat := none
  /-- The line, from 1. -/
  line : Nat
  /-- The column, from 1. -/
  column : Nat
deriving DecidableEq, Repr

/-- The text of a place. -/
def Location.text (l : Location) : String :=
  let place := toString l.line ++ ":" ++ toString l.column
  match l.page with
  | some page => "page " ++ toString page ++ " " ++ place
  | none => place

/-- A finding that does not stop compilation. -/
inductive Warning where
  /-- A code fence that stays open up to the end of the deck. -/
  | unclosedFence (location : Location) (marker : Char)
  /-- A code block in a language that cannot be loaded. -/
  | unknownLanguage (page : Nat) (language : String)
deriving DecidableEq, Repr

namespace Warning

/-- The name of the kind of a warning. -/
def kind : Warning → String
  | unclosedFence _ _ => "unclosedCodeFence"
  | unknownLanguage _ _ => "unknownLanguage"

/-- The page of a warning, when it is known. -/
def page? : Warning → Option Nat
  | unclosedFence location _ => location.page
  | unknownLanguage page _ => some page

/-- The text of a warning. -/
def text : Warning → String
  | unclosedFence location marker =>
    "Unclosed code fence (" ++ toString marker ++ ") opened at " ++ location.text
  | unknownLanguage page language =>
    "page " ++ toString page ++ ": unknown language '" ++ language ++ "', rendered as plaintext"

end Warning

/-- Why the header of a deck is refused. -/
inductive HeaderError where
  /-- The header is not closed. -/
  | unterminated
  /-- The header is no well-formed document, or has values that metadata cannot hold; with what the
  reading says about it. -/
  | malformed (message : String)
  /-- The header is not a mapping. -/
  | notMapping
deriving DecidableEq, Repr

/-- The text of a header error. -/
def HeaderError.message : HeaderError → String
  | unterminated => "Unterminated YAML frontmatter block: expected closing '---'"
  | malformed message => "Frontmatter parse error: " ++ message
  | notMapping => "Frontmatter must be a YAML mapping at the top level"

/-- Why a deck is refused. -/
inductive DeckError where
  /-- The header is refused. -/
  | header (cause : HeaderError)
  /-- A page is refused. -/
  | markdown (message : String) (location : Location)
  /-- Something happened that should not. -/
  | internal (message : String)
deriving DecidableEq, Repr

namespace DeckError

/-- The text of an error. -/
def message : DeckError → String
  | header cause => cause.message
  | markdown message location => "Parse error at " ++ location.text ++ ": " ++ message
  | internal message => "Internal error: " ++ message

/-- The error with its place put on a page, if it has a place. -/
def onPage (page : Nat) : DeckError → DeckError
  | markdown message location => .markdown message { location with page := some page }
  | other => other

end DeckError

end SlideDeck
