/-!
# Images and code blocks

The two kinds of content that a page carries from its source to the passes that replace them.
-/

namespace SlideDeck

/-- An image that is not yet classified. -/
structure Image where
  /-- Where the image is found. -/
  url : String
  /-- The alternative text with all its annotation tokens. -/
  alt : String
  /-- The title. -/
  title : Option String := none
deriving DecidableEq, Repr, Inhabited

/-- A code block that is not yet wrapped. -/
structure CodeBlock where
  /-- The source text. -/
  value : String
  /-- The language. -/
  lang : Option String := none
  /-- The words behind the language. -/
  info : Option String := none
deriving DecidableEq, Repr, Inhabited

end SlideDeck
