import SlideDeck.Slide.Node

/-!
# Markup

The serialization of slide nodes. Text and attribute values are escaped, so that none of them can
open a tag, end a value or start a template expression; braces are escaped for that last reason.
-/

namespace SlideDeck.Slide

/-- The markup of one character of text or of an attribute value. -/
def escapeChar (c : Char) : List Char :=
  match c with
  | '&' => "&amp;".toList
  | '<' => "&lt;".toList
  | '>' => "&gt;".toList
  | '"' => "&quot;".toList
  | '\x27' => "&#x27;".toList
  | '\x7b' => "&#123;".toList
  | '\x7d' => "&#125;".toList
  | c => [c]

/-- The markup of text. -/
def escapeChars (s : List Char) : List Char := s.flatMap escapeChar

/-- The markup of text. -/
def escape (s : String) : List Char := escapeChars s.toList

/-- The elements without content and without an end tag. -/
def voidTags : List String := ["img", "br", "hr", "input"]

/-- True of a name that can stand as an attribute name: it is not empty and has no blank, no
control character and none of the characters that end a name. -/
def isAttributeName (name : String) : Bool :=
  !name.isEmpty && name.toList.all fun c =>
    !Text.isBlank c && !Text.isControl c
      && !(c = '"' || c = '\x27' || c = '>' || c = '/' || c = '=' || c = '<')

/-- An attribute with a value in double quotes. -/
def quoted (key : String) (value : String) : List Char :=
  ' ' :: key.toList ++ ['=', '"'] ++ escape value ++ ['"']

/-- The markup of one attribute; `false` and names that cannot stand there are left out. -/
def attributeMarkup (entry : String × Value) : List Char :=
  if isAttributeName entry.1 then
    match entry.2 with
    | .text value => quoted entry.1 value
    | .flag true => ' ' :: entry.1.toList
    | .flag false => []
  else []

/-- The markup of an image that no pass has replaced. -/
def imageMarkup (i : Image) : List Char :=
  "<img".toList ++ quoted "src" i.url ++ quoted "alt" i.alt
    ++ (match i.title with
      | some title => quoted "title" title
      | none => [])
    ++ " />".toList

/-- The markup of a code block that no pass has replaced. -/
def codeMarkup (c : CodeBlock) : List Char :=
  "<pre><code".toList
    ++ (match c.lang with
      | some lang => " class=\"language-".toList ++ escape lang ++ ['"']
      | none => [])
    ++ ['>'] ++ escape c.value ++ "</code></pre>".toList

mutual

/-- The markup of a node as characters. -/
def markup : Node → List Char
  | .element tag attrs children transparent =>
    if transparent then markupOf children
    else
      let start := '<' :: tag.toList ++ attrs.entries.flatMap attributeMarkup
      if voidTags.contains tag then start ++ " />".toList
      else start ++ ['>'] ++ markupOf children ++ ['<', '/'] ++ tag.toList ++ ['>']
  | .text s => escape s
  | .raw s => s.toList
  | .comment _ => []
  | .image i => imageMarkup i
  | .code c => codeMarkup c
  | .placeholder _ => []

/-- The markup of several nodes as characters. -/
def markupOf : List Node → List Char
  | [] => []
  | n :: rest => markup n ++ markupOf rest

end

/-- The markup of a forest. -/
def render (nodes : List Node) : String := String.ofList (markupOf nodes)

end SlideDeck.Slide
