import SlideDeck.Attribute.Token
import SlideDeck.Highlight.Basic

/-!
# Requests for highlighting

A code block in a diagram language becomes a `pre` element for a script of the page. Every other
code block becomes a container with a placeholder, and a request for its markup is queued; the
number of a request is its place in the queue. Requests are resolved in order with a table of the
languages that were tried before, and their markup is put in the place of the placeholders.
-/

namespace SlideDeck.Highlight

open Slide (Node)

/-- A queued code block. -/
structure Request where
  /-- The number of the placeholder. -/
  handle : Nat
  /-- The source text. -/
  code : String
  /-- The language. -/
  lang : String
deriving DecidableEq, Repr

/-- The language of a code block. -/
def languageOf (c : CodeBlock) : String :=
  match c.lang with
  | some lang => if lang.isEmpty then plaintext else lang
  | none => plaintext

/-- The element of a code block in a diagram language. -/
def diagram (c : CodeBlock) : Node :=
  let attrs := Attributes.empty.addClass (languageOf c)
  .element "pre" (attrs.merge (Bag.parse (c.info.getD ""))) [.text c.value] false

/-- The container of a code block around its highlighted markup. -/
def container (c : CodeBlock) (inside : List Node) : Node :=
  let lang := languageOf c
  let attrs := (Attributes.empty.addClass "code-container").addClass ("language-" ++ lang)
  .element "div" (attrs.merge (Bag.parse (c.info.getD "")))
    ([.raw "<button class=\"copy\"></button>", .classed "span" "lang" [.text lang]] ++ inside) false

mutual

/-- Wraps the code blocks in a node and appends their requests to the queue. -/
def wrap (diagrams : List String) : Node → List Request → Node × List Request
  | .code c, queue =>
    if diagrams.contains (languageOf c) then (diagram c, queue)
    else
      let handle := queue.length
      (container c [.placeholder handle],
        queue ++ [{ handle, code := c.value, lang := languageOf c }])
  | .element tag attrs children transparent, queue =>
    let (children, queue) := wrapAll diagrams children queue
    (.element tag attrs children transparent, queue)
  | other, queue => (other, queue)

/-- Wraps the code blocks in several nodes. -/
def wrapAll (diagrams : List String) : List Node → List Request → List Node × List Request
  | [], queue => ([], queue)
  | n :: rest, queue =>
    let (n, queue) := wrap diagrams n queue
    let (rest, queue) := wrapAll diagrams rest queue
    (n :: rest, queue)

end

/-- The languages that were tried, with whether they could be loaded. -/
abbrev LanguageTable := Dict String Bool

/-- Whether a language is available, and the table after it was tried; it is loaded only when the
table does not know it. -/
def ensure (h : Highlighter) (table : LanguageTable) (lang : String) : Bool × LanguageTable :=
  match table.get? lang with
  | some available => (available, table)
  | none =>
    let available := match h.load lang with
      | .ok () => true
      | .error _ => false
    (available, table.insert lang available)

/-- The result of a request. -/
structure Result where
  /-- The number of the placeholder. -/
  handle : Nat
  /-- The markup. -/
  nodes : List Node
  /-- The language that the highlighter was asked for. -/
  used : String
  /-- The requested language, when it could not be loaded. -/
  unknown : Option String
deriving Repr

/-- The markup of a text in an available language; a failure gives marked lines. -/
def markup (h : Highlighter) (code lang : String) : List Node :=
  match h.highlight code lang with
  | .ok nodes => nodes
  | .error _ => plainLines code plaintext

/-- Resolves one request. -/
def resolve (h : Highlighter) (table : LanguageTable) (r : Request) : Result × LanguageTable :=
  if r.lang = plaintext then
    ({ handle := r.handle, nodes := markup h r.code r.lang, used := r.lang, unknown := none },
      table)
  else
    let (available, table) := ensure h table r.lang
    let used := if available then r.lang else plaintext
    ({ handle := r.handle, nodes := markup h r.code used, used
       unknown := if available then none else some r.lang }, table)

/-- Resolves requests in order. -/
def resolveAll (h : Highlighter) (table : LanguageTable) :
    List Request → List Result × LanguageTable
  | [] => ([], table)
  | r :: rest =>
    let (result, table) := resolve h table r
    let (results, table) := resolveAll h table rest
    (result :: results, table)

/-- Markup by the number of its placeholder. -/
abbrev Replacements := Dict Nat (List Node)

mutual

/-- Puts markup in the places of the placeholders in a node. The first placeholder of a number takes
the markup, later ones and those without markup vanish, and markup that was put in is not
searched. -/
def spliceNode : Node → Replacements → List Node × Replacements
  | .placeholder handle, found => ((found.get? handle).getD [], found.erase handle)
  | .element tag attrs children transparent, found =>
    let (children, found) := spliceNodes children found
    ([.element tag attrs children transparent], found)
  | other, found => ([other], found)

/-- Puts markup in the places of the placeholders in several nodes. -/
def spliceNodes : List Node → Replacements → List Node × Replacements
  | [], found => ([], found)
  | n :: rest, found =>
    let (nodes, found) := spliceNode n found
    let (others, found) := spliceNodes rest found
    (nodes ++ others, found)

end

/-- Puts the markup of numbered results in the places of their placeholders; of two results with one
number the last counts. -/
def splice (nodes : List Node) (results : List (Nat × List Node)) : List Node :=
  (spliceNodes nodes (Dict.ofList results)).1

end SlideDeck.Highlight
