import SlideDeck.Deck.Options
import SlideDeck.Header
import SlideDeck.Highlight.Request
import SlideDeck.Page.Split
import SlideDeck.Slide.Comments
import SlideDeck.Slide.Images
import SlideDeck.Slide.Lower
import SlideDeck.Slide.Partition
import SlideDeck.Slide.Render
import SlideDeck.Slide.Steps

/-!
# Compiling a deck

A deck is compiled page after page. Each page takes the directives and the language table that the
page before it left, and gives a record, its warnings, and what it leaves to the next page. How
Markdown and the YAML of a header are read and how code is highlighted are parts of the compiler.
-/

namespace SlideDeck

/-- What the compilation of a deck depends on. -/
structure Compiler where
  /-- The options. -/
  options : Options
  /-- The highlighter. -/
  highlighter : Highlighter
  /-- The reading of the Markdown of one page. -/
  parse : List Char → Markdown.Node
  /-- The reading of the YAML of a header, which says what is wrong with what it refuses. -/
  yaml : String → Except String Json

/-- A compiled page. -/
structure PageRecord where
  /-- The number of the page, from 1. -/
  index : Nat
  /-- The markup of the page. -/
  content : String
  /-- The resolved directives. -/
  directives : DirectiveMap
  /-- The class list of the section of the page. -/
  className : String
  /-- The inline style of the section. -/
  style : Option String
  /-- How the page is split. -/
  split : SplitInfo
  /-- The stepped elements. -/
  steps : Slide.StepRegistry
  /-- The speaker note. -/
  note : Option String
  /-- The text of the first heading of rank 1, if it is the title of the page. -/
  heading : Option String
deriving Repr

/-- A compiled page and what it leaves to the next one. -/
structure PageResult where
  /-- The page. -/
  record : PageRecord
  /-- The findings on the page. -/
  warnings : List Warning
  /-- The directives that the next page starts from. -/
  next : DirectiveMap
  /-- The languages tried so far. -/
  languages : Highlight.LanguageTable

/-- A compiled deck. -/
structure Document where
  /-- The title. -/
  title : String
  /-- What the header says. -/
  metadata : Metadata
  /-- The pages in order. -/
  pages : List PageRecord
  /-- The findings in order. -/
  warnings : List Warning

/-- The text of the first heading of rank 1 in a page, unless that heading is blank. -/
def firstHeading? (nodes : List Slide.Node) : Option String := do
  let heading ← Slide.Node.findIn? "h1" nodes
  let text := Text.trim (Slide.Node.textContents heading.children).toList
  if text.isEmpty then none else some (String.ofList text)

/-- Replaces the images of each partition and queues its code blocks. -/
def preparePartitions (images : Slide.ImageOptions) (diagrams : List String) :
    List Slide.Partition → List Highlight.Request →
      List Slide.Partition × List Highlight.Request
  | [], queue => ([], queue)
  | p :: rest, queue =>
    let (children, queue) :=
      Highlight.wrapAll diagrams (Slide.applyImages images p.children) queue
    let (rest, queue) := preparePartitions images diagrams rest queue
    ({ p with children } :: rest, queue)

/-- The warnings that results of highlighting give rise to on a page. -/
def languageWarnings (page : Nat) (results : List Highlight.Result) : List Warning :=
  results.filterMap fun r => r.unknown.map fun lang => .unknownLanguage page lang

/-- The directives of a page with the sizes of its partitions, if it is split. -/
def assignSplitSize (split : SplitInfo) (directives : PageDirectives) : PageDirectives :=
  match split.size with
  | some size => directives.assignIn .page "splitSize" (.text size)
  | none => directives

/-- A page before its code is highlighted. -/
structure PageDraft where
  /-- The text of its first heading of rank 1. -/
  heading : Option String
  /-- The directives assigned on it. -/
  directives : PageDirectives
  /-- How it is split. -/
  split : SplitInfo
  /-- Its nodes, with placeholders for highlighted code. -/
  nodes : List Slide.Node
  /-- The code to highlight. -/
  requests : List Highlight.Request

/-- The record of a page whose code was highlighted. -/
def PageDraft.record (draft : PageDraft) (index : Nat) (results : List Highlight.Result) :
    PageRecord :=
  let spliced := Highlight.splice draft.nodes (results.map fun r => (r.handle, r.nodes))
  let (stepped, steps) := Slide.collectSteps index spliced
  let resolved := draft.directives.resolved
  let frame := Slide.Frame.ofPage resolved draft.split
  { index
    content := Slide.render [frame.wrap index stepped]
    directives := resolved
    className := frame.className
    style := frame.style
    split := draft.split
    steps
    note := Slide.note? resolved
    heading := draft.heading }

namespace Compiler

/-- Works a page over up to the point where its code is highlighted. -/
def draft (c : Compiler) (baseline : DirectiveMap) (page : RawPage) : PageDraft :=
  let lowered := Slide.lower (c.parse page.text)
  let (nodes, directives) := Slide.applyComments lowered (PageDirectives.start baseline)
  let layout := Slide.SplitLayout.ofNodes nodes
  let (partitions, requests) :=
    preparePartitions { lazy := c.options.lazyImages, vertical := layout.vertical }
      c.options.diagramLanguages layout.partitions []
  { heading := firstHeading? nodes
    directives := assignSplitSize layout.info directives
    split := layout.info
    nodes := { layout with partitions }.toNodes
    requests }

/-- Compiles one page from the directives and the language table that the page before it left. -/
def compilePage (c : Compiler) (baseline : DirectiveMap) (languages : Highlight.LanguageTable)
    (page : RawPage) : PageResult :=
  let draft := c.draft baseline page
  let (results, languages) := Highlight.resolveAll c.highlighter languages draft.requests
  { record := draft.record page.index results
    warnings := languageWarnings page.index results
    next := draft.directives.next
    languages }

/-- Compiles pages in order. -/
def compilePages (c : Compiler) (baseline : DirectiveMap) (languages : Highlight.LanguageTable) :
    List RawPage → List PageResult
  | [] => []
  | page :: rest =>
    let result := c.compilePage baseline languages page
    result :: compilePages c result.next result.languages rest

/-- The title of a deck: the one of its header, the heading of its first page, or the default. -/
def titleOf (c : Compiler) (header : Header) (pages : List PageRecord) : String :=
  (header.title?.orElse fun _ => pages.head?.bind PageRecord.heading).getD c.options.defaultTitle

/-- The languages that are known behind pages, from those known before them. -/
def languagesAfter (languages : Highlight.LanguageTable) (results : List PageResult) :
    Highlight.LanguageTable :=
  (results.getLast?.map PageResult.languages).getD languages

/-- Compiles what stands behind a header, with the languages that earlier decks have tried. -/
def compileBody (c : Compiler) (languages : Highlight.LanguageTable) (header : Header) :
    Document × Highlight.LanguageTable :=
  let split := splitPages header.body header.bodyLine
  let results := c.compilePages (directivesOfMetadata header.metadata) languages split.pages
  let pages := results.map PageResult.record
  ({ title := c.titleOf header pages
     metadata := header.metadata
     pages
     warnings := split.warnings ++ results.flatMap PageResult.warnings },
    languagesAfter languages results)

/-- Compiles a deck with the languages that earlier decks have tried. -/
def compileFrom (c : Compiler) (languages : Highlight.LanguageTable) (source : List Char) :
    Except DeckError (Document × Highlight.LanguageTable) :=
  match readHeader c.yaml source with
  | .ok header => .ok (c.compileBody languages header)
  | .error cause => .error (.header cause)

/-- Compiles a deck with no languages tried before. -/
def compile (c : Compiler) (source : List Char) : Except DeckError Document :=
  (c.compileFrom Dict.empty source).map Prod.fst

end Compiler

end SlideDeck
