import SlideDeck.Deck.Compile

/-!
# What a host sees

A host hands over sources and options whose fields may be missing, and gets decks with numbers of 32
bits. Reading a header alone never fails: an error is part of the answer. Compiling a deck is
refused with a status and a reason. All compilations of a host share one table of languages.
-/

namespace SlideDeck

/-- What a host may set for a compilation. -/
structure HostOptions where
  /-- Inline images are loaded lazily. -/
  lazyImages : Option Bool := none
  /-- The languages whose code blocks become diagrams. -/
  diagramLanguages : Option (List String) := none
  /-- The title of a deck that gives none. -/
  defaultTitle : Option String := none
  /-- The number of threads that highlight. -/
  highlightThreads : Option UInt32 := none
deriving DecidableEq, Repr, Inhabited

/-- The options with the defaults in the places that are not set. -/
def HostOptions.toOptions (o : HostOptions) : Options :=
  let defaults : Options := {}
  { lazyImages := o.lazyImages.getD defaults.lazyImages
    diagramLanguages := o.diagramLanguages.getD defaults.diagramLanguages
    defaultTitle := o.defaultTitle.getD defaults.defaultTitle
    highlightThreads := o.highlightThreads.map UInt32.toNat }

/-- A compiled page as a host sees it. -/
structure HostPage where
  /-- The number of the page, from 1. -/
  index : UInt32
  /-- The markup of the page. -/
  content : String
  /-- The class list of the section of the page. -/
  className : String
  /-- The inline style of the section. -/
  style : Option String
  /-- The resolved directives. -/
  directives : DirectiveMap
  /-- How the page is split. -/
  split : SplitInfo
  /-- The greatest step. -/
  maxStep : Nat
  /-- The stepped elements. -/
  steps : List Slide.StepEntry
  /-- The speaker note. -/
  note : Option String
deriving Repr

/-- A warning as a host sees it. -/
structure HostWarning where
  /-- The name of its kind. -/
  kind : String
  /-- The page, when it is known. -/
  page : Option UInt32
  /-- The text. -/
  message : String
deriving DecidableEq, Repr

/-- A compiled deck as a host sees it. -/
structure HostDeck where
  /-- The title. -/
  title : String
  /-- What the header says. -/
  metadata : Metadata
  /-- The pages in order. -/
  pages : List HostPage
  /-- The warnings in order. -/
  warnings : List HostWarning
deriving Repr

/-- A page for a host. -/
def HostPage.ofRecord (r : PageRecord) : HostPage where
  index := .ofNat r.index
  content := r.content
  className := r.className
  style := r.style
  directives := r.directives
  split := r.split
  maxStep := r.steps.maxStep
  steps := r.steps.entries
  note := r.note

/-- A warning for a host. -/
def HostWarning.ofWarning (w : Warning) : HostWarning where
  kind := w.kind
  page := w.page?.map .ofNat
  message := w.text

/-- A deck for a host. -/
def HostDeck.ofDocument (d : Document) : HostDeck where
  title := d.title
  metadata := d.metadata
  pages := d.pages.map .ofRecord
  warnings := d.warnings.map .ofWarning

/-- Whose fault a refusal is. -/
inductive Status where
  /-- What was handed over cannot be worked on. -/
  | invalidArgument
  /-- Anything else. -/
  | genericFailure
deriving DecidableEq, Repr

/-- A call that is refused. -/
structure Refusal where
  /-- Whose fault it is. -/
  status : Status
  /-- The text that a host shows. -/
  reason : String
deriving DecidableEq, Repr

/-- The refusal of a deck. -/
def Refusal.ofError : DeckError → Refusal
  | .header cause => { status := .invalidArgument, reason := cause.message }
  | .markdown message location =>
    { status := .invalidArgument
      reason := "Markdown parser error at " ++ location.text ++ ": " ++ message }
  | .internal message =>
    { status := .genericFailure, reason := "Internal error: " ++ message }

/-- The header of a deck as a host sees it. -/
structure HeaderReport where
  /-- What the header says, nothing if it is refused. -/
  metadata : Metadata
  /-- Why it is refused. -/
  errors : List String
deriving Repr

/-- What the calls of a host depend on. -/
structure Host where
  /-- The reading of the Markdown of one page. -/
  parse : List Char → Markdown.Node
  /-- The reading of the YAML of a header, which says what is wrong with what it refuses. -/
  yaml : String → Except String Json
  /-- Sets up a number of threads, or says why it cannot. -/
  buildPool : Nat → Except String Unit

namespace Host

/-- Reads the header of a deck without compiling the deck. -/
def reportHeader (host : Host) (source : List Char) : HeaderReport :=
  match readHeader host.yaml source with
  | .ok header => { metadata := header.metadata, errors := [] }
  | .error cause => { metadata := [], errors := [cause.message] }

/-- The compiler with the built-in highlighter. -/
def engine (host : Host) (options : Options) : Compiler :=
  { options, highlighter := Highlight.builtin, parse := host.parse, yaml := host.yaml }

/-- The compiler behind the threads that it needs. -/
def compiler (host : Host) (options : Options) : Except DeckError Compiler :=
  match options.highlightThreads.map host.buildPool with
  | some (.error message) => .error (.internal ("highlight pool: " ++ message))
  | _ => .ok (host.engine options)

/-- Compiles a deck with the languages that were tried before. -/
def compileSlides (host : Host) (languages : Highlight.LanguageTable) (source : List Char)
    (options : Option HostOptions) : Except Refusal HostDeck × Highlight.LanguageTable :=
  match host.compiler (options.getD {}).toOptions with
  | .error cause => (.error (.ofError cause), languages)
  | .ok c =>
    match c.compileFrom languages source with
    | .error cause => (.error (.ofError cause), languages)
    | .ok (document, languages) => (.ok (.ofDocument document), languages)

end Host

end SlideDeck
