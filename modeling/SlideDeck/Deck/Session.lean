import SlideDeck.Deck.Compile
import SlideDeck.Highlight.Session

/-!
# The compilation of a deck as a session

What the compilation of a deck asks of the table of languages: one batch of requests for each page,
in the order of the pages. Decks that are compiled side by side are sessions with one table.
-/

namespace SlideDeck.Compiler

open Highlight (Session)

/-- Pages in order, with their findings. -/
def pagesSession (c : Compiler) (baseline : DirectiveMap) :
    List RawPage → Session (List (PageRecord × List Warning))
  | [] => .done []
  | page :: rest =>
    let draft := c.draft baseline page
    .ask draft.requests fun results =>
      (c.pagesSession draft.directives.next rest).map
        ((draft.record page.index results, languageWarnings page.index results) :: ·)

/-- The deck of a header and the pages behind it. -/
def documentOf (c : Compiler) (header : Header) (unclosed : List Warning)
    (pages : List (PageRecord × List Warning)) : Document :=
  let records := pages.map Prod.fst
  { title := c.titleOf header records
    metadata := header.metadata
    pages := records
    warnings := unclosed ++ pages.flatMap Prod.snd }

/-- A deck. -/
def session (c : Compiler) (source : List Char) : Session (Except DeckError Document) :=
  match readHeader c.yaml source with
  | .error cause => .done (.error (.header cause))
  | .ok header =>
    let split := splitPages header.body header.bodyLine
    (c.pagesSession (directivesOfMetadata header.metadata) split.pages).map
      fun pages => .ok (c.documentOf header split.warnings pages)

end SlideDeck.Compiler
