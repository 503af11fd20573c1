import SlideDeck.Deck.Host

/-!
# Batches of decks

Many decks are compiled with one set of options. A batch goes on after an error, or stops at the
first one; either way each deck that was compiled has an entry with its result or its error.
-/

namespace SlideDeck

open Highlight (LanguageTable)

/-- A deck of a batch. -/
structure BatchInput where
  /-- The name of the deck. -/
  id : String
  /-- The text of the deck. -/
  source : List Char

/-- What became of a deck of a batch. -/
structure BatchEntry where
  /-- The name of the deck. -/
  id : String
  /-- The deck, when it was compiled. -/
  result : Option HostDeck
  /-- Why it is refused. -/
  error : Option String
deriving Repr

/-- The counts of a batch. -/
structure BatchStats where
  /-- The decks that were handed over. -/
  total : UInt32
  /-- The decks that were compiled. -/
  succeeded : UInt32
  /-- The decks that were refused. -/
  failed : UInt32
deriving DecidableEq, Repr

/-- What a host may set for a batch. -/
structure BatchOptions where
  /-- The number of threads that compile decks side by side. -/
  maxThreads : Option UInt32 := none
  /-- Whether a batch goes on after an error. -/
  continueOnError : Option Bool := none
  /-- The options of every deck. -/
  options : Option HostOptions := none

/-- The entries of a batch and their counts. -/
structure BatchReport where
  /-- The entries in the order of the decks. -/
  entries : List BatchEntry
  /-- The counts. -/
  stats : BatchStats

namespace Compiler

/-- The entry of a deck of which it is known what became. -/
def entryOf (id : String) : Except DeckError Document → BatchEntry
  | .ok document => { id, result := some (.ofDocument document), error := none }
  | .error cause => { id, result := none, error := some cause.message }

/-- Compiles a deck of a batch. -/
def compileInput (c : Compiler) (languages : LanguageTable) (input : BatchInput) :
    BatchEntry × LanguageTable :=
  match c.compileFrom languages input.source with
  | .ok (document, languages) => (entryOf input.id (.ok document), languages)
  | .error cause => (entryOf input.id (.error cause), languages)

/-- Compiles all decks. -/
def compileAll (c : Compiler) (languages : LanguageTable) :
    List BatchInput → List BatchEntry × LanguageTable
  | [] => ([], languages)
  | input :: rest =>
    let (entry, languages) := c.compileInput languages input
    let (entries, languages) := c.compileAll languages rest
    (entry :: entries, languages)

/-- Compiles decks one by one and stops after the first that is refused. -/
def compileUntilError (c : Compiler) (languages : LanguageTable) :
    List BatchInput → List BatchEntry × LanguageTable
  | [] => ([], languages)
  | input :: rest =>
    let (entry, languages) := c.compileInput languages input
    if entry.error.isSome then ([entry], languages)
    else
      let (entries, languages) := c.compileUntilError languages rest
      (entry :: entries, languages)

end Compiler

/-- The report of entries, for a number of decks that were handed over. -/
def BatchReport.ofEntries (total : Nat) (entries : List BatchEntry) : BatchReport :=
  let failed : UInt32 := .ofNat (entries.countP fun entry => entry.error.isSome)
  { entries
    stats := { total := .ofNat total, succeeded := .ofNat entries.length - failed, failed } }

/-- Compiles a batch of decks with the languages that were tried before. -/
def Host.compileBatch (host : Host) (languages : LanguageTable) (inputs : List BatchInput)
    (options : Option BatchOptions) : Except Refusal BatchReport × LanguageTable :=
  let options := options.getD {}
  match host.compiler (options.options.getD {}).toOptions with
  | .error cause => (.error (.ofError cause), languages)
  | .ok c =>
    if options.continueOnError.getD true then
      match options.maxThreads.map fun threads => host.buildPool threads.toNat with
      | some (.error message) =>
        (.error { status := .genericFailure, reason := "deck pool: " ++ message }, languages)
      | _ =>
        let (entries, languages) := c.compileAll languages inputs
        (.ok (.ofEntries inputs.length entries), languages)
    else
      let (entries, languages) := c.compileUntilError languages inputs
      (.ok (.ofEntries inputs.length entries), languages)

end SlideDeck
