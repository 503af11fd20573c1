import SlideDeck.Deck.Batch
import SlideDeck.Proofs.Deck.Session

/-!
# The calls of a host agree

A deck comes to the same in a batch, in a call of its own, and side by side with other decks, and it
is refused exactly when its header is. A batch that stops early has the entries of the whole batch
up to the first error.
-/

namespace SlideDeck

open Highlight (Agrees LanguageTable Pool Session builtin)

/-- The entry of a deck by what compiling it in a call of its own returns. -/
def BatchEntry.ofCall (id : String) : Except Refusal HostDeck → BatchEntry
  | .ok deck => { id, result := some deck, error := none }
  | .error refusal => { id, result := none, error := some refusal.reason }

/-- The shortest part in front of a list that ends at an error, or all of it when there is none. -/
def BatchEntry.UpToError (all entries : List BatchEntry) : Prop :=
  (∃ before entry after, all = before ++ entry :: after ∧ (∀ e ∈ before, e.error = none) ∧
    entry.error.isSome ∧ entries = before ++ [entry]) ∨
  ((∀ e ∈ all, e.error = none) ∧ entries = all)

namespace BatchEntry

theorem upToError_cons_of_error {entry : BatchEntry} (failed : entry.error.isSome)
    (rest : List BatchEntry) : UpToError (entry :: rest) [entry] :=
  .inl ⟨[], entry, rest, rfl, fun _ member => (List.not_mem_nil member).elim, failed, rfl⟩

theorem UpToError.cons {entry : BatchEntry} (fine : entry.error = none) {all entries}
    (up : UpToError all entries) : UpToError (entry :: all) (entry :: entries) := by
  have with_entry {l : List BatchEntry} (rest : ∀ e ∈ l, e.error = none) :
      ∀ e ∈ entry :: l, e.error = none := by
    intro e member
    rcases List.mem_cons.mp member with rfl | member
    · exact fine
    · exact rest e member
  rcases up with ⟨before, last, after, rfl, quiet, failed, rfl⟩ | ⟨quiet, rfl⟩
  · exact .inl ⟨entry :: before, last, after, rfl, with_entry quiet, failed, rfl⟩
  · exact .inr ⟨with_entry quiet, rfl⟩

theorem UpToError.prefix {all entries} (up : UpToError all entries) : entries <+: all := by
  rcases up with ⟨before, last, after, rfl, -, -, rfl⟩ | ⟨-, rfl⟩
  · exact ⟨after, by simp⟩
  · exact List.prefix_rfl

end BatchEntry

namespace Compiler

/-- The entry of a deck that is compiled alone. -/
def entryAlone (c : Compiler) (input : BatchInput) : BatchEntry :=
  entryOf input.id ((c.session input.source).answer c.highlighter)

theorem compileInput_of_agrees (c : Compiler) {languages : LanguageTable}
    (agrees : Agrees c.highlighter languages) (input : BatchInput) :
    (c.compileInput languages input).1 = c.entryAlone input ∧
      Agrees c.highlighter (c.compileInput languages input).2 := by
  unfold compileInput entryAlone
  rcases c.compileFrom_cases agrees input.source with
    ⟨document, left, compiled, answer, still⟩ | ⟨cause, refused, answer, -⟩
  · rw [compiled, answer]
    exact ⟨rfl, still⟩
  · rw [refused, answer]
    exact ⟨rfl, agrees⟩

theorem compileAll_of_agrees (c : Compiler) {languages : LanguageTable}
    (agrees : Agrees c.highlighter languages) (inputs : List BatchInput) :
    (c.compileAll languages inputs).1 = inputs.map c.entryAlone ∧
      Agrees c.highlighter (c.compileAll languages inputs).2 := by
  -- the table that a deck leaves agrees again, so the next deck may start from it
  induction inputs generalizing languages with
  | nil => exact ⟨rfl, agrees⟩
  | cons input rest ih =>
      obtain ⟨entry, still⟩ := c.compileInput_of_agrees agrees input
      obtain ⟨entries, left⟩ := ih still
      simp only [compileAll, entry, entries, List.map_cons]
      exact ⟨trivial, left⟩

theorem compileUntilError_of_agrees (c : Compiler) {languages : LanguageTable}
    (agrees : Agrees c.highlighter languages) (inputs : List BatchInput) :
    BatchEntry.UpToError (inputs.map c.entryAlone) (c.compileUntilError languages inputs).1 ∧
      Agrees c.highlighter (c.compileUntilError languages inputs).2 := by
  induction inputs generalizing languages with
  | nil => exact ⟨.inr ⟨fun _ member => (List.not_mem_nil member).elim, rfl⟩, agrees⟩
  | cons input rest ih =>
      obtain ⟨entry, still⟩ := c.compileInput_of_agrees agrees input
      obtain ⟨entries, left⟩ := ih still
      simp only [compileUntilError, entry, List.map_cons]
      by_cases failed : (c.entryAlone input).error.isSome
      · rw [if_pos failed]
        exact ⟨BatchEntry.upToError_cons_of_error failed _, still⟩
      · rw [if_neg failed]
        exact ⟨entries.cons (Option.not_isSome_iff_eq_none.mp failed), left⟩

end Compiler

namespace Host

/-- The entry of a deck of a batch by a call of its own. -/
def entryByCall (host : Host) (languages : LanguageTable) (options : Option HostOptions)
    (input : BatchInput) : BatchEntry :=
  .ofCall input.id (host.compileSlides languages input.source options).1

variable {host : Host} {languages : LanguageTable}

theorem compiler_eq_ok (pools : ∀ threads, host.buildPool threads = .ok ()) (options : Options) :
    host.compiler options = .ok (host.engine options) := by
  unfold compiler
  cases options.highlightThreads with
  | none => rfl
  | some threads => simp only [Option.map_some, pools]

/-- A header that the reading of YAML refuses is reported with the words of this reading. -/
theorem errors_reportHeader_of_refused {source block front body : List Char} {words : String}
    (found : frame source = .found block front body) (written : Text.isBlankText block = false)
    (refused : host.yaml (String.ofList block) = .error words) :
    (host.reportHeader source).errors = ["Frontmatter parse error: " ++ words] := by
  have said : readHeaderBlock host.yaml block = .error (.malformed words) := by
    rw [readHeaderBlock, written, refused, if_neg Bool.false_ne_true]
  have read : readHeader host.yaml source = .error (.malformed words) := by
    simp only [readHeader, found, said, bind, Except.bind]
  rw [reportHeader, read]
  rfl

/-- A call of its own compiles the deck, or is refused with the text that reading the header alone
reports. -/
theorem compileSlides_cases (pools : ∀ threads, host.buildPool threads = .ok ())
    (agrees : Agrees builtin languages) (source : List Char) (options : Option HostOptions) :
    (∃ document, (host.compileSlides languages source options).1 = .ok (.ofDocument document) ∧
      ((host.engine (options.getD {}).toOptions).session source).answer builtin = .ok document ∧
      (host.reportHeader source).errors = []) ∨
    ∃ refusal cause, (host.compileSlides languages source options).1 = .error refusal ∧
      ((host.engine (options.getD {}).toOptions).session source).answer builtin = .error cause ∧
      refusal.reason = cause.message ∧ (host.reportHeader source).errors = [refusal.reason] := by
  unfold compileSlides
  rw [compiler_eq_ok pools]
  rcases (host.engine (options.getD {}).toOptions).compileFrom_cases agrees source with
    ⟨document, left, compiled, answer, -⟩ | ⟨cause, refused, answer, read⟩
  · obtain ⟨header, read, -⟩ := Compiler.compileFrom_eq_ok_iff.mp compiled
    have read_alone : readHeader host.yaml source = .ok header := read
    have quiet : (host.reportHeader source).errors = [] := by simp only [reportHeader, read_alone]
    simp only [compiled]
    exact .inl ⟨document, rfl, answer, quiet⟩
  · have read_alone : readHeader host.yaml source = .error cause := read
    have told : (host.reportHeader source).errors = [cause.message] := by
      simp only [reportHeader, read_alone]
    simp only [refused]
    exact .inr ⟨_, _, rfl, answer, rfl, told⟩

theorem entryByCall_eq (pools : ∀ threads, host.buildPool threads = .ok ())
    (agrees : Agrees builtin languages) (options : Option HostOptions) (input : BatchInput) :
    host.entryByCall languages options input =
      (host.engine (options.getD {}).toOptions).entryAlone input := by
  unfold entryByCall Compiler.entryAlone
  rcases compileSlides_cases pools agrees input.source options with
    ⟨document, compiled, answer, -⟩ | ⟨refusal, cause, refused, answer, reason, -⟩
  · rw [compiled]
    exact congrArg (Compiler.entryOf input.id) answer.symm
  · rw [refused, BatchEntry.ofCall, reason]
    exact congrArg (Compiler.entryOf input.id) answer.symm

end Host

/-! ## Reports -/

theorem BatchReport.stats_ofEntries {total : Nat} (few : total < 2 ^ 32)
    {entries : List BatchEntry} (short : entries.length ≤ total) :
    (ofEntries total entries).stats.total.toNat = total ∧
      (ofEntries total entries).stats.failed.toNat =
        entries.countP (fun entry => entry.error.isSome) ∧
      (ofEntries total entries).stats.succeeded.toNat +
        (ofEntries total entries).stats.failed.toNat = entries.length := by
  have failed_le : entries.countP (fun entry => entry.error.isSome) ≤ entries.length :=
    List.countP_le_length
  have failed : (UInt32.ofNat (entries.countP fun entry => entry.error.isSome)).toNat =
      entries.countP fun entry => entry.error.isSome :=
    UInt32.toNat_ofNat_of_lt' (Nat.lt_of_le_of_lt (Nat.le_trans failed_le short) few)
  have listed : (UInt32.ofNat entries.length).toNat = entries.length :=
    UInt32.toNat_ofNat_of_lt' (Nat.lt_of_le_of_lt short few)
  have difference : (UInt32.ofNat entries.length -
      UInt32.ofNat (entries.countP fun entry => entry.error.isSome)).toNat =
        entries.length - entries.countP fun entry => entry.error.isSome := by
    rw [UInt32.toNat_sub_of_le _ _ (UInt32.le_iff_toNat_le.mpr (by omega)), listed, failed]
  refine ⟨UInt32.toNat_ofNat_of_lt' few, failed, ?_⟩
  simp only [ofEntries]
  omega

theorem Compiler.isSome_result_entryAlone (c : Compiler) (input : BatchInput) :
    (c.entryAlone input).result.isSome = (c.entryAlone input).error.isNone := by
  unfold entryAlone
  cases (c.session input.source).answer c.highlighter <;> rfl

namespace Host

variable {host : Host} {languages other : LanguageTable}

/-- The compiler of the decks of a batch. -/
def batchEngine (host : Host) (options : Option BatchOptions) : Compiler :=
  host.engine ((options.getD {}).options.getD {}).toOptions

/-- True of a batch that goes on after an error. -/
def goesOn (options : Option BatchOptions) : Bool := (options.getD {}).continueOnError.getD true

/-- The entries of the decks of a batch by calls of their own. -/
def entriesByCall (host : Host) (languages : LanguageTable) (options : Option BatchOptions)
    (inputs : List BatchInput) : List BatchEntry :=
  inputs.map (host.entryByCall languages (options.getD {}).options)

/-- The decks of a batch side by side. -/
def sessions (host : Host) (options : Option BatchOptions) (inputs : List BatchInput) :
    List (Session (Except DeckError Document)) :=
  inputs.map fun input => (host.batchEngine options).session input.source

theorem compileBatch_eq_ok (pools : ∀ threads, host.buildPool threads = .ok ())
    (languages : LanguageTable) (inputs : List BatchInput) (options : Option BatchOptions) :
    host.compileBatch languages inputs options =
      let (entries, left) :=
        if goesOn options then (host.batchEngine options).compileAll languages inputs
        else (host.batchEngine options).compileUntilError languages inputs
      (.ok (.ofEntries inputs.length entries), left) := by
  unfold compileBatch goesOn
  simp only [compiler_eq_ok pools]
  split_ifs
  · cases (options.getD {}).maxThreads with
    | none => rfl
    | some threads =>
        simp only [Option.map_some, pools]
        rfl
  · rfl

theorem entriesByCall_eq (pools : ∀ threads, host.buildPool threads = .ok ())
    (agrees : Agrees builtin languages) (options : Option BatchOptions)
    (inputs : List BatchInput) :
    host.entriesByCall languages options inputs =
      inputs.map (host.batchEngine options).entryAlone :=
  List.map_congr_left fun input _ => entryByCall_eq pools agrees _ input

/-- The entries of a batch against those of the decks alone. -/
theorem exists_entries (pools : ∀ threads, host.buildPool threads = .ok ())
    (agrees : Agrees builtin languages) (inputs : List BatchInput)
    (options : Option BatchOptions) :
    ∃ entries left,
      host.compileBatch languages inputs options =
        (.ok (.ofEntries inputs.length entries), left) ∧ Agrees builtin left ∧
      (goesOn options = true → entries = inputs.map (host.batchEngine options).entryAlone) ∧
      (goesOn options = false →
        BatchEntry.UpToError (inputs.map (host.batchEngine options).entryAlone) entries) ∧
      entries <+: inputs.map (host.batchEngine options).entryAlone := by
  have same := compileBatch_eq_ok pools languages inputs options
  cases goes_on : goesOn options with
  | true =>
      obtain ⟨all, left⟩ := (host.batchEngine options).compileAll_of_agrees agrees inputs
      rw [goes_on] at same
      exact ⟨_, _, same, left, fun _ => all, nofun, all ▸ List.prefix_rfl⟩
  | false =>
      obtain ⟨up, left⟩ := (host.batchEngine options).compileUntilError_of_agrees agrees inputs
      rw [goes_on] at same
      exact ⟨_, _, same, left, nofun, fun _ => up, up.prefix⟩

/-- Decks side by side come, in any order of their sections, to the entries of the decks alone. -/
theorem run_sessions (agrees : Agrees builtin languages) (options : Option BatchOptions)
    (inputs : List BatchInput) {workers n : Nat} {pool : Pool (Except DeckError Document)}
    (run : Pool.Run builtin workers n (.start languages (host.sessions options inputs)) pool) :
    n ≤ ((host.sessions options inputs).map (Session.steps builtin)).sum ∧
    (0 < workers → (∃ pool', Pool.Step builtin workers pool pool') ∨
      ∃ values, pool.callers = values.map .finished ∧
        List.zipWith (fun input value => Compiler.entryOf input.id value) inputs values =
          inputs.map (host.batchEngine options).entryAlone) := by
  obtain ⟨-, answers, spent⟩ := run.keeps (Pool.sound_start agrees _)
  rw [Pool.steps_start] at spent
  refine ⟨Nat.le_trans (Nat.le_add_right _ _) spent, fun some_worker => ?_⟩
  rcases pool.finished_or_exists_step some_worker with finished | further
  · refine .inr ⟨_, Pool.callers_eq_of_finished (h := builtin) finished, ?_⟩
    rw [answers, Pool.answers_start, sessions, List.map_map, List.zipWith_map_right,
      List.zipWith_self]
    rfl
  · exact .inl further

/-- The three calls of a host agree, whatever the languages that were tried before. A batch that
goes on has for every deck the entry of a call of its own, in every order in which the decks share
the table; a batch that stops early has the entries up to the first error. A call of its own is
refused exactly when reading the header alone reports an error, with the same text; this text ends
in the words of the reading of YAML if they are about the header. -/
theorem compileBatch_agrees (pools : ∀ threads, host.buildPool threads = .ok ())
    (agrees : Agrees builtin languages) (other_agrees : Agrees builtin other)
    (inputs : List BatchInput) (few : inputs.length < 2 ^ 32) (options : Option BatchOptions) :
    ∃ report left, host.compileBatch languages inputs options = (.ok report, left) ∧
      Agrees builtin left ∧
      (goesOn options = true → report.entries = host.entriesByCall other options inputs) ∧
      (goesOn options = false →
        BatchEntry.UpToError (host.entriesByCall other options inputs) report.entries) ∧
      (∀ entry ∈ report.entries, entry.result.isSome = entry.error.isNone) ∧
      report.stats.total.toNat = inputs.length ∧
      report.stats.failed.toNat = report.entries.countP (fun entry => entry.error.isSome) ∧
      report.stats.succeeded.toNat + report.stats.failed.toNat = report.entries.length ∧
      (∀ source settings,
        (∃ deck, (host.compileSlides other source settings).1 = .ok deck ∧
          (host.reportHeader source).errors = []) ∨
        ∃ refusal, (host.compileSlides other source settings).1 = .error refusal ∧
          (host.reportHeader source).errors = [refusal.reason]) ∧
      (∀ source block front body words, frame source = .found block front body →
        Text.isBlankText block = false → host.yaml (String.ofList block) = .error words →
        (host.reportHeader source).errors = ["Frontmatter parse error: " ++ words]) ∧
      ∃ bound, ∀ workers n (pool : Pool (Except DeckError Document)),
        Pool.Run builtin workers n (.start languages (host.sessions options inputs)) pool →
        n ≤ bound ∧
        (0 < workers → (∃ pool', Pool.Step builtin workers pool pool') ∨
          ∃ values, pool.callers = values.map .finished ∧
            List.zipWith (fun input value => Compiler.entryOf input.id value) inputs values =
              host.entriesByCall other options inputs) := by
  -- the decks alone are what a call, a batch and a schedule are all compared with
  rw [entriesByCall_eq pools other_agrees]
  obtain ⟨entries, left, compiled, still, all, up, short⟩ :=
    exists_entries pools agrees inputs options
  have no_longer : entries.length ≤ inputs.length := by simpa using short.length_le
  obtain ⟨total, failed, sum⟩ := BatchReport.stats_ofEntries few no_longer
  refine ⟨_, left, compiled, still, all, up, fun entry member => ?_, total, failed, sum,
    fun source settings => ?_, fun _ _ _ _ _ => errors_reportHeader_of_refused, _,
    fun workers n pool run => run_sessions agrees options inputs run⟩
  · obtain ⟨input, -, rfl⟩ := List.mem_map.mp (short.subset member)
    exact Compiler.isSome_result_entryAlone _ input
  · rcases compileSlides_cases pools other_agrees source settings with
      ⟨document, answer, -, quiet⟩ | ⟨refusal, -, answer, -, -, told⟩
    · exact .inl ⟨_, answer, quiet⟩
    · exact .inr ⟨refusal, answer, told⟩

/-- Of three decks the second one has a header with one key twice, and the header of the third one
is not closed. The batch goes on, or stops at the second deck. -/
theorem compileBatch_agrees_stops :
    let words := "duplicate entry with key 1"
    let host : Host :=
      { parse := fun _ => .root []
        yaml := Yaml.reader fun _ => words
        buildPool := fun _ => .ok () }
    let twice := "---\n1: a\n1: b\n---\n".toList
    let inputs : List BatchInput := [⟨"a", "x".toList⟩, ⟨"twice", twice⟩, ⟨"open", "---\n".toList⟩]
    let refused := "Frontmatter parse error: duplicate entry with key 1"
    (∃ report left, host.compileBatch Dict.empty inputs none = (.ok report, left) ∧
      report.entries.map BatchEntry.error = [none, some refused,
        some "Unterminated YAML frontmatter block: expected closing '---'"] ∧
      report.stats.failed.toNat = 2) ∧
    (∃ report left,
      host.compileBatch Dict.empty inputs (some { continueOnError := some false }) =
        (.ok report, left) ∧
      report.entries.map BatchEntry.error = [none, some refused] ∧
      report.stats.total.toNat = 3 ∧
      report.stats.succeeded.toNat + report.stats.failed.toNat = 2) ∧
    (host.reportHeader twice).errors = [refused] ∧
    ∃ refusal, (host.compileSlides Dict.empty twice none).1 = .error refusal ∧
      refusal.reason = refused := by
  intro words host twice inputs refused
  have pools : ∀ threads, host.buildPool threads = .ok () := fun _ => rfl
  have untried := Highlight.agrees_empty builtin
  have few : inputs.length < 2 ^ 32 := by decide
  obtain ⟨all, left, goes_on, -, -, -, -, -, failed, -, calls, worded, -⟩ :=
    compileBatch_agrees pools untried untried inputs few none
  obtain ⟨short, left', stops, -, -, -, -, total, -, sum, -⟩ :=
    compileBatch_agrees pools untried untried inputs few (some { continueOnError := some false })
  have errors_of : ∀ {options report known errors},
      host.compileBatch Dict.empty inputs options = (.ok report, known) →
      ((host.compileBatch Dict.empty inputs options).1.toOption.map fun report =>
        report.entries.map BatchEntry.error) = some errors →
      report.entries.map BatchEntry.error = errors := by
    intro options report known errors compiled computed
    rw [compiled] at computed
    exact Option.some.inj computed
  have all_errors : all.entries.map BatchEntry.error = [none, some refused,
      some "Unterminated YAML frontmatter block: expected closing '---'"] :=
    errors_of goes_on (by decide +kernel)
  have short_errors : short.entries.map BatchEntry.error = [none, some refused] :=
    errors_of stops (by decide +kernel)
  have two_failed : all.entries.countP (fun entry => entry.error.isSome) = 2 := by
    have counted := List.countP_map (p := Option.isSome) (f := BatchEntry.error) (l := all.entries)
    rw [all_errors] at counted
    exact counted.symm
  have two_entries : short.entries.length = 2 := by
    simpa using congrArg List.length short_errors
  have refuses : host.yaml (String.ofList "1: a\n1: b".toList) = .error words := by
    have unread : Yaml.read? (String.ofList "1: a\n1: b".toList) = none :=
      Option.isNone_iff_eq_none.mp (by decide +kernel)
    simp only [host, Yaml.reader, unread]
  have told : (host.reportHeader twice).errors = [refused] :=
    worded twice "1: a\n1: b".toList twice [] words (by decide +kernel) (by decide) refuses
  refine ⟨⟨all, left, goes_on, all_errors, failed.trans two_failed⟩,
    ⟨short, left', stops, short_errors, total, sum.trans two_entries⟩, told, ?_⟩
  rcases calls twice none with ⟨deck, -, quiet⟩ | ⟨refusal, answer, same⟩
  · rw [told] at quiet
    cases quiet
  · rw [told] at same
    exact ⟨refusal, answer, (List.singleton_inj.mp same).symm⟩

end Host

end SlideDeck
