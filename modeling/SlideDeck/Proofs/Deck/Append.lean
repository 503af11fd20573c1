import SlideDeck.Deck.Compile
import SlideDeck.Proofs.Header.Framing
import SlideDeck.Proofs.Highlight.Table
import SlideDeck.Proofs.Page.Append
import SlideDeck.Yaml.Resolve

/-!
# Appending pages to a deck

Pages are compiled from the left, and a page hands on nothing but its directives and the table of
tried languages. Records do not depend on a table that agrees with the highlighter, so appending
pages to a deck leaves the records of its own pages as they are (`compileFrom_append`).
-/

namespace SlideDeck

namespace Compiler

open Highlight (Agrees LanguageTable)

/-- The directives that pages leave, over those they started from. -/
def directivesAfter (baseline : DirectiveMap) (results : List PageResult) : DirectiveMap :=
  (results.getLast?.map PageResult.next).getD baseline

/-- What a page gives that does not concern the table of languages. -/
def outcome (r : PageResult) : PageRecord × List Warning × DirectiveMap :=
  (r.record, r.warnings, r.next)

/-- What a page gives is decided without the table, if the table agrees with the highlighter. -/
theorem outcome_compilePage (c : Compiler) (baseline : DirectiveMap) {languages : LanguageTable}
    (agrees : Agrees c.highlighter languages) (page : RawPage) :
    outcome (c.compilePage baseline languages page) =
        outcome (c.compilePage baseline Dict.empty page) ∧
      Agrees c.highlighter (c.compilePage baseline languages page).languages := by
  obtain ⟨results, left⟩ :=
    Highlight.resolveAll_of_agrees agrees (c.draft baseline page).requests
  obtain ⟨alone, -⟩ := Highlight.resolveAll_of_agrees (Highlight.agrees_empty c.highlighter)
    (c.draft baseline page).requests
  refine ⟨?_, left⟩
  simp only [outcome, compilePage, results, alone]

theorem languagesAfter_cons (languages : LanguageTable) (r : PageResult)
    (results : List PageResult) :
    languagesAfter languages (r :: results) = languagesAfter r.languages results := by
  cases results.getLast? <;> simp_all [languagesAfter, List.getLast?_cons]

theorem directivesAfter_cons (baseline : DirectiveMap) (r : PageResult)
    (results : List PageResult) :
    directivesAfter baseline (r :: results) = directivesAfter r.next results := by
  cases results.getLast? <;> simp_all [directivesAfter, List.getLast?_cons]

/-- The outcomes of a run of pages are decided without the table. -/
theorem outcomes_compilePages (c : Compiler) (baseline : DirectiveMap)
    {languages : LanguageTable} (agrees : Agrees c.highlighter languages) (pages : List RawPage) :
    (c.compilePages baseline languages pages).map outcome =
        (c.compilePages baseline Dict.empty pages).map outcome ∧
      Agrees c.highlighter
        (languagesAfter languages (c.compilePages baseline languages pages)) := by
  induction pages generalizing baseline languages with
  | nil => exact ⟨rfl, agrees⟩
  | cons page pages ih =>
      obtain ⟨here, known⟩ := outcome_compilePage c baseline agrees page
      obtain ⟨-, fresh⟩ :=
        outcome_compilePage c baseline (Highlight.agrees_empty c.highlighter) page
      have next_eq : (c.compilePage baseline languages page).next =
          (c.compilePage baseline Dict.empty page).next :=
        congrArg (fun o => o.2.2) here
      simp only [compilePages, List.map_cons, here, languagesAfter_cons, next_eq]
      refine ⟨?_, (ih _ known).2⟩
      rw [(ih _ known).1, (ih _ fresh).1]

/-- Pages behind others are compiled from what those leave. -/
theorem compilePages_append (c : Compiler) (baseline : DirectiveMap) (languages : LanguageTable)
    (left right : List RawPage) :
    c.compilePages baseline languages (left ++ right) =
      c.compilePages baseline languages left ++
        c.compilePages (directivesAfter baseline (c.compilePages baseline languages left))
          (languagesAfter languages (c.compilePages baseline languages left)) right := by
  induction left generalizing baseline languages with
  | nil => rfl
  | cons page left ih =>
      simp only [List.cons_append, compilePages, ih, directivesAfter_cons, languagesAfter_cons]

/-- The records of a run of pages are decided without the table. -/
theorem records_compilePages (c : Compiler) (baseline : DirectiveMap) {languages : LanguageTable}
    (agrees : Agrees c.highlighter languages) (pages : List RawPage) :
    (c.compilePages baseline languages pages).map PageResult.record =
      (c.compilePages baseline Dict.empty pages).map PageResult.record := by
  have same := congrArg (List.map Prod.fst) (outcomes_compilePages c baseline agrees pages).1
  simpa [Function.comp_def, outcome] using same

theorem directivesAfter_compilePages (c : Compiler) (baseline : DirectiveMap)
    {languages : LanguageTable} (agrees : Agrees c.highlighter languages) (pages : List RawPage) :
    directivesAfter baseline (c.compilePages baseline languages pages) =
      directivesAfter baseline (c.compilePages baseline Dict.empty pages) := by
  have same := congrArg (fun outcomes => (outcomes.getLast?.map fun o => o.2.2).getD baseline)
    (outcomes_compilePages c baseline agrees pages).1
  simpa [List.getLast?_map, Function.comp_def, outcome, directivesAfter] using same

/-- The line on which a page starts does not matter to its record. -/
theorem compilePages_shift (c : Compiler) (baseline : DirectiveMap) (languages : LanguageTable)
    (k : Nat) (pages : List RawPage) :
    c.compilePages baseline languages (pages.map (RawPage.shift k)) =
      c.compilePages baseline languages pages := by
  induction pages generalizing baseline languages with
  | nil => rfl
  | cons page pages ih =>
      have here : c.compilePage baseline languages (page.shift k) =
          c.compilePage baseline languages page := rfl
      simp only [List.map_cons, compilePages, here, ih]

/-- The same text split from another line compiles to the same pages. -/
theorem compilePages_splitPages (c : Compiler) (baseline : DirectiveMap) (body : List Char)
    (k line other : Nat) :
    c.compilePages baseline Dict.empty ((splitPages body line).pages.map (RawPage.reindex k)) =
      c.compilePages baseline Dict.empty
        ((splitPages body other).pages.map (RawPage.reindex k)) := by
  have from_zero : ∀ start, (splitPages body start).pages.map (RawPage.reindex k) =
      ((splitPages body 0).pages.map (RawPage.reindex k)).map (RawPage.shift start) := by
    intro start
    have shifted := splitPages_shift body 0 start
    rw [Nat.zero_add] at shifted
    rw [shifted, List.map_map, List.map_map]
    rfl
  rw [from_zero line, from_zero other, compilePages_shift, compilePages_shift]

theorem compilePages_length (c : Compiler) (baseline : DirectiveMap) (languages : LanguageTable)
    (pages : List RawPage) :
    (c.compilePages baseline languages pages).length = pages.length := by
  induction pages generalizing baseline languages with
  | nil => rfl
  | cons page pages ih => simp [compilePages, ih]

theorem compileFrom_eq_ok_iff {c : Compiler} {languages : LanguageTable} {source : List Char}
    {result : Document × LanguageTable} :
    c.compileFrom languages source = .ok result ↔
      ∃ header, readHeader c.yaml source = .ok header ∧
        result = c.compileBody languages header := by
  unfold compileFrom
  cases readHeader c.yaml source <;> simp [eq_comm]

/-- The table that a deck leaves agrees with the highlighter again. -/
theorem agrees_compileBody (c : Compiler) {languages : LanguageTable}
    (agrees : Agrees c.highlighter languages) (header : Header) :
    Agrees c.highlighter (c.compileBody languages header).2 :=
  (outcomes_compilePages c _ agrees _).2

/-- The records of pages with others behind them: the records of both runs, the second one from the
directives that the first one left. -/
theorem records_compilePages_append (c : Compiler) (baseline : DirectiveMap)
    {languages : LanguageTable} (agrees : Agrees c.highlighter languages)
    (left right : List RawPage) :
    (c.compilePages baseline languages (left ++ right)).map PageResult.record =
      (c.compilePages baseline Dict.empty left).map PageResult.record ++
        (c.compilePages (directivesAfter baseline (c.compilePages baseline Dict.empty left))
          Dict.empty right).map PageResult.record := by
  have known := (outcomes_compilePages c baseline agrees left).2
  rw [compilePages_append, List.map_append, records_compilePages c baseline agrees,
    records_compilePages c _ known, directivesAfter_compilePages c baseline agrees]

/-- A deck without an unclosed fence has a body that leaves no fence open. -/
theorem warnings_splitPages_eq_nil {c : Compiler} {languages : LanguageTable} {header : Header}
    (closed : ∀ location marker,
      Warning.unclosedFence location marker ∉ (c.compileBody languages header).1.warnings) :
    (splitPages header.body header.bodyLine).warnings = [] := by
  rw [List.eq_nil_iff_forall_not_mem]
  intro warning member
  have found : ∃ location marker, warning = .unclosedFence location marker := by
    simp only [splitPages] at member
    split at member
    · exact ⟨_, _, List.mem_singleton.mp member⟩
    · simp at member
  obtain ⟨location, marker, rfl⟩ := found
  exact closed location marker (List.mem_append_left _ member)

/-- The first of the pages of a body decides the title, so pages behind it do not matter. -/
theorem titleOf_append (c : Compiler) (header : Header) {pages : List PageRecord}
    (pages_ne : pages ≠ []) (more : List PageRecord) :
    c.titleOf header (pages ++ more) = c.titleOf header pages := by
  obtain ⟨first, rest, rfl⟩ := List.exists_cons_of_ne_nil pages_ne
  rfl

theorem title_compileBody (c : Compiler) (languages : LanguageTable) (header : Header) :
    (c.compileBody languages header).1.title =
      c.titleOf header (c.compileBody languages header).1.pages := rfl

theorem pages_ne_nil (body : List Char) (line : Nat) : (splitPages body line).pages ≠ [] :=
  List.cons_ne_nil _ _

theorem pages_compileBody (c : Compiler) {languages : LanguageTable}
    (agrees : Agrees c.highlighter languages) (header : Header) :
    (c.compileBody languages header).1.pages =
      (c.compilePages (directivesOfMetadata header.metadata) Dict.empty
        (splitPages header.body header.bodyLine).pages).map PageResult.record :=
  records_compilePages c _ agrees _

/-- The directives that the last page behind a header leaves. -/
def directivesBehind (c : Compiler) (header : Header) : DirectiveMap :=
  directivesAfter (directivesOfMetadata header.metadata)
    (c.compilePages (directivesOfMetadata header.metadata) Dict.empty
      (splitPages header.body header.bodyLine).pages)

/-- The records of a body with a separator and more text behind it. -/
theorem pages_compileBody_append (c : Compiler) {languages : LanguageTable}
    (agrees : Agrees c.highlighter languages) {header : Header}
    (ends : ∀ c ∈ header.body.getLast?, c = '\n')
    (closed : (splitPages header.body header.bodyLine).warnings = []) (addition : List Char)
    (line : Nat) :
    (c.compileBody languages
        { header with body := header.body ++ ("---\n".toList ++ addition) }).1.pages =
      (c.compilePages (directivesOfMetadata header.metadata) Dict.empty
        (splitPages header.body header.bodyLine).pages).map PageResult.record ++
      (c.compilePages (c.directivesBehind header) Dict.empty
        ((splitPages addition line).pages.map (RawPage.reindex
          (splitPages header.body header.bodyLine).pages.length))).map PageResult.record := by
  rw [pages_compileBody c agrees]
  have split := splitPages_append ends closed addition
  rw [compilePages_splitPages c _ _ _ line
      (header.bodyLine + (Text.lines header.body).length + 1), directivesBehind,
    ← records_compilePages_append c _ (Highlight.agrees_empty c.highlighter), ← split]
  rfl

/-- Appending pages never disturbs earlier ones. Let a deck end in a line feed, have a header or a
line that is not blank, and compile without an open fence. Behind it, a separator and any text
compile too: title, metadata and the records of its own pages stay, and the other records are those
of the pages of that text, compiled in turn from the directives its last page left and numbered on
from there. The tables that the two runs start from only have to agree with the highlighter. -/
theorem compileFrom_append (c : Compiler) {source : List Char} (ends : source.getLast? = some '\n')
    (headed : Headed source) {languages later : LanguageTable}
    (agrees : Agrees c.highlighter languages) (later_agrees : Agrees c.highlighter later)
    {document : Document} {left : LanguageTable}
    (compiled : c.compileFrom languages source = .ok (document, left))
    (closed : ∀ location marker, Warning.unclosedFence location marker ∉ document.warnings)
    (addition : List Char) (line : Nat) :
    ∃ header whole known,
      readHeader c.yaml source = .ok header ∧
      c.compileFrom later (source ++ "---\n".toList ++ addition) = .ok (whole, known) ∧
      whole.title = document.title ∧ whole.metadata = document.metadata ∧
      document.pages.length = (splitPages header.body header.bodyLine).pages.length ∧
      whole.pages = document.pages ++
        (c.compilePages (c.directivesBehind header) Dict.empty
          ((splitPages addition line).pages.map
            (RawPage.reindex document.pages.length))).map PageResult.record ∧
      Agrees c.highlighter known := by
  obtain ⟨header, read, result⟩ := compileFrom_eq_ok_iff.mp compiled
  have document_eq : document = (c.compileBody languages header).1 := congrArg Prod.fst result
  subst document_eq
  have source_ends : ∀ c ∈ source.getLast?, c = '\n' := by simp [ends]
  have read_whole := readHeader_append source_ends headed read ("---\n".toList ++ addition)
  have own := pages_compileBody c agrees header
  have own_length : (c.compileBody languages header).1.pages.length =
      (splitPages header.body header.bodyLine).pages.length := by
    rw [own, List.length_map, compilePages_length]
  have own_ne : (c.compileBody languages header).1.pages ≠ [] := by
    rw [← List.length_pos_iff, own_length, List.length_pos_iff]
    exact pages_ne_nil _ _
  have pages := pages_compileBody_append c later_agrees (ends_body source_ends read)
    (warnings_splitPages_eq_nil closed) addition line
  rw [← own, ← own_length] at pages
  rw [← List.append_assoc] at read_whole
  -- the longer header is kept closed, or comparing documents would split both bodies
  obtain ⟨longer, longer_eq⟩ : ∃ longer : Header,
      longer = { header with body := header.body ++ ("---\n".toList ++ addition) } := ⟨_, rfl⟩
  have title_eq : c.titleOf longer = c.titleOf header := by rw [longer_eq]; rfl
  have metadata_eq : longer.metadata = header.metadata := by rw [longer_eq]
  rw [← longer_eq] at read_whole pages
  refine ⟨header, (c.compileBody later longer).1, (c.compileBody later longer).2, read,
    compileFrom_eq_ok_iff.mpr ⟨longer, read_whole, rfl⟩, ?_, metadata_eq, own_length, pages,
    agrees_compileBody c later_agrees _⟩
  rw [title_compileBody, title_compileBody, pages, title_eq]
  exact titleOf_append c header own_ne _

/-- A line behind a deck of one line makes another page. -/
theorem compileFrom_append_line :
    ∃ (c : Compiler) (document whole : Document) (left known : LanguageTable),
      c.compileFrom Dict.empty "a\n".toList = .ok (document, left) ∧
      c.compileFrom Dict.empty "a\n---\nb\n".toList = .ok (whole, known) ∧
      document.pages <+: whole.pages ∧ whole.pages.length = document.pages.length + 1 := by
  let c : Compiler :=
    { options := {}, highlighter := Highlight.builtin, parse := fun _ => .root []
      yaml := Yaml.wordless }
  obtain ⟨document, left, compiled, quiet⟩ : ∃ document left,
      c.compileFrom Dict.empty "a\n".toList = .ok (document, left) ∧ document.warnings = [] :=
    ⟨_, _, rfl, rfl⟩
  have headed : Headed "a\n".toList := .inr ⟨"a\n".toList, by decide, by decide⟩
  have untried := Highlight.agrees_empty c.highlighter
  obtain ⟨header, whole, known, -, compiled_whole, -, -, -, pages, -⟩ :=
    compileFrom_append c rfl headed untried untried compiled (by simp [quiet]) "b\n".toList 0
  refine ⟨c, document, whole, left, known, compiled, compiled_whole, ?_, ?_⟩
  · rw [pages]
    exact List.prefix_append _ _
  · rw [pages, List.length_append, List.length_map, compilePages_length, List.length_map]
    rfl

end Compiler

end SlideDeck
