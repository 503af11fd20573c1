import SlideDeck.Proofs.Deck.Append
import SlideDeck.Proofs.Highlight.Substitution
import SlideDeck.Proofs.Slide.Passes

/-!
# The findings of a deck

Code blocks go through the passes over a page as they are, so the requests of a page are those of
the blocks that its Markdown is lowered to (`requests_draft`), and each of them is answered as if no
language had been tried before. Hence the findings of a page are those of its blocks one by one
(`warnings_compilePage`), and those of a deck are the ones of its pages behind the open fence.
-/

namespace SlideDeck

open Highlight (Agrees LanguageTable Request blocksOf languageOf loads plaintext requestsFrom
  resolveAlone)
open Slide (Node Partition SplitLayout content leaves)

namespace Highlight

/-- Code blocks are content, so they are where the content is. -/
theorem blocksOf_eq_content (diagrams : List String) (nodes : List Node) :
    blocksOf diagrams nodes =
      ((content nodes).filterMap Node.code?).filter fun c => !diagrams.contains (languageOf c) := by
  have leaf : ∀ n : Node, n.content?.bind Node.code? = n.code? := by
    intro n
    cases n with
    | text s =>
        rw [Node.content?]
        split_ifs <;> rfl
    | _ => rfl
  rw [blocksOf, content, List.filterMap_filterMap, funext leaf]

/-- True of a language that a block cannot be highlighted in. -/
def isMissing (h : Highlighter) (lang : String) : Bool := lang ≠ plaintext && !loads h lang

theorem unknown_resolveAlone (h : Highlighter) (r : Request) :
    (resolveAlone h r).unknown = if isMissing h r.lang then some r.lang else none := by
  unfold resolveAlone isMissing
  by_cases plain : r.lang = plaintext
  · simp [plain]
  · cases loaded : loads h r.lang <;> simp [plain]

end Highlight

/-- The warnings of requests that are resolved alone: one for each language that is missing. -/
theorem languageWarnings_resolveAlone (h : Highlighter) (page : Nat) (requests : List Request) :
    languageWarnings page (requests.map (resolveAlone h)) =
      ((requests.map Request.lang).filter (Highlight.isMissing h)).map (.unknownLanguage page) := by
  induction requests with
  | nil => rfl
  | cons r rest ih =>
      have step : languageWarnings page ((r :: rest).map (resolveAlone h)) =
          ((resolveAlone h r).unknown.map fun lang => .unknownLanguage page lang).toList ++
            languageWarnings page (rest.map (resolveAlone h)) := by
        cases found : (resolveAlone h r).unknown <;> simp [languageWarnings, found]
      rw [step, ih, Highlight.unknown_resolveAlone, List.map_cons, List.filter_cons]
      split_ifs <;> rfl

namespace Compiler

variable (c : Compiler)

/-- The languages that code blocks of a page ask for in vain, one for each block in document order:
they are no diagram languages, not plain text, and the highlighter does not load them. -/
def missingLanguages (page : RawPage) : List String :=
  let blocks := (leaves (Slide.lower (c.parse page.text))).filterMap Node.code?
  (blocks.map languageOf).filter fun lang =>
    !c.options.diagramLanguages.contains lang && lang ≠ plaintext && !loads c.highlighter lang

/-- The requests of a page are those of the blocks that its Markdown is lowered to. -/
theorem requests_draft (baseline : DirectiveMap) (page : RawPage) :
    (c.draft baseline page).requests =
      requestsFrom 0
        (blocksOf c.options.diagramLanguages (Slide.lower (c.parse page.text))) := by
  let lowered := Slide.lower (c.parse page.text)
  let layout := SplitLayout.ofNodes
    (Slide.applyComments lowered (PageDirectives.start baseline)).1
  let images : Slide.ImageOptions :=
    { lazy := c.options.lazyImages, vertical := layout.vertical }
  let placed := layout.partitions.map (Partition.mapNodes (Slide.applyImages images))
  have cut : Slide.Remains lowered (layout.partitions.flatMap Partition.children) :=
    (Slide.remains_applyComments lowered _).trans (Slide.remains_ofNodes _)
  have kept : content (placed.flatMap Partition.children) = content lowered := by
    rw [Slide.content_placed, cut.content_eq]
  have queued : (c.draft baseline page).requests =
      (Highlight.wrapPartitions c.options.diagramLanguages placed []).2 :=
    congrArg Prod.snd (Highlight.preparePartitions_eq images _ layout.partitions [])
  have wrapped := Highlight.queue_wrapAll c.options.diagramLanguages
    (placed.flatMap Partition.children) []
  rw [Highlight.wrapAll_flatMap, List.nil_append] at wrapped
  rw [queued, wrapped, Highlight.blocksOf_eq_content, kept, ← Highlight.blocksOf_eq_content]
  rfl

theorem lang_requestsFrom (start : Nat) (blocks : List CodeBlock) :
    (requestsFrom start blocks).map Request.lang = blocks.map languageOf := by
  conv_rhs => rw [← List.zipIdx_map_fst start blocks, List.map_map]
  rw [requestsFrom, List.map_map]
  rfl

/-- The findings of a page, with any table that agrees with the highlighter. -/
theorem warnings_compilePage (baseline : DirectiveMap) {languages : LanguageTable}
    (agrees : Agrees c.highlighter languages) (page : RawPage) :
    (c.compilePage baseline languages page).warnings =
      (c.missingLanguages page).map (.unknownLanguage page.index) := by
  have answered : (c.compilePage baseline languages page).warnings =
      languageWarnings page.index
        ((c.draft baseline page).requests.map (resolveAlone c.highlighter)) :=
    congrArg (languageWarnings page.index) (Highlight.resolveAll_of_agrees agrees _).1
  have missing : ∀ blocks : List CodeBlock,
      ((blocks.filter fun b => !c.options.diagramLanguages.contains (languageOf b)).map
          languageOf).filter (Highlight.isMissing c.highlighter) =
        (blocks.map languageOf).filter fun lang =>
          !c.options.diagramLanguages.contains lang && lang ≠ plaintext &&
            !loads c.highlighter lang := by
    intro blocks
    have outside := List.filter_map (f := languageOf) (l := blocks)
      (p := fun lang => !c.options.diagramLanguages.contains lang)
    simp only [Function.comp_def] at outside
    rw [← outside, List.filter_filter]
    simp only [Highlight.isMissing, Bool.and_comm, Bool.and_left_comm, Bool.and_assoc]
  rw [answered, languageWarnings_resolveAlone, requests_draft, lang_requestsFrom, blocksOf,
    missing, missingLanguages]

/-- The findings of a run of pages are those of each of its pages. -/
theorem warnings_compilePages (baseline : DirectiveMap) {languages : LanguageTable}
    (agrees : Agrees c.highlighter languages) (pages : List RawPage) :
    (c.compilePages baseline languages pages).flatMap PageResult.warnings =
      pages.flatMap fun page => (c.missingLanguages page).map (.unknownLanguage page.index) := by
  induction pages generalizing baseline languages with
  | nil => rfl
  | cons page pages ih =>
      have still := (outcome_compilePage c baseline agrees page).2
      rw [compilePages, List.flatMap_cons, warnings_compilePage c baseline agrees, ih _ still,
        List.flatMap_cons]

theorem warnings_splitPages_cases (body : List Char) (line : Nat) :
    (splitPages body line).warnings = [] ∨
      ∃ location marker, (splitPages body line).warnings = [.unclosedFence location marker] := by
  simp only [splitPages]
  split
  · exact .inr ⟨_, _, rfl⟩
  · exact .inl rfl

/-- The findings of a deck are complete and in order: the fence that stays open, if there is one,
and then, page after page and block after block, one finding for each code block whose language is
neither a diagram language nor plain text and cannot be loaded, with the number of its page. Which
languages earlier decks have tried does not matter, and what this deck leaves to later ones agrees
with the highlighter again. -/
theorem warnings_compileFrom {languages : LanguageTable} (agrees : Agrees c.highlighter languages)
    {source : List Char} {document : Document} {left : LanguageTable}
    (compiled : c.compileFrom languages source = .ok (document, left)) :
    ∃ header, readHeader c.yaml source = .ok header ∧
      let split := splitPages header.body header.bodyLine
      document.warnings = split.warnings ++ split.pages.flatMap (fun page =>
        (c.missingLanguages page).map (.unknownLanguage page.index)) ∧
      (split.warnings = [] ∨ ∃ location marker, split.warnings = [.unclosedFence location marker]) ∧
      Agrees c.highlighter left := by
  obtain ⟨header, read, result⟩ := compileFrom_eq_ok_iff.mp compiled
  have document_eq : document = (c.compileBody languages header).1 := congrArg Prod.fst result
  have left_eq : left = (c.compileBody languages header).2 := congrArg Prod.snd result
  refine ⟨header, read, ?_, warnings_splitPages_cases _ _, ?_⟩
  · rw [document_eq, ← warnings_compilePages c (directivesOfMetadata header.metadata) agrees]
    rfl
  · rw [left_eq]
    exact agrees_compileBody c agrees header

/-- Code blocks of several languages, in a quote and behind a split marker too. -/
def repeatedCode : Markdown.Node :=
  .root
    [.code ⟨"a", some "zig", none⟩, .blockquote [.code ⟨"b", some "mermaid", none⟩],
      .code ⟨"c", none, none⟩, .html "<!-- split -->", .code ⟨"d", some "rust", none⟩,
      .code ⟨"e", some "zig", none⟩]

/-- A compiler that reads every page as the same code blocks. -/
def constantCompiler : Compiler where
  options := {}
  highlighter := Highlight.builtin
  parse _ := repeatedCode
  yaml := Yaml.wordless

/-- A language that cannot be loaded is reported for each of its blocks, also on a later page and in
a deck that starts from the table of an earlier one. -/
theorem warnings_compileFrom_repeated :
    ∃ (first second : Document) (left known : LanguageTable),
      constantCompiler.compileFrom Dict.empty "a\n".toList = .ok (first, left) ∧
      constantCompiler.compileFrom left "a\n---\n```\n".toList = .ok (second, known) ∧
      second.warnings =
        [.unclosedFence { page := some 2, line := 3, column := 1 } '`', .unknownLanguage 1 "zig",
          .unknownLanguage 1 "zig", .unknownLanguage 2 "zig", .unknownLanguage 2 "zig"] := by
  let c := constantCompiler
  have one_page : readHeader c.yaml "a\n".toList = .ok { body := "a\n".toList } := rfl
  have two_pages : readHeader c.yaml "a\n---\n```\n".toList =
      .ok { body := "a\n---\n```\n".toList } := rfl
  have lowered : Slide.lower repeatedCode =
      [.code ⟨"a", some "zig", none⟩, .plain "blockquote" [.code ⟨"b", some "mermaid", none⟩],
        .code ⟨"c", none, none⟩, .comment " split ", .code ⟨"d", some "rust", none⟩,
        .code ⟨"e", some "zig", none⟩] := rfl
  have blocks : (leaves (Slide.lower repeatedCode)).filterMap Node.code? =
      [⟨"a", some "zig", none⟩, ⟨"b", some "mermaid", none⟩, ⟨"c", none, none⟩,
        ⟨"d", some "rust", none⟩, ⟨"e", some "zig", none⟩] := by
    rw [lowered]
    rfl
  have asked : ((leaves (Slide.lower repeatedCode)).filterMap Node.code?).map languageOf =
      ["zig", "mermaid", plaintext, "rust", "zig"] := by
    rw [blocks]
    simp [languageOf]
  have missing : ∀ page, c.missingLanguages page = ["zig", "zig"] := by
    intro page
    have same : c.missingLanguages page =
        (((leaves (Slide.lower repeatedCode)).filterMap Node.code?).map languageOf).filter
          fun lang => !c.options.diagramLanguages.contains lang && lang ≠ plaintext &&
            !loads c.highlighter lang := rfl
    rw [same, asked]
    decide
  obtain ⟨first, left, before⟩ : ∃ first left,
      c.compileFrom Dict.empty "a\n".toList = .ok (first, left) :=
    ⟨_, _, compileFrom_eq_ok_iff.mpr ⟨_, one_page, rfl⟩⟩
  obtain ⟨second, known, compiled⟩ : ∃ second known,
      c.compileFrom left "a\n---\n```\n".toList = .ok (second, known) :=
    ⟨_, _, compileFrom_eq_ok_iff.mpr ⟨_, two_pages, rfl⟩⟩
  obtain ⟨-, -, -, -, agrees⟩ :=
    warnings_compileFrom c (Highlight.agrees_empty c.highlighter) before
  obtain ⟨header, read, warnings, -⟩ := warnings_compileFrom c agrees compiled
  rw [two_pages] at read
  obtain rfl := Except.ok.inj read
  simp only [missing] at warnings
  exact ⟨first, second, left, known, before, compiled, warnings.trans (by decide)⟩

end Compiler

end SlideDeck
