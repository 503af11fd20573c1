import Mathlib.Data.List.Nodup
import SlideDeck.Proofs.Deck.Append
import SlideDeck.Proofs.Highlight.Sound
import SlideDeck.Proofs.Markup.Steps
import SlideDeck.Proofs.Slide.Lower
import SlideDeck.Proofs.Slide.Registry

/-!
# The steps of a deck

Every pass over a page keeps its elements sound, so the elements that are registered for the steps
of the page are those whose start tags in its markup have a step key, with the registered ids in
order (`pageTree_spec`). The id of an element tells its page, so no two elements of a deck share one
(`nodup_stepIds`).
-/

namespace SlideDeck

open Highlight (LanguageTable MarksSound)
open Markup (Tag steppedTags tagsOfStepped readMarkup untrusted)
open Slide (Node Element Sound Registered StepEntry elements leaves render isStepped isStepKey
  stepId)

/-- The ids of the stepped elements of a page, as registered. -/
def PageRecord.stepIds (record : PageRecord) : List String :=
  record.steps.entries.map StepEntry.id

/-! ## Ids in tags -/

theorem map_stepId?_startTag {es : List Element} {new : List StepEntry}
    (marked : es.map (fun e => e.attrs.get? "data-step-id") =
      new.map fun entry => some (.text entry.id)) :
    es.map (fun e => (Markup.startTag e.tag e.attrs).stepId?) =
      new.map fun entry => some entry.id := by
  induction es generalizing new with
  | nil =>
      cases new with
      | nil => rfl
      | cons entry more => cases marked
  | cons e rest ih =>
      cases new with
      | nil => cases marked
      | cons entry more =>
          obtain ⟨here, behind⟩ := List.cons.inj marked
          exact congrArg₂ List.cons (Markup.stepId?_startTag here e.tag) (ih behind)

/-- The tags of the stepped elements have the registered ids, in order. -/
theorem stepId?_tagsOfStepped {page start : Nat} {es : List Element} {new : List StepEntry}
    (registered : Registered page start es new) :
    (tagsOfStepped es).map Tag.stepId? = new.map fun entry => some entry.id := by
  rw [tagsOfStepped, List.map_map]
  exact map_stepId?_startTag registered.marked

/-! ## A page -/

namespace Compiler

variable (c : Compiler) (baseline : DirectiveMap) (languages : LanguageTable) (page : RawPage)

/-- The nodes of a page with its highlighted code in place. -/
def splicedNodes : List Node :=
  let draft := c.draft baseline page
  let results := (Highlight.resolveAll c.highlighter languages draft.requests).1
  Highlight.splice draft.nodes (results.map fun r => (r.handle, r.nodes))

/-- The tree of a page, from which its markup is written. -/
def pageTree : Node :=
  let draft := c.draft baseline page
  (Slide.Frame.ofPage draft.directives.resolved draft.split).wrap page.index
    (Slide.collectSteps page.index (c.splicedNodes baseline languages page)).1

theorem content_compilePage : (c.compilePage baseline languages page).record.content =
    render [c.pageTree baseline languages page] := rfl

theorem sound_draft : Sound (c.draft baseline page).nodes := by
  have commented := Slide.sound_applyComments (Slide.sound_lower (c.parse page.text))
    (PageDirectives.start baseline)
  exact Slide.sound_toNodes
    (Highlight.sound_preparePartitions _ _ (Slide.sound_ofNodes commented) [])

variable {c}

theorem sound_splicedNodes (marks : MarksSound c.highlighter) :
    Sound (c.splicedNodes baseline languages page) :=
  Highlight.sound_splice (c.sound_draft baseline page)
    (Highlight.sound_results marks languages (c.draft baseline page).requests)

/-- What the passes over a page leave: sound elements, and the stepped ones among them are
registered. -/
theorem pageTree_spec (marks : MarksSound c.highlighter) :
    Sound [c.pageTree baseline languages page] ∧
      Registered page.index 1 (elements [c.pageTree baseline languages page])
        (c.compilePage baseline languages page).record.steps.entries := by
  have spliced := sound_splicedNodes baseline languages page marks
  obtain ⟨collected, new, entries, registered⟩ := Slide.collectAll_spec page.index spliced {}
  have same : (c.compilePage baseline languages page).record.steps.entries = new := entries
  have plain : isStepKey "data-page" = false := by decide
  obtain ⟨attrs, tree, unstepped⟩ := Slide.isStepped_section
    (Slide.Frame.ofPage (c.draft baseline page).directives.resolved (c.draft baseline page).split)
    plain (toString page.index)
    (Slide.collectSteps page.index (c.splicedNodes baseline languages page)).1
  have framed : Sound [c.pageTree baseline languages page] := collected.section_ _ _ _
  have whole : elements [c.pageTree baseline languages page] =
      ⟨"section", attrs, (Slide.collectAll page.index
        (c.splicedNodes baseline languages page) {}).1, false⟩ ::
        elements (Slide.collectAll page.index (c.splicedNodes baseline languages page) {}).1 := by
    have tree_eq : c.pageTree baseline languages page = _ := tree
    rw [tree_eq, elements, elements, List.append_nil]
    rfl
  refine ⟨framed, ?_⟩
  rw [same, whole]
  exact Registered.append (.unstepped unstepped) registered

/-! ## A deck -/

theorem stepIds_compilePage (marks : MarksSound c.highlighter) :
    ∃ n, (c.compilePage baseline languages page).record.stepIds =
      (List.range' 1 n).map (stepId page.index) :=
  ⟨_, (pageTree_spec baseline languages page marks).2.ids⟩

theorem nodup_stepIds_compilePage (marks : MarksSound c.highlighter) :
    (c.compilePage baseline languages page).record.stepIds.Nodup := by
  obtain ⟨n, ids⟩ := stepIds_compilePage baseline languages page marks
  rw [ids]
  exact List.Nodup.map (fun _ _ same => (Slide.stepId_inj same).2) List.nodup_range'

/-- The ids of a deck tell which of its pages they are on. -/
theorem exists_page_of_mem_stepIds (marks : MarksSound c.highlighter) {pages : List RawPage}
    {id : String}
    (member : id ∈ (c.compilePages baseline languages pages).flatMap fun r => r.record.stepIds) :
    ∃ page ∈ pages, ∃ k, id = stepId page.index k := by
  induction pages generalizing baseline languages with
  | nil => cases member
  | cons page rest ih =>
      rw [compilePages, List.flatMap_cons, List.mem_append] at member
      obtain here | behind := member
      · obtain ⟨n, ids⟩ := stepIds_compilePage baseline languages page marks
        rw [ids] at here
        obtain ⟨k, -, rfl⟩ := List.mem_map.mp here
        exact ⟨page, List.mem_cons_self, k, rfl⟩
      · obtain ⟨other, later, k, rfl⟩ := ih _ _ behind
        exact ⟨other, List.mem_cons_of_mem _ later, k, rfl⟩

/-- No two elements of a deck share an id. -/
theorem nodup_stepIds (marks : MarksSound c.highlighter) {pages : List RawPage}
    (distinct : (pages.map RawPage.index).Nodup) :
    ((c.compilePages baseline languages pages).flatMap fun r => r.record.stepIds).Nodup := by
  induction pages generalizing baseline languages with
  | nil => exact List.nodup_nil
  | cons page rest ih =>
      rw [List.map_cons, List.nodup_cons] at distinct
      rw [compilePages, List.flatMap_cons]
      refine List.nodup_append.mpr
        ⟨nodup_stepIds_compilePage baseline languages page marks, ih _ _ distinct.2, ?_⟩
      -- an id on both sides would be one of a page with the number of the first
      rintro id here _ behind rfl
      obtain ⟨n, ids⟩ := stepIds_compilePage baseline languages page marks
      rw [ids] at here
      obtain ⟨k, -, rfl⟩ := List.mem_map.mp here
      obtain ⟨other, later, l, same⟩ := exists_page_of_mem_stepIds _ _ marks behind
      refine distinct.1 (List.mem_map.mpr ⟨other, later, ?_⟩)
      exact (Slide.stepId_inj same).1.symm

theorem index_number (first : Nat) (pages : List (Nat × List (List Char))) :
    (Page.number first pages).map RawPage.index = List.range' first pages.length := by
  induction pages generalizing first with
  | nil => rfl
  | cons page rest ih =>
      rw [Page.number, List.map_cons, ih (first + 1), List.length_cons, List.range'_succ]

/-- No two elements of a compiled deck share an id. -/
theorem nodup_stepIds_compile (marks : MarksSound c.highlighter) {source : List Char}
    {document : Document} (compiled : c.compile source = .ok document) :
    (document.pages.flatMap PageRecord.stepIds).Nodup := by
  rw [compile, compileFrom] at compiled
  cases read : readHeader c.yaml source with
  | error cause =>
      rw [read] at compiled
      cases compiled
  | ok header =>
      rw [read] at compiled
      obtain rfl : (c.compileBody Dict.empty header).1 = document := Except.ok.inj compiled
      have distinct : ((splitPages header.body header.bodyLine).pages.map RawPage.index).Nodup := by
        rw [splitPages, index_number]
        exact List.nodup_range'
      rw [compileBody, List.flatMap_map]
      exact nodup_stepIds _ _ marks distinct

/-- With the highlighter that marks lines, every registered element of a page is in its markup. The
tree that the passes over a page leave, and that its markup is written from, has no attribute on a
transparent element. The markup without the trusted parts, which is all of it on a page that has
none, is read, and the start tags with a step key in it have exactly the registered ids, in order.
No two elements of a deck of pages with different numbers share an id. -/
theorem stepped_tags_are_registered (options : Options) (parse : List Char → Markdown.Node)
    (yaml : String → Except String Json) (baseline : DirectiveMap) (languages : LanguageTable)
    {pages : List RawPage} (distinct : (pages.map RawPage.index).Nodup) :
    let c : Compiler := { options, highlighter := Highlight.builtin, parse, yaml }
    (∀ (start : DirectiveMap) (known : LanguageTable) (page : RawPage),
      let record := (c.compilePage start known page).record
      let tree := c.pageTree start known page
      record.content = render [tree] ∧
      (∀ e ∈ elements [tree], e.transparent = true → e.attrs = .empty) ∧
      ∃ found, readMarkup (render (untrusted [tree])) = some found ∧
        ((∀ s, .raw s ∉ leaves [tree]) → readMarkup record.content = some found) ∧
        (steppedTags found).map Tag.stepId? = record.stepIds.map some) ∧
    ((c.compilePages baseline languages pages).flatMap fun r => r.record.stepIds).Nodup := by
  have marks : MarksSound Highlight.builtin := Highlight.marksSound_byLines _
  refine ⟨fun start known page => ?_, nodup_stepIds baseline languages marks distinct⟩
  let c : Compiler := { options, highlighter := Highlight.builtin, parse, yaml }
  obtain ⟨sound, registered⟩ := pageTree_spec (c := c) start known page marks
  obtain ⟨found, read, tags⟩ := Markup.exists_readMarkup_untrusted sound
  refine ⟨c.content_compilePage start known page, fun e member => (sound e member).bare, found,
    read, fun plain => ?_, ?_⟩
  · rw [c.content_compilePage, ← read, Markup.untrusted_eq_self plain]
  · rw [tags, stepId?_tagsOfStepped registered, PageRecord.stepIds, List.map_map]
    rfl

/-- In a tight list, a step key in a paragraph, which is transparent, is one of the list item. -/
theorem stepped_tags_are_registered_tightList :
    let list : Markdown.Node := .list false none false
      [.listItem false none [.paragraph [.text "a", .html "<!-- click-1 -->"]]]
    let c : Compiler :=
      { options := {}, highlighter := Highlight.builtin, parse := fun _ => .root [list]
        yaml := Yaml.wordless }
    let pages : List RawPage := [⟨1, [], 1⟩, ⟨2, [], 3⟩]
    let ids := (c.compilePages Dict.empty Dict.empty pages).flatMap fun r => r.record.stepIds
    (pages.map RawPage.index).Nodup ∧ ids = ["p1-s1", "p2-s1"] ∧ ids.Nodup ∧
      ∃ found, readMarkup (render (untrusted
          [c.pageTree Dict.empty Dict.empty ⟨1, [], 1⟩])) = some found ∧
        (steppedTags found).map Tag.stepId? = [some "p1-s1"] := by
  intro list c pages ids
  have distinct : (pages.map RawPage.index).Nodup := by decide
  obtain ⟨shown, nodup⟩ := stepped_tags_are_registered {} (fun _ => .root [list]) Yaml.wordless
    Dict.empty Dict.empty distinct
  obtain ⟨-, -, found, read, -, tags⟩ := shown Dict.empty Dict.empty ⟨1, [], 1⟩
  have own : (c.compilePage Dict.empty Dict.empty ⟨1, [], 1⟩).record.stepIds = ["p1-s1"] := by
    decide +kernel
  refine ⟨distinct, by decide +kernel, nodup, found, read, ?_⟩
  exact tags.trans (congrArg (List.map some) own)

end Compiler

end SlideDeck
