import SlideDeck.Proofs.Highlight.Sound
import SlideDeck.Proofs.Markup.Steps
import SlideDeck.Proofs.Markup.Text
import SlideDeck.Proofs.Parts

/-!
# Source text in marked lines

The markup of marked lines shows the source text as it is, whatever that text holds, and it has one
element for each line of the text, with the line in it and nothing else (`plainLines_show_source`).
-/

namespace SlideDeck.Highlight

open Markup (Event Tag events mergeTexts contents textOf shownText readMarkup startTag
  textOf_element contents_element isTagName)
open Slide (Node render leaves)

/-- True of the start tag of a line. -/
def isLineTag (tag : Tag) : Bool := tag.isClassed "span" "line"

/-! ## Lines and the breaks between them -/

theorem withBreaks_cons_cons (first second : Node) (rest : List Node) :
    withBreaks (first :: second :: rest) = first :: .text "\n" :: withBreaks (second :: rest) := rfl

theorem textOf_line (line : List Char) (rest : List Node) :
    textOf (events (lineNode line :: rest)) = String.ofList line ++ textOf (events rest) := by
  have solid : Slide.voidTags.contains "span" = false := by decide
  rw [lineNode, Node.classed, textOf_element solid]
  exact congrArg (· ++ _) (String.append_empty)

theorem contents_line (line : List Char) (rest : List Node) :
    contents isLineTag (events (lineNode line :: rest)) =
      [.text (String.ofList line)] :: contents isLineTag (events rest) := by
  have solid : Slide.voidTags.contains "span" = false := by decide
  have marked : isLineTag (startTag "span" (Attributes.empty.addClass "line")) = true := by decide
  rw [lineNode, Node.classed, contents_element solid, if_pos marked]
  rfl

/-- An element that is no line adds none to those in it. -/
theorem contents_around_lines {tag : String} (solid : Slide.voidTags.contains tag = false)
    (other : tag ≠ "span") (attrs : Attributes) (children : List Node) :
    contents isLineTag (events [.element tag attrs children false]) =
      contents isLineTag (events children) := by
  have unmarked : isLineTag (startTag tag attrs) = false := by
    simp [isLineTag, Tag.isClassed, startTag, other]
  rw [contents_element solid, unmarked]
  exact List.append_nil _

/-- Lines with breaks between them show these lines, joined by line feeds. -/
theorem textOf_lines (lines : List (List Char)) :
    textOf (events (withBreaks (lines.map lineNode))) =
      String.ofList (['\n'].intercalate lines) := by
  induction lines with
  | nil => rfl
  | cons line lines ih =>
      cases lines with
      | nil =>
          rw [List.map_singleton, withBreaks, textOf_line, List.intercalate_singleton]
          exact String.append_empty
      | cons next lines =>
          rw [List.map_cons, List.map_cons, withBreaks_cons_cons, textOf_line,
            List.intercalate_cons_cons, String.ofList_append, String.ofList_append, ← ih,
            String.append_assoc]
          rfl

/-- Each line is an element of its own, with the line in it. -/
theorem contents_lines (lines : List (List Char)) :
    contents isLineTag (events (withBreaks (lines.map lineNode))) =
      lines.map fun line => [.text (String.ofList line)] := by
  induction lines with
  | nil => rfl
  | cons line lines ih =>
      cases lines with
      | nil => exact contents_line line []
      | cons next lines =>
          rw [List.map_cons, List.map_cons, withBreaks_cons_cons, contents_line]
          exact congrArg _ ih

/-! ## The source text -/

theorem plainLines_eq (code lang : String) :
    plainLines code lang =
      [.element "pre" ((Attributes.empty.addClass "shiki").insert "data-language" (.text lang))
        [.element "code" .empty (withBreaks ((code.toList.splitOn '\n').map lineNode)) false]
        false] := by
  rw [plainLines, Text.splitAtEvery_eq_splitOnP]
  rfl

theorem raw_not_mem_plainLines (code lang s : String) :
    Node.raw s ∉ leaves (plainLines code lang) := by
  rw [plainLines_eq, Slide.leaves_element, Slide.leaves_element, List.append_assoc]
  intro inside
  rw [leaves, List.append_nil, List.append_nil] at inside
  obtain ⟨n, member, leaf⟩ := Slide.mem_leaves_iff.mp inside
  obtain line | ⟨text, rfl⟩ := mem_of_mem_withBreaks member
  · obtain ⟨l, -, rfl⟩ := List.mem_map.mp line
    cases List.mem_singleton.mp leaf
  · cases List.mem_singleton.mp leaf

theorem textOf_plainLines (code lang : String) : textOf (events (plainLines code lang)) = code := by
  have pre : Slide.voidTags.contains "pre" = false := by decide
  have inner : Slide.voidTags.contains "code" = false := by decide
  rw [plainLines_eq, textOf_element pre, textOf_element inner, textOf_lines,
    List.intercalate_splitOn, String.ofList_toList]
  exact (String.append_empty).trans String.append_empty

theorem contents_plainLines (code lang : String) :
    contents isLineTag (events (plainLines code lang)) =
      (code.toList.splitOn '\n').map fun line => [.text (String.ofList line)] := by
  have pre : Slide.voidTags.contains "pre" = false := by decide
  have inner : Slide.voidTags.contains "code" = false := by decide
  rw [plainLines_eq, contents_around_lines pre (by decide), contents_around_lines inner (by decide),
    contents_lines]

/-- The markup of a source text in marked lines shows the text itself. It is read, and it has one
element for each line, one more than there are line feeds in the text, in which that line stands and
nothing else; in the element of an empty line nothing stands. -/
theorem plainLines_show_source (code lang : String) :
    shownText (render (plainLines code lang)) = code ∧
      ∃ found, readMarkup (render (plainLines code lang)) = some found ∧
        contents isLineTag found =
          ((code.toList.splitOn '\n').map fun line => mergeTexts [.text (String.ofList line)]) ∧
        (contents isLineTag found).length = code.toList.count '\n' + 1 := by
  have untrusted := raw_not_mem_plainLines code lang
  have tags : ∀ tag ∈ Node.tagsOf (plainLines code lang), isTagName tag = true :=
    Markup.named_of_sound (sound_plainLines code lang)
  have lines : contents isLineTag (mergeTexts (events (plainLines code lang))) =
      (code.toList.splitOn '\n').map fun line => mergeTexts [.text (String.ofList line)] := by
    rw [Markup.contents_mergeTexts, contents_plainLines, List.map_map]
    rfl
  have number : (code.toList.splitOn '\n').length = code.toList.count '\n' + 1 :=
    length_splitOnP (· == '\n') code.toList
  refine ⟨?_, _, Markup.readMarkup_render untrusted tags, lines, ?_⟩
  · rw [Markup.shownText_render untrusted tags, textOf_plainLines]
  · rw [lines, List.length_map, number]

end SlideDeck.Highlight
