import SlideDeck.Proofs.Markup.Reader
import SlideDeck.Proofs.Slide.Forest

/-!
# The markup of a forest read back

A forest is a list of events: the tags of its elements around the events of their children, and its
text. The markup of a forest without trusted markup is read as exactly these events
(`readMarkup_render`), so no text and no value of an attribute opens, ends or changes a tag.
-/

namespace SlideDeck.Markup

open Slide (Node render markup markupOf imageMarkup codeMarkup attributeMarkup isAttributeName
  voidTags escape quoted leaves leavesIn leaves_element)

/-- An attribute as it is kept in markup: `false` and names that cannot stand there are left out,
and `true` is a bare name. -/
def keptAttribute (entry : String × Value) : Option (String × Option String) :=
  if isAttributeName entry.1 then
    match entry.2 with
    | .text value => some (entry.1, some value)
    | .flag true => some (entry.1, none)
    | .flag false => none
  else none

/-- The start tag of an element. -/
def startTag (tag : String) (attrs : Attributes) : Tag :=
  { name := tag, attrs := attrs.entries.filterMap keptAttribute }

/-- The tag of an image. -/
def imageTag (i : Image) : Tag where
  name := "img"
  attrs := [("src", some i.url), ("alt", some i.alt)] ++
    (i.title.map fun title => ("title", some title)).toList

/-- The tag around the text of a code block. -/
def codeTag (c : CodeBlock) : Tag where
  name := "code"
  attrs := (c.lang.map fun lang => ("class", some ("language-" ++ lang))).toList

/-- The events of a code block. -/
def codeEvents (c : CodeBlock) : List Event :=
  [.opening { name := "pre" }, .opening (codeTag c), .text c.value, .closing "code", .closing "pre"]

mutual

/-- The events of a node. -/
def eventsIn : Node → List Event
  | .element tag attrs children transparent =>
    if transparent then events children
    else if voidTags.contains tag then [.single (startTag tag attrs)]
    else .opening (startTag tag attrs) :: events children ++ [.closing tag]
  | .text s => [.text s]
  | .image i => [.single (imageTag i)]
  | .code c => codeEvents c
  | .raw _ | .comment _ | .placeholder _ => []

/-- The events of a forest in document order. -/
def events : List Node → List Event
  | [] => []
  | n :: rest => eventsIn n ++ events rest

end

/-! ## Writing the events -/

theorem flatMap_attributeMarkup (entries : List (String × Value)) :
    entries.flatMap attributeMarkup = (entries.filterMap keptAttribute).flatMap writeAttribute := by
  induction entries with
  | nil => rfl
  | cons e entries ih =>
      obtain ⟨name, value⟩ := e
      rw [List.flatMap_cons, ih, attributeMarkup, List.filterMap_cons, keptAttribute]
      by_cases valid : isAttributeName name = true
      · obtain s | (_ | _) := value <;> simp [valid, writeAttribute]
      · simp [valid]

theorem imageMarkup_eq (i : Image) : imageMarkup i = (Event.single (imageTag i)).write := by
  obtain ⟨url, alt, title⟩ := i
  unfold imageMarkup
  cases title <;> simp [Event.write, Tag.write, imageTag, writeAttribute]

theorem codeMarkup_eq (c : CodeBlock) : codeMarkup c = (codeEvents c).flatMap Event.write := by
  obtain ⟨value, lang, info⟩ := c
  unfold codeMarkup
  cases lang with
  | none => simp [codeEvents, codeTag, Event.write, Tag.write]
  | some lang =>
      have language : escape "language-" = "language-".toList := rfl
      simp [codeEvents, codeTag, Event.write, Tag.write, writeAttribute, quoted, escape_append,
        language]

/-- The markup of a forest without trusted markup is written from its events. -/
theorem markupOf_eq_write {nodes : List Node} (untrusted : ∀ s, Node.raw s ∉ leaves nodes) :
    markupOf nodes = (events nodes).flatMap Event.write := by
  induction nodes using Node.forest_induction with
  | nil => rfl
  | element tag attrs children transparent rest inner outer =>
      simp only [leaves_element, List.mem_append, not_or] at untrusted
      have inside := inner fun s => (untrusted s).1
      have behind := outer fun s => (untrusted s).2
      rw [markupOf, events, List.flatMap_append, ← behind, markup, eventsIn]
      congr 1
      by_cases hidden : transparent = true
      · rw [if_pos hidden, if_pos hidden, inside]
      · rw [if_neg hidden, if_neg hidden]
        by_cases void : voidTags.contains tag = true
        · rw [if_pos void, if_pos void]
          simp [Event.write, Tag.write, startTag, flatMap_attributeMarkup]
        · rw [if_neg void, if_neg void]
          simp [Event.write, Tag.write, startTag, flatMap_attributeMarkup, inside]
  | raw s rest ih => exact absurd (List.mem_append_left _ List.mem_cons_self) (untrusted s)
  | image i rest ih =>
      have behind := ih fun s member => untrusted s (List.mem_cons_of_mem _ member)
      rw [markupOf, events, List.flatMap_append, ← behind, markup, imageMarkup_eq, eventsIn]
      simp
  | code c rest ih =>
      have behind := ih fun s member => untrusted s (List.mem_cons_of_mem _ member)
      rw [markupOf, events, List.flatMap_append, ← behind, markup, codeMarkup_eq, eventsIn]
  | text s rest ih =>
      have behind := ih fun s member => untrusted s (List.mem_cons_of_mem _ member)
      rw [markupOf, events, List.flatMap_append, ← behind, markup, eventsIn]
      simp [Event.write]
  | _ _ rest ih => exact ih fun s member => untrusted s (List.mem_cons_of_mem _ member)

/-! ## Legible names -/

theorem isAttributeName_of_keptAttribute {entry : String × Value} {e : String × Option String}
    (kept : keptAttribute entry = some e) : isAttributeName e.1 = true := by
  unfold keptAttribute at kept
  split_ifs at kept with valid
  obtain ⟨name, value⟩ := entry
  obtain s | (_ | _) := value <;> cases kept <;> exact valid

theorem legible_startTag {tag : String} (legible : isTagName tag = true) (attrs : Attributes) :
    (startTag tag attrs).Legible := by
  refine ⟨legible, fun e member => ?_⟩
  obtain ⟨entry, -, kept⟩ := List.mem_filterMap.mp member
  exact isAttributeName_of_keptAttribute kept

theorem legible_imageTag (i : Image) : (imageTag i).Legible := by
  have name : isTagName "img" = true := by decide
  have src : isAttributeName "src" = true := by decide
  have alt : isAttributeName "alt" = true := by decide
  have title : isAttributeName "title" = true := by decide
  refine ⟨name, fun e member => ?_⟩
  simp only [imageTag, List.mem_append, List.mem_cons, List.not_mem_nil, or_false,
    Option.mem_toList, Option.map_eq_some_iff] at member
  obtain (rfl | rfl) | ⟨text, -, rfl⟩ := member
  exacts [src, alt, title]

theorem legible_codeEvents (c : CodeBlock) : ∀ event ∈ codeEvents c, event.Legible := by
  have pre : isTagName "pre" = true := by decide
  have code : isTagName "code" = true := by decide
  have class_name : isAttributeName "class" = true := by decide
  have code_tag : (codeTag c).Legible := by
    refine ⟨code, fun e member => ?_⟩
    obtain ⟨lang, -, rfl⟩ := Option.map_eq_some_iff.mp (Option.mem_toList.mp member)
    exact class_name
  intro event member
  simp only [codeEvents, List.mem_cons, List.not_mem_nil, or_false] at member
  obtain rfl | rfl | rfl | rfl | rfl := member
  exacts [⟨pre, by simp⟩, code_tag, trivial, code, pre]

/-- The names in the events of a forest are read as what they are, if its tags are. -/
theorem legible_of_mem_events {nodes : List Node}
    (tags : ∀ tag ∈ Node.tagsOf nodes, isTagName tag = true) :
    ∀ event ∈ events nodes, event.Legible := by
  induction nodes using Node.forest_induction with
  | nil => simp [events]
  | element tag attrs children transparent rest inner outer =>
      simp only [Node.tagsOf, Node.tags, List.cons_append, List.forall_mem_cons,
        List.forall_mem_append] at tags
      obtain ⟨legible, inside, behind⟩ := tags
      have start : (startTag tag attrs).Legible := legible_startTag legible attrs
      rw [events, List.forall_mem_append, eventsIn]
      refine ⟨?_, outer behind⟩
      split_ifs
      · exact inner inside
      · exact List.forall_mem_singleton.mpr start
      · rw [List.forall_mem_append, List.forall_mem_cons]
        exact ⟨⟨start, inner inside⟩, List.forall_mem_singleton.mpr legible⟩
  | image i rest ih =>
      rw [events, List.forall_mem_append]
      exact ⟨List.forall_mem_singleton.mpr (legible_imageTag i), ih tags⟩
  | code c rest ih =>
      rw [events, List.forall_mem_append]
      exact ⟨legible_codeEvents c, ih tags⟩
  | text s rest ih => exact List.forall_mem_cons.mpr ⟨trivial, ih tags⟩
  | _ _ rest ih => exact ih tags

/-- The markup of a forest without trusted markup is read as the events of the forest, with adjacent
texts merged. -/
theorem readMarkup_render {nodes : List Node} (untrusted : ∀ s, Node.raw s ∉ leaves nodes)
    (tags : ∀ tag ∈ Node.tagsOf nodes, isTagName tag = true) :
    readMarkup (render nodes) = some (mergeTexts (events nodes)) := by
  rw [render, markupOf_eq_write untrusted]
  exact readMarkup_write (legible_of_mem_events tags)

/-- Text and values that look like markup, around the nodes that give no events of their own. -/
def hostile : List Node :=
  [.text "a < b & \"c\"",
    .element "div" ⟨[("title", .text "\"><x y='\x7b'>"), ("hidden", .flag true),
      ("off", .flag false), ("bad name", .text "z")]⟩
      [.element "p" .empty [.text "</div>"] true, .comment "note", .text "\x7bx\x7d",
        .element "br" .empty [.text "lost"] false, .image ⟨"i.png", "<pic>", none⟩] false,
    .placeholder 3, .text "", .text "&amp;", .code ⟨"<b>", some "x\"", none⟩]

/-- Each text and each value comes back as it was. -/
theorem readMarkup_hostile :
    (∀ s, Node.raw s ∉ leaves hostile) ∧
      (∀ tag ∈ Node.tagsOf hostile, isTagName tag = true) ∧
      readMarkup (render hostile) = some
        [.text "a < b & \"c\"",
          .opening ⟨"div", [("title", some "\"><x y='\x7b'>"), ("hidden", none)]⟩,
          .text "</div>\x7bx\x7d", .single ⟨"br", []⟩,
          .single ⟨"img", [("src", some "i.png"), ("alt", some "<pic>")]⟩, .closing "div",
          .text "&amp;", .opening ⟨"pre", []⟩, .opening ⟨"code", [("class", some "language-x\"")]⟩,
          .text "<b>", .closing "code", .closing "pre"] := by
  have untrusted : ∀ s, Node.raw s ∉ leaves hostile := by simp [hostile, leaves, leavesIn]
  have tags : ∀ tag ∈ Node.tagsOf hostile, isTagName tag = true := by decide
  exact ⟨untrusted, tags, (readMarkup_render untrusted tags).trans (by decide)⟩

end SlideDeck.Markup
