import SlideDeck.Proofs.Slide.Steps

/-!
# Steps in markup

The start tags with a step key in the markup of a sound forest are those of its stepped elements, in
the same order (`exists_readMarkup_untrusted`): none of these elements is transparent or within an
element without content, and step keys are written out. Trusted markup, which may hold anything, is
set aside.
-/

namespace SlideDeck.Markup

open Slide (Node Sound Element elements isStepped isStepKey isAttributeName voidTags leaves
  leaves_element graft render sound_cons sound_element)

/-- The tag that an event starts an element with. -/
def Event.startTag? : Event → Option Tag
  | .opening tag | .single tag => some tag
  | _ => none

/-- The start tags among events. -/
def startTags (events : List Event) : List Tag := events.filterMap Event.startTag?

/-- True of a start tag with a step key. -/
def Tag.isStepped (tag : Tag) : Bool := tag.attrs.any fun e => isStepKey e.1

/-- The id of a stepped element in its start tag. -/
def Tag.stepId? (tag : Tag) : Option String :=
  (tag.attrs.find? fun e => e.1 = "data-step-id").bind Prod.snd

/-- The start tags with a step key among events. -/
def steppedTags (events : List Event) : List Tag := (startTags events).filter Tag.isStepped

theorem steppedTags_append (left right : List Event) :
    steppedTags (left ++ right) = steppedTags left ++ steppedTags right := by
  simp only [steppedTags, startTags, List.filterMap_append, List.filter_append]

theorem steppedTags_cons_none {event : Event} (none : event.startTag? = none)
    (rest : List Event) : steppedTags (event :: rest) = steppedTags rest := by
  rw [steppedTags, startTags, List.filterMap_cons_none none]
  rfl

theorem steppedTags_cons_some {event : Event} {tag : Tag} (some : event.startTag? = some tag)
    (rest : List Event) :
    steppedTags (event :: rest) = [tag].filter Tag.isStepped ++ steppedTags rest := by
  rw [steppedTags, startTags, List.filterMap_cons_some some, steppedTags, ← List.filter_append]
  rfl

/-! ## Attributes in a tag -/

theorem keptAttribute_of_ne {entry : String × Value} (name : isAttributeName entry.1 = true)
    (shown : entry.2 ≠ .flag false) : ∃ value, keptAttribute entry = some (entry.1, value) := by
  obtain ⟨key, value⟩ := entry
  rw [keptAttribute, if_pos name]
  obtain text | (_ | _) := value
  · exact ⟨some text, rfl⟩
  · exact absurd rfl shown
  · exact ⟨none, rfl⟩

theorem key_of_keptAttribute {entry : String × Value} {e : String × Option String}
    (kept : keptAttribute entry = some e) : e.1 = entry.1 := by
  unfold keptAttribute at kept
  split_ifs at kept
  obtain ⟨key, value⟩ := entry
  obtain text | (_ | _) := value <;> cases kept <;> rfl

/-- A tag has a step key exactly if the element has one. -/
theorem isStepped_startTag {attrs : Attributes} (shown : attrs.Shown) (tag : String) :
    (startTag tag attrs).isStepped = isStepped attrs := by
  rw [Bool.eq_iff_iff, Tag.isStepped, isStepped, List.any_eq_true, List.any_eq_true]
  constructor
  · rintro ⟨e, member, step⟩
    obtain ⟨entry, entry_mem, kept⟩ := List.mem_filterMap.mp member
    exact ⟨entry, entry_mem, key_of_keptAttribute kept ▸ step⟩
  · rintro ⟨entry, entry_mem, step⟩
    obtain ⟨value, kept⟩ :=
      keptAttribute_of_ne (Slide.isAttributeName_of_isStepKey step) (shown entry entry_mem)
    exact ⟨(entry.1, value), List.mem_filterMap.mpr ⟨entry, entry_mem, kept⟩, step⟩

/-- The id of an element is written out, whatever stands in front of it. -/
theorem find?_stepId {id : String} {entries : List (String × Value)}
    (marked : Attributes.find "data-step-id" entries = some (.text id)) :
    ((entries.filterMap keptAttribute).find? fun e => e.1 = "data-step-id") =
      some ("data-step-id", some id) := by
  induction entries with
  | nil => cases marked
  | cons entry rest ih =>
      obtain ⟨key, value⟩ := entry
      rw [Attributes.find] at marked
      split_ifs at marked with same
      · subst same
        obtain rfl := Option.some.inj marked
        have name : isAttributeName "data-step-id" = true := by decide
        have kept : keptAttribute ("data-step-id", .text id) = some ("data-step-id", some id) := by
          rw [keptAttribute, if_pos name]
        rw [List.filterMap_cons_some kept, List.find?_cons_of_pos (by simp)]
      · cases kept : keptAttribute (key, value) with
        | none =>
            rw [List.filterMap_cons_none kept]
            exact ih marked
        | some e =>
            have other : e.1 ≠ "data-step-id" := by
              rw [key_of_keptAttribute kept]
              exact same
            rw [List.filterMap_cons_some kept, List.find?_cons_of_neg (by simp [other])]
            exact ih marked

theorem stepId?_startTag {attrs : Attributes} {id : String}
    (marked : attrs.get? "data-step-id" = some (.text id)) (tag : String) :
    (startTag tag attrs).stepId? = some id := by
  rw [Tag.stepId?, startTag, find?_stepId marked]
  rfl

/-! ## Tags of a forest -/

/-- The names in the tags of images and code blocks are no step keys. -/
theorem steppedTags_leaf {n : Node} (leaf : Slide.elementsIn n = []) :
    steppedTags (eventsIn n) = [] := by
  have src : isStepKey "src" = false := by decide
  have alt : isStepKey "alt" = false := by decide
  have title : isStepKey "title" = false := by decide
  have names : isStepKey "class" = false := by decide
  cases n with
  | element tag attrs children transparent => cases leaf
  | image i =>
      have unstepped : (imageTag i).isStepped = false := by
        cases i.title <;> simp [Tag.isStepped, imageTag, *]
      rw [eventsIn, steppedTags_cons_some rfl, List.filter_cons_of_neg (by simp [unstepped])]
      rfl
  | code c =>
      have unstepped : (codeTag c).isStepped = false := by
        cases lang : c.lang <;> simp [Tag.isStepped, codeTag, names, lang]
      rw [eventsIn, codeEvents, steppedTags_cons_some rfl, steppedTags_cons_some rfl,
        List.filter_cons_of_neg (by simp [Tag.isStepped]),
        List.filter_cons_of_neg (by simp [unstepped])]
      rfl
  | _ => rfl

/-- The start tags of the stepped ones among elements. -/
def tagsOfStepped (es : List Element) : List Tag :=
  (es.filter fun e => isStepped e.attrs).map fun e => startTag e.tag e.attrs

theorem tagsOfStepped_append (left right : List Element) :
    tagsOfStepped (left ++ right) = tagsOfStepped left ++ tagsOfStepped right := by
  simp only [tagsOfStepped, List.filter_append, List.map_append]

theorem tagsOfStepped_cons {e : Element} (shown : e.attrs.Shown) (rest : List Element) :
    tagsOfStepped (e :: rest) =
      [startTag e.tag e.attrs].filter Tag.isStepped ++ tagsOfStepped rest := by
  have same := isStepped_startTag shown e.tag
  cases stepped : isStepped e.attrs <;>
    simp [tagsOfStepped, stepped, same]

/-- The start tags with a step key in the markup of a sound forest. -/
theorem steppedTags_events {nodes : List Node} (sound : Sound nodes) :
    steppedTags (events nodes) = tagsOfStepped (elements nodes) := by
  induction nodes using Node.forest_induction with
  | nil => rfl
  | element tag attrs children transparent rest inner outer =>
      obtain ⟨here, inside, behind⟩ := sound_element.mp sound
      rw [events, steppedTags_append, outer behind, elements, tagsOfStepped_append,
        Slide.elementsIn, tagsOfStepped_cons here.shown, ← inner inside, eventsIn]
      congr 1
      -- what a transparent or void element leaves out has no step key, or does not exist
      split_ifs with hidden void
      · obtain rfl : attrs = .empty := here.bare hidden
        rfl
      · obtain rfl : children = [] := here.hollow void
        exact steppedTags_cons_some rfl []
      · rw [List.cons_append, steppedTags_cons_some rfl, steppedTags_append,
          steppedTags_cons_none rfl []]
        exact congrArg _ (List.append_nil _)
  | _ n rest ih =>
      rw [events, steppedTags_append, steppedTags_leaf rfl, ih (sound_cons.mp sound).2]
      rfl

/-! ## Trusted markup -/

/-- A leaf, unless it is trusted markup. -/
def untrustedLeaf : Node → List Node
  | .raw _ => []
  | n => [n]

/-- A forest without trusted markup. -/
def untrusted (nodes : List Node) : List Node := graft untrustedLeaf nodes

theorem untrusted_element (tag : String) (attrs : Attributes) (children : List Node)
    (transparent : Bool) (rest : List Node) :
    untrusted (.element tag attrs children transparent :: rest) =
      .element tag attrs (untrusted children) transparent :: untrusted rest := rfl

theorem raw_not_mem_untrusted (nodes : List Node) (s : String) :
    Node.raw s ∉ leaves (untrusted nodes) := by
  induction nodes using Node.forest_induction with
  | nil => exact List.not_mem_nil
  | element tag attrs children transparent rest inner outer =>
      rw [untrusted_element, leaves_element, List.mem_append]
      exact not_or.mpr ⟨inner, outer⟩
  | raw t rest ih => exact ih
  | _ _ rest ih => exact List.not_mem_cons_of_ne_of_not_mem nofun ih

/-- A forest without trusted markup has none to set aside. -/
theorem untrusted_eq_self {nodes : List Node} (plain : ∀ s, Node.raw s ∉ leaves nodes) :
    untrusted nodes = nodes := by
  induction nodes using Node.forest_induction with
  | nil => rfl
  | element tag attrs children transparent rest inner outer =>
      have inside : ∀ s, Node.raw s ∉ leaves children := fun s member =>
        plain s (List.mem_append_left (leaves rest) member)
      have behind : ∀ s, Node.raw s ∉ leaves rest := fun s member =>
        plain s (List.mem_append_right (leaves children) member)
      rw [untrusted_element, inner inside, outer behind]
  | raw t rest ih => exact absurd List.mem_cons_self (plain t)
  | _ _ rest ih => exact congrArg (List.cons _) (ih fun s member =>
      plain s (List.mem_cons_of_mem _ member))

theorem events_untrusted (nodes : List Node) : events (untrusted nodes) = events nodes := by
  induction nodes using Node.forest_induction with
  | nil => rfl
  | element tag attrs children transparent rest inner outer =>
      rw [untrusted_element, events, events, outer, eventsIn, eventsIn, inner]
  | raw t rest ih => exact ih
  | _ _ rest ih => exact congrArg (_ ++ ·) ih

theorem tagsOf_untrusted (nodes : List Node) :
    Node.tagsOf (untrusted nodes) = Node.tagsOf nodes := by
  induction nodes using Node.forest_induction with
  | nil => rfl
  | element tag attrs children transparent rest inner outer =>
      rw [untrusted_element, Node.tagsOf, Node.tagsOf, outer, Node.tags, Node.tags, inner]
  | _ _ rest ih => exact ih

theorem named_of_sound {nodes : List Node} (sound : Sound nodes) :
    ∀ tag ∈ Node.tagsOf nodes, isTagName tag = true := by
  induction nodes using Node.forest_induction with
  | nil => exact fun _ member => (List.not_mem_nil member).elim
  | element tag attrs children transparent rest inner outer =>
      obtain ⟨here, inside, behind⟩ := sound_element.mp sound
      rw [Node.tagsOf, Node.tags, List.forall_mem_append, List.forall_mem_cons]
      exact ⟨⟨here.named, inner inside⟩, outer behind⟩
  | _ _ rest ih => exact ih (Slide.sound_cons.mp sound).2

theorem steppedTags_mergeTexts (found : List Event) :
    steppedTags (mergeTexts found) = steppedTags found := by
  have text : ∀ (s : String) (l : List Event), steppedTags (prependText s l) = steppedTags l := by
    intro s l
    unfold prependText
    split
    · exact (steppedTags_cons_none rfl _).trans (steppedTags_cons_none rfl _).symm
    · split_ifs
      · rfl
      · exact steppedTags_cons_none rfl _
  induction found with
  | nil => rfl
  | cons event rest ih =>
      cases event with
      | text s => rw [mergeTexts, text, ih, steppedTags_cons_none rfl]
      | closing name =>
          rw [mergeTexts_cons (by simp), steppedTags_cons_none rfl, ih, steppedTags_cons_none rfl]
      | opening tag | single tag =>
          rw [mergeTexts_cons (by simp), steppedTags_cons_some rfl, ih, steppedTags_cons_some rfl]

/-- The markup of a sound forest, trusted markup aside, is read, and the start tags with a step key
in it are those of the stepped elements of the forest, in the same order. -/
theorem exists_readMarkup_untrusted {nodes : List Node} (sound : Sound nodes) :
    ∃ found, readMarkup (render (untrusted nodes)) = some found ∧
      steppedTags found = tagsOfStepped (elements nodes) := by
  have tags : ∀ tag ∈ Node.tagsOf (untrusted nodes), isTagName tag = true := by
    rw [tagsOf_untrusted]
    exact named_of_sound sound
  refine ⟨mergeTexts (events nodes), ?_, ?_⟩
  · rw [← events_untrusted, render, markupOf_eq_write (raw_not_mem_untrusted nodes)]
    exact readMarkup_write (legible_of_mem_events tags)
  · rw [steppedTags_mergeTexts, steppedTags_events sound]

end SlideDeck.Markup
