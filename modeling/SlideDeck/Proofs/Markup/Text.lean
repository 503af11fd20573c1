import SlideDeck.Proofs.Markup.Events

/-!
# The text that markup shows

Markup without its tags, with its references replaced, is the text that it shows. For a forest
without trusted markup this is the text of its events (`shownText_render`). Within the events of a
forest each element ends where it should (`within_events`), so that what a selected element holds
can be read off them, with texts merged or not (`contents_mergeTexts`).
-/

namespace SlideDeck.Markup

open Slide (Node render escape isAttributeName leaves voidTags)

/-! ## Markup without its tags -/

/-- Characters without tags, that is without what stands from `<` up to the next `>`. The first
argument is true within a tag. -/
def stripFrom : Bool → List Char → List Char
  | _, [] => []
  | true, c :: rest => stripFrom (c ≠ '>') rest
  | false, c :: rest => if c = '<' then stripFrom true rest else c :: stripFrom false rest

/-- Markup without its tags. -/
def stripTags (s : List Char) : List Char := stripFrom false s

/-- The text that markup shows. -/
def shownText (s : String) : String := String.ofList (decode (stripTags s.toList))

/-- The texts among events, joined. -/
def textOf : List Event → String
  | [] => ""
  | .text s :: rest => s ++ textOf rest
  | _ :: rest => textOf rest

theorem textOf_append (left right : List Event) :
    textOf (left ++ right) = textOf left ++ textOf right := by
  induction left with
  | nil => simp [textOf]
  | cons event left ih => cases event <;> simp [textOf, ih, String.append_assoc]

/-- Text without the start of a tag stays. -/
theorem stripTags_append {s : List Char} (free : '<' ∉ s) (rest : List Char) :
    stripTags (s ++ rest) = s ++ stripTags rest := by
  induction s with
  | nil => rfl
  | cons c s ih =>
      obtain ⟨c_ne, free⟩ := not_or.mp (mt List.mem_cons.mpr free)
      rw [List.cons_append, stripTags, stripFrom, if_neg (Ne.symm c_ne), ← stripTags, ih free,
        List.cons_append]

/-- A tag is left out. -/
theorem stripTags_tag {inner : List Char} (free : '>' ∉ inner) (rest : List Char) :
    stripTags ('<' :: inner ++ '>' :: rest) = stripTags rest := by
  have within_tag : stripFrom true (inner ++ '>' :: rest) = stripFrom false rest := by
    induction inner with
    | nil => rfl
    | cons c inner ih =>
        obtain ⟨c_ne, free⟩ := not_or.mp (mt List.mem_cons.mpr free)
        rw [List.cons_append, stripFrom, decide_eq_true (Ne.symm c_ne), ih free]
  rw [List.cons_append, stripTags, stripFrom, if_pos rfl, within_tag, stripTags]

theorem gt_not_mem_writeAttribute {e : String × Option String}
    (valid : isAttributeName e.1 = true) : '>' ∉ writeAttribute e := by
  have name : '>' ∉ e.1.toList := fun member => by cases isNameChar_of_isAttributeName valid member
  obtain ⟨key, value⟩ := e
  cases value with
  | none => simpa [writeAttribute] using name
  | some value =>
      simpa [writeAttribute, Slide.quoted, not_mem_escape (rfl : isInert '>' = false)] using name

theorem gt_not_mem_of_isTagName {name : String} (legible : isTagName name = true) :
    '>' ∉ name.toList := fun member => by cases (isTagName_iff.mp legible).2 '>' member

/-- A tag is written with nothing in it that ends it earlier. -/
theorem Tag.Legible.exists_write {tag : Tag} (legible : tag.Legible) :
    ∃ inner, tag.write = '<' :: inner ∧ '>' ∉ inner := by
  refine ⟨tag.name.toList ++ tag.attrs.flatMap writeAttribute, rfl, ?_⟩
  rw [List.mem_append, List.mem_flatMap]
  rintro (name | ⟨e, member, written⟩)
  · exact gt_not_mem_of_isTagName legible.1 name
  · exact gt_not_mem_writeAttribute (legible.2 e member) written

/-- An event that is no text is written as one tag. -/
theorem exists_write_eq {event : Event} (legible : event.Legible)
    (tagged : ∀ s, event ≠ .text s) :
    ∃ inner, event.write = '<' :: inner ++ ['>'] ∧ '>' ∉ inner := by
  cases event with
  | opening tag =>
      obtain ⟨inner, written, free⟩ := Tag.Legible.exists_write legible
      exact ⟨inner, by rw [Event.write, written], free⟩
  | single tag =>
      obtain ⟨inner, written, free⟩ := Tag.Legible.exists_write legible
      exact ⟨inner ++ [' ', '/'], by simp [Event.write, written], by simp [free]⟩
  | closing name =>
      exact ⟨'/' :: name.toList, rfl, by simp [gt_not_mem_of_isTagName legible]⟩
  | text s => exact absurd rfl (tagged s)

/-- Written events without their tags are their escaped text. -/
theorem stripTags_write {events : List Event} (legible : ∀ event ∈ events, event.Legible) :
    stripTags (events.flatMap Event.write) = escape (textOf events) := by
  -- escaped text has nothing in it to strip, and every other event is one tag
  induction events with
  | nil => rfl
  | cons event events ih =>
      obtain ⟨here, later⟩ := List.forall_mem_cons.mp legible
      rw [List.flatMap_cons]
      by_cases is_text : ∃ s, event = .text s
      · obtain ⟨s, rfl⟩ := is_text
        have free : '<' ∉ escape s := not_mem_escape rfl s
        rw [Event.write, stripTags_append free, ih later, textOf, escape_append]
      · have tagged := not_exists.mp is_text
        have unseen : textOf (event :: events) = textOf events := by
          cases event with
          | text s => exact absurd rfl (tagged s)
          | _ => rfl
        obtain ⟨inner, written, free⟩ := exists_write_eq here tagged
        rw [written, List.append_assoc, List.singleton_append, stripTags_tag free, ih later, unseen]

/-- The markup of a forest without trusted markup shows the text of its events. -/
theorem shownText_render {nodes : List Node} (untrusted : ∀ s, Node.raw s ∉ leaves nodes)
    (tags : ∀ tag ∈ Node.tagsOf nodes, isTagName tag = true) :
    shownText (render nodes) = textOf (events nodes) := by
  rw [shownText, render, String.toList_ofList, markupOf_eq_write untrusted,
    stripTags_write (legible_of_mem_events tags), escape, decode_escapeChars, String.ofList_toList]

/-! ## What an element holds -/

/-- What is left of an element in front of its end tag. The number counts the elements in it that are
open. -/
def within : Nat → List Event → List Event
  | _, [] => []
  | 0, .closing _ :: _ => []
  | depth + 1, .closing name :: rest => .closing name :: within depth rest
  | depth, .opening tag :: rest => .opening tag :: within (depth + 1) rest
  | depth, event :: rest => event :: within depth rest

/-- What each element holds whose start tag is selected, in the order of these tags. -/
def contents (selects : Tag → Bool) : List Event → List (List Event)
  | [] => []
  | .opening tag :: rest => (if selects tag then [within 0 rest] else []) ++ contents selects rest
  | _ :: rest => contents selects rest

/-- True of a start tag with a name and, among the words of its class, a given one. -/
def Tag.isClassed (name word : String) (tag : Tag) : Bool :=
  tag.name = name && tag.attrs.any fun e =>
    e.1 = "class" && (e.2.map fun names => Text.words names.toList).any (·.contains word.toList)

/-- The events of a forest leave no element open and end none that was open before. -/
theorem within_events (nodes : List Node) (depth : Nat) (rest : List Event) :
    within depth (events nodes ++ rest) = events nodes ++ within depth rest := by
  induction nodes using Node.forest_induction generalizing depth rest with
  | nil => rfl
  | element tag attrs children transparent others inner outer =>
      rw [events, eventsIn, List.append_assoc, List.append_assoc, ← outer]
      split_ifs
      · exact inner depth _
      · rfl
      · -- one element more is open around the children, and its own end tag closes it
        simp [within, inner]
  | text s others ih => exact congrArg _ (ih depth rest)
  | image i others ih => exact congrArg _ (ih depth rest)
  | code c others ih => simp [events, eventsIn, codeEvents, within, ih]
  | _ _ others ih => exact ih depth rest

/-- An element that is selected holds the events of its children. -/
theorem contents_around (selects : Tag → Bool) (tag : Tag) (name : String) (children : List Node)
    (rest : List Event) :
    contents selects (.opening tag :: (events children ++ .closing name :: rest)) =
      (if selects tag then [events children] else []) ++
        contents selects (events children ++ .closing name :: rest) := by
  rw [contents, within_events, within, List.append_nil]

/-- What elements hold in the events of a forest does not depend on what stands behind them. -/
theorem contents_events_append (selects : Tag → Bool) (nodes : List Node) (rest : List Event) :
    contents selects (events nodes ++ rest) =
      contents selects (events nodes) ++ contents selects rest := by
  induction nodes using Node.forest_induction generalizing rest with
  | nil => rfl
  | element tag attrs children transparent others inner outer =>
      rw [events, eventsIn, List.append_assoc]
      split_ifs
      · rw [inner, inner, outer, List.append_assoc]
      · exact outer rest
      · simp only [List.append_assoc, List.cons_append, List.nil_append, contents_around, inner]
        exact congrArg _ (congrArg _ (outer rest))
  | code c others ih => simp [events, eventsIn, codeEvents, contents, within, ih]
  | _ _ others ih => exact ih rest

section

variable {tag : String} (solid : voidTags.contains tag = false) (attrs : Attributes)
  (children rest : List Node)

include solid

/-- An element with an end tag in front of other nodes. -/
theorem events_element : events (.element tag attrs children false :: rest) =
    .opening (startTag tag attrs) :: (events children ++ .closing tag :: events rest) := by
  rw [events, eventsIn, if_neg Bool.false_ne_true, solid, if_neg Bool.false_ne_true,
    List.append_assoc]
  rfl

theorem textOf_element : textOf (events (.element tag attrs children false :: rest)) =
    textOf (events children) ++ textOf (events rest) := by
  rw [events_element solid, textOf, textOf_append, textOf]
  all_goals nofun

theorem contents_element (selects : Tag → Bool) :
    contents selects (events (.element tag attrs children false :: rest)) =
      (if selects (startTag tag attrs) then [events children] else []) ++
        (contents selects (events children) ++ contents selects (events rest)) := by
  rw [events_element solid, contents_around, contents_events_append]
  rfl

end

theorem within_prependText (depth : Nat) (s : String) (events : List Event) :
    within depth (prependText s events) = prependText s (within depth events) := by
  by_cases empty : s = ""
  · rw [empty, prependText_empty, prependText_empty]
  · cases events with
    | nil => simp [prependText, within, empty]
    | cons event events => cases event <;> cases depth <;> simp [prependText, within, empty]

theorem within_mergeTexts (depth : Nat) (events : List Event) :
    within depth (mergeTexts events) = mergeTexts (within depth events) := by
  induction events generalizing depth with
  | nil => rfl
  | cons event events ih =>
      cases event with
      | text s => simp [mergeTexts, within, within_prependText, ih]
      | closing name => cases depth <;> simp [mergeTexts, within, ih]
      | _ => simp [mergeTexts, within, ih]

theorem contents_prependText (selects : Tag → Bool) (s : String) (events : List Event) :
    contents selects (prependText s events) = contents selects events := by
  unfold prependText
  split
  · rfl
  · split_ifs <;> rfl

/-- Merged texts are merged in what elements hold, and nothing else changes. -/
theorem contents_mergeTexts (selects : Tag → Bool) (events : List Event) :
    contents selects (mergeTexts events) = (contents selects events).map mergeTexts := by
  induction events with
  | nil => rfl
  | cons event events ih =>
      cases event with
      | text s =>
          rw [mergeTexts, contents_prependText]
          exact ih
      | opening tag =>
          rw [mergeTexts_cons (by simp), contents, contents, within_mergeTexts, ih, List.map_append]
          split_ifs <;> rfl
      | _ => exact ih

end SlideDeck.Markup
