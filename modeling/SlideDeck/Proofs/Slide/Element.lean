import SlideDeck.Proofs.Attribute.Shown
import SlideDeck.Proofs.Markup.Events

/-!
# Sound elements

What every pass over a slide keeps of each element: a transparent element has no attributes, an
element without content has no children, no attribute is `false`, and its tag is a name. Then an
element that the markup leaves out has nothing that the markup would have to say.
-/

namespace SlideDeck.Slide

open Markup (isTagName)

/-- An element of a forest. -/
structure Element where
  tag : String
  attrs : Attributes
  children : List Node
  transparent : Bool

mutual

/-- The elements in a node, an element before the elements in it. -/
def elementsIn : Node → List Element
  | .element tag attrs children transparent =>
    ⟨tag, attrs, children, transparent⟩ :: elements children
  | _ => []

/-- The elements of a forest in document order. -/
def elements : List Node → List Element
  | [] => []
  | n :: rest => elementsIn n ++ elements rest

end

/-- What the passes keep of an element. -/
structure Element.Sound (e : Element) : Prop where
  bare : e.transparent = true → e.attrs = .empty
  hollow : voidTags.contains e.tag = true → e.children = []
  shown : e.attrs.Shown
  named : isTagName e.tag = true

/-- All elements are sound. -/
def Sound (nodes : List Node) : Prop := ∀ e ∈ elements nodes, e.Sound

@[simp]
theorem sound_nil : Sound [] := fun _ member => (List.not_mem_nil member).elim

theorem sound_cons {n : Node} {rest : List Node} :
    Sound (n :: rest) ↔ (∀ e ∈ elementsIn n, e.Sound) ∧ Sound rest :=
  List.forall_mem_append

/-- A node that is no element and has none in it does not matter. -/
theorem Sound.cons {n : Node} {rest : List Node} (leaf : elementsIn n = []) (sound : Sound rest) :
    Sound (n :: rest) := by
  refine sound_cons.mpr ⟨?_, sound⟩
  rw [leaf]
  exact sound_nil

theorem sound_element {tag : String} {attrs : Attributes} {children : List Node}
    {transparent : Bool} {rest : List Node} :
    Sound (.element tag attrs children transparent :: rest) ↔
      Element.Sound ⟨tag, attrs, children, transparent⟩ ∧ Sound children ∧ Sound rest := by
  rw [sound_cons, elementsIn, List.forall_mem_cons, and_assoc]
  rfl

theorem elements_append (left right : List Node) :
    elements (left ++ right) = elements left ++ elements right := by
  induction left with
  | nil => rfl
  | cons n left ih => rw [List.cons_append, elements, ih, elements, List.append_assoc]

theorem sound_append {left right : List Node} :
    Sound (left ++ right) ↔ Sound left ∧ Sound right := by
  rw [Sound, elements_append]
  exact List.forall_mem_append

theorem Sound.before {n : Node} {rest : List Node} (here : Sound [n]) (behind : Sound rest) :
    Sound (n :: rest) := by
  have both : Sound ([n] ++ rest) := sound_append.mpr ⟨here, behind⟩
  exact both

theorem sound_iff_forall {nodes : List Node} :
    Sound nodes ↔ ∀ n ∈ nodes, ∀ e ∈ elementsIn n, e.Sound := by
  induction nodes with
  | nil => exact ⟨fun _ _ member => (List.not_mem_nil member).elim, fun _ => sound_nil⟩
  | cons n rest ih => rw [sound_cons, ih, List.forall_mem_cons]

theorem sound_flatMap {α : Type} {f : α → List Node} {l : List α}
    (each : ∀ a ∈ l, Sound (f a)) : Sound (l.flatMap f) := by
  refine sound_iff_forall.mpr fun n member => ?_
  obtain ⟨a, a_mem, n_mem⟩ := List.mem_flatMap.mp member
  exact sound_iff_forall.mp (each a a_mem) n n_mem

/-- Nodes that are taken from others, texts apart. -/
theorem Sound.of_mem {nodes kept : List Node} (sound : Sound nodes)
    (origin : ∀ n ∈ kept, n ∈ nodes ∨ ∃ s, n = .text s) : Sound kept := by
  refine sound_iff_forall.mpr fun n member => ?_
  obtain from_nodes | ⟨s, rfl⟩ := origin n member
  · exact sound_iff_forall.mp sound n from_nodes
  · exact fun _ member => (List.not_mem_nil member).elim

/-! ## Elements with content -/

/-- True of the name of an element that may have content. -/
def isContainerTag (tag : String) : Bool := isTagName tag && !voidTags.contains tag

theorem Element.Sound.container {tag : String} (named : isContainerTag tag = true)
    {attrs : Attributes} (shown : attrs.Shown) (children : List Node) :
    Element.Sound ⟨tag, attrs, children, false⟩ := by
  obtain ⟨name, not_void⟩ := Bool.and_eq_true_iff.mp named
  refine ⟨nofun, fun void => ?_, shown, name⟩
  rw [void] at not_void
  cases not_void

theorem Element.Sound.veil {tag : String} (named : isContainerTag tag = true)
    (children : List Node) : Element.Sound ⟨tag, .empty, children, true⟩ := by
  obtain ⟨-, hollow, shown, name⟩ := container named Attributes.shown_empty children
  exact ⟨fun _ => rfl, hollow, shown, name⟩

theorem Element.Sound.childless {tag : String} (named : isTagName tag = true) {attrs : Attributes}
    (shown : attrs.Shown) : Element.Sound ⟨tag, attrs, [], false⟩ :=
  ⟨nofun, fun _ => rfl, shown, named⟩

/-- The same element with other attributes and children. -/
theorem Element.Sound.update {e : Element} (sound : e.Sound) {attrs : Attributes}
    {children : List Node} (bare : e.transparent = true → attrs = e.attrs) (shown : attrs.Shown)
    (hollow : e.children = [] → children = []) :
    Element.Sound ⟨e.tag, attrs, children, e.transparent⟩ :=
  ⟨fun hidden => (bare hidden).trans (sound.bare hidden), fun void => hollow (sound.hollow void),
    shown, sound.named⟩

section

variable {tag : String} {children : List Node}

theorem Sound.plain (inside : Sound children) (named : isContainerTag tag = true) :
    Sound [.plain tag children] :=
  sound_element.mpr ⟨.container named Attributes.shown_empty children, inside, sound_nil⟩

theorem Sound.tagged (inside : Sound children) (named : isContainerTag tag = true)
    {attrs : List (String × Value)} (shown : ShownEntries attrs) :
    Sound [.tagged tag attrs children] :=
  sound_element.mpr
    ⟨.container named (Attributes.shown_ofList shown) children, inside, sound_nil⟩

theorem Sound.classed (inside : Sound children) (named : isContainerTag tag = true)
    (names : String) : Sound [.classed tag names children] :=
  sound_element.mpr
    ⟨.container named (Attributes.shown_empty.addClass names) children, inside, sound_nil⟩

end

end SlideDeck.Slide
