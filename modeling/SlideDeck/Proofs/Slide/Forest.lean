import Mathlib.Tactic.Common
import SlideDeck.Slide.Node

/-!
# Forests of slide nodes

Induction on a forest, its leaves in document order, and the replacement of its leaves by forests.
What the passes over a slide keep is said of the leaves.
-/

namespace SlideDeck.Slide

/-- Induction on a forest: an element in front of others comes with its children, and every other
node with the nodes behind it only. -/
@[elab_as_elim]
theorem Node.forest_induction {motive : List Node → Prop} (nil : motive [])
    (element : ∀ tag attrs children transparent rest, motive children → motive rest →
      motive (.element tag attrs children transparent :: rest))
    (text : ∀ s rest, motive rest → motive (.text s :: rest))
    (raw : ∀ s rest, motive rest → motive (.raw s :: rest))
    (comment : ∀ body rest, motive rest → motive (.comment body :: rest))
    (image : ∀ i rest, motive rest → motive (.image i :: rest))
    (code : ∀ c rest, motive rest → motive (.code c :: rest))
    (placeholder : ∀ handle rest, motive rest → motive (.placeholder handle :: rest)) :
    ∀ nodes, motive nodes
  | [] => nil
  | .element tag attrs children transparent :: rest =>
      element tag attrs children transparent rest
        (forest_induction nil element text raw comment image code placeholder children)
        (forest_induction nil element text raw comment image code placeholder rest)
  | .text s :: rest =>
      text s rest (forest_induction nil element text raw comment image code placeholder rest)
  | .raw s :: rest =>
      raw s rest (forest_induction nil element text raw comment image code placeholder rest)
  | .comment body :: rest =>
      comment body rest (forest_induction nil element text raw comment image code placeholder rest)
  | .image i :: rest =>
      image i rest (forest_induction nil element text raw comment image code placeholder rest)
  | .code c :: rest =>
      code c rest (forest_induction nil element text raw comment image code placeholder rest)
  | .placeholder handle :: rest =>
      placeholder handle rest
        (forest_induction nil element text raw comment image code placeholder rest)

mutual

/-- The leaves of a node. -/
def leavesIn : Node → List Node
  | .element _ _ children _ => leaves children
  | n => [n]

/-- The leaves of a forest in document order: its nodes at any depth that are no elements. -/
def leaves : List Node → List Node
  | [] => []
  | n :: rest => leavesIn n ++ leaves rest

end

mutual

/-- Replaces the leaves of a node. -/
def graftIn (f : Node → List Node) : Node → List Node
  | .element tag attrs children transparent => [.element tag attrs (graft f children) transparent]
  | n => f n

/-- Replaces each leaf of a forest by a forest; the elements stay as they are. -/
def graft (f : Node → List Node) : List Node → List Node
  | [] => []
  | n :: rest => graftIn f n ++ graft f rest

end

@[simp]
theorem leaves_element (tag : String) (attrs : Attributes) (children : List Node)
    (transparent : Bool) (rest : List Node) :
    leaves (.element tag attrs children transparent :: rest) = leaves children ++ leaves rest := rfl

@[simp]
theorem leaves_append (left right : List Node) :
    leaves (left ++ right) = leaves left ++ leaves right := by
  induction left with
  | nil => rfl
  | cons n left ih => simp [leaves, ih]

theorem leaves_flatMap {α : Type} (f : α → List Node) (l : List α) :
    leaves (l.flatMap f) = l.flatMap fun a => leaves (f a) := by
  induction l with
  | nil => rfl
  | cons a l ih => rw [List.flatMap_cons, leaves_append, ih, List.flatMap_cons]

theorem graft_append (f : Node → List Node) (left right : List Node) :
    graft f (left ++ right) = graft f left ++ graft f right := by
  induction left with
  | nil => rfl
  | cons n left ih => simp [graft, ih]

/-- Induction on a forest of blank texts. -/
@[elab_as_elim]
theorem Node.blank_induction {motive : List Node → Prop} (nil : motive [])
    (text : ∀ s rest, Text.isBlankText s.toList = true → motive rest → motive (.text s :: rest))
    {nodes : List Node} (blank : ∀ n ∈ nodes, n.isBlankText = true) : motive nodes := by
  induction nodes with
  | nil => exact nil
  | cons n rest ih =>
      obtain ⟨here, later⟩ := List.forall_mem_cons.mp blank
      cases n with
      | text s => exact text s rest here (ih later)
      | _ => cases here

end SlideDeck.Slide
