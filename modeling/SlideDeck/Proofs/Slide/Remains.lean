import Mathlib.Data.List.TakeWhile
import SlideDeck.Proofs.Slide.Forest
import SlideDeck.Slide.Images

/-!
# What remains of a forest

The passes over the structure of a slide drop nodes that show nothing and change the attributes of
those they keep. `Remains` says what they may do: nothing else is dropped, and nothing is added,
doubled or moved. It composes along passes (`Remains.trans`), and it keeps the content of a forest
(`Remains.content_eq`).
-/

namespace SlideDeck.Slide

/-- How an image is shown, by the annotation in its alternative text. -/
def styleOf (i : Image) : ImageStyle := ImageStyle.parse (splitAlt i.alt).2

/-- True of an image that is a background layer. -/
def isBackground (i : Image) : Bool := (styleOf i).background

/-- `Remains before after` says that `after` is what remains of `before` when comments, blank texts,
background images and the paragraphs left with nothing but blank text may go. Other nodes stay in
their places: an element with any attributes, a text up to the white space at its end, and an image
as it is or as its element. -/
inductive Remains : List Node → List Node → Prop
  /-- Nothing remains of nothing. -/
  | nil : Remains [] []
  /-- A node stays as it is. -/
  | same {rest left : List Node} (n : Node) (behind : Remains rest left) :
      Remains (n :: rest) (n :: left)
  /-- An element stays with what remains of its children. -/
  | element {children kept rest left : List Node} (tag : String) (before after : Attributes)
      (transparent : Bool) (inside : Remains children kept) (behind : Remains rest left) :
      Remains (.element tag before children transparent :: rest)
        (.element tag after kept transparent :: left)
  /-- A text stays, the white space at its end aside. -/
  | text {s t : String} {rest left : List Node}
      (trimmed : Text.trimEnd s.toList = Text.trimEnd t.toList) (behind : Remains rest left) :
      Remains (.text s :: rest) (.text t :: left)
  /-- An image becomes its element. -/
  | image {i : Image} {rest left : List Node} (shown : isBackground i = false)
      (attrs : Attributes) (behind : Remains rest left) :
      Remains (.image i :: rest) (.element "img" attrs [] false :: left)
  /-- A comment goes. -/
  | comment {rest left : List Node} (body : String) (behind : Remains rest left) :
      Remains (.comment body :: rest) left
  /-- A blank text goes. -/
  | blank {s : String} {rest left : List Node} (blank : Text.isBlankText s.toList = true)
      (behind : Remains rest left) : Remains (.text s :: rest) left
  /-- A background image goes. -/
  | background {i : Image} {rest left : List Node} (background : isBackground i = true)
      (behind : Remains rest left) : Remains (.image i :: rest) left
  /-- A paragraph goes when nothing but blank text remains in it. -/
  | paragraph {tag : String} {children kept rest left : List Node} (paragraph : tag = "p")
      (attrs : Attributes) (transparent : Bool) (inside : Remains children kept)
      (blank : ∀ n ∈ kept, n.isBlankText = true) (behind : Remains rest left) :
      Remains (.element tag attrs children transparent :: rest) left

namespace Remains

theorem refl : ∀ nodes : List Node, Remains nodes nodes
  | [] => .nil
  | n :: rest => .same n (refl rest)

theorem append {a b c d : List Node} (first : Remains a b) (second : Remains c d) :
    Remains (a ++ c) (b ++ d) := by
  induction first with
  | nil => exact second
  | same n _ ih => exact .same n ih
  | element tag before after transparent inside _ _ ih =>
      exact .element tag before after transparent inside ih
  | text trimmed _ ih => exact .text trimmed ih
  | image shown attrs _ ih => exact .image shown attrs ih
  | comment body _ ih => exact .comment body ih
  | blank blank _ ih => exact .blank blank ih
  | background background _ ih => exact .background background ih
  | paragraph paragraph attrs transparent inside blank _ _ ih =>
      exact .paragraph paragraph attrs transparent inside blank ih

theorem flatMap {α : Type} {f g : α → List Node} (each : ∀ a, Remains (f a) (g a)) (l : List α) :
    Remains (l.flatMap f) (l.flatMap g) := by
  induction l with
  | nil => exact .nil
  | cons a l ih => exact (each a).append ih

end Remains

theorem isBlankText_iff_trimEnd (s : List Char) :
    Text.isBlankText s = true ↔ Text.trimEnd s = [] := by
  simp [Text.isBlankText, Text.trimEnd, Text.dropEndWhile]

namespace Remains

theorem trans {a b c : List Node} (first : Remains a b) (second : Remains b c) : Remains a c := by
  induction first generalizing c with
  | nil => exact second
  | same n _ ih =>
      cases second with
      | same n behind => exact .same n (ih behind)
      | element tag before after transparent inside behind =>
          exact .element tag before after transparent inside (ih behind)
      | text trimmed behind => exact .text trimmed (ih behind)
      | image shown attrs behind => exact .image shown attrs (ih behind)
      | comment body behind => exact .comment body (ih behind)
      | blank blank behind => exact .blank blank (ih behind)
      | background background behind => exact .background background (ih behind)
      | paragraph paragraph attrs transparent inside blank behind =>
          exact .paragraph paragraph attrs transparent inside blank (ih behind)
  | element tag before after transparent inside _ inner ih =>
      cases second with
      | same n behind => exact .element tag before after transparent inside (ih behind)
      | element tag middle last transparent further behind =>
          exact .element tag before last transparent (inner further) (ih behind)
      | paragraph paragraph attrs transparent further blank behind =>
          exact .paragraph paragraph before transparent (inner further) blank (ih behind)
  | @text s t rest left trimmed _ ih =>
      cases second with
      | same n behind => exact .text trimmed (ih behind)
      | text trimmed' behind => exact .text (trimmed.trans trimmed') (ih behind)
      | blank blank behind =>
          have blank' : Text.isBlankText s.toList = true := by
            rw [isBlankText_iff_trimEnd] at blank ⊢
            rw [trimmed, blank]
          exact .blank blank' (ih behind)
  | image shown attrs _ ih =>
      cases second with
      | same n behind => exact .image shown attrs (ih behind)
      | element tag before after transparent inside behind =>
          cases inside
          exact .image shown after (ih behind)
      | paragraph paragraph attrs transparent inside blank behind =>
          -- the element of an image is no paragraph
          exact absurd paragraph (by decide)
  | comment body _ ih => exact .comment body (ih second)
  | blank blank _ ih => exact .blank blank (ih second)
  | background background _ ih => exact .background background (ih second)
  | paragraph paragraph attrs transparent inside blank _ _ ih =>
      exact .paragraph paragraph attrs transparent inside blank (ih second)

end Remains

/-! ## Content -/

/-- What a leaf adds to the content of a slide: trusted markup, code, and text without the white
space at its end, unless nothing is left of it. -/
def Node.content? : Node → Option Node
  | .text s =>
    if (Text.trimEnd s.toList).isEmpty then none
    else some (.text (String.ofList (Text.trimEnd s.toList)))
  | .raw s => some (.raw s)
  | .code c => some (.code c)
  | _ => none

/-- The content of a forest in document order. -/
def content (nodes : List Node) : List Node := (leaves nodes).filterMap Node.content?

@[simp]
theorem content_nil : content [] = [] := rfl

@[simp]
theorem content_append (left right : List Node) :
    content (left ++ right) = content left ++ content right := by
  simp [content]

@[simp]
theorem content_element (tag : String) (attrs : Attributes) (children : List Node)
    (transparent : Bool) (rest : List Node) :
    content (.element tag attrs children transparent :: rest) =
      content children ++ content rest := by
  simp [content]

theorem content_leaf {n : Node} (leaf : leavesIn n = [n]) (rest : List Node) :
    content (n :: rest) = n.content?.toList ++ content rest := by
  cases shown : n.content? <;> simp [content, leaves, leaf, shown]

theorem content_text (s : String) (rest : List Node) :
    content (.text s :: rest) = (Node.text s).content?.toList ++ content rest :=
  content_leaf rfl rest

theorem content?_blank {s : String} (blank : Text.isBlankText s.toList = true) :
    (Node.text s).content? = none := by
  rw [isBlankText_iff_trimEnd] at blank
  simp [Node.content?, blank]

theorem content_of_blank {nodes : List Node} (blank : ∀ n ∈ nodes, n.isBlankText = true) :
    content nodes = [] := by
  refine Node.blank_induction rfl (fun s rest here ih => ?_) blank
  rw [content_text, content?_blank here, ih, Option.toList_none, List.nil_append]

/-- What remains of a forest has its content. -/
theorem Remains.content_eq {before after : List Node} (remains : Remains before after) :
    content after = content before := by
  induction remains with
  | nil => rfl
  | same n _ ih =>
      rw [← List.singleton_append, content_append, ih, ← content_append, List.singleton_append]
  | element _ _ _ _ _ _ inner ih => rw [content_element, content_element, inner, ih]
  | @text s t _ _ trimmed _ ih =>
      have same : (Node.text t).content? = (Node.text s).content? := by
        simp only [Node.content?, trimmed]
      rw [content_text, content_text, same, ih]
  | image _ _ _ ih => rw [content_element, content_leaf rfl, ih]; rfl
  | comment _ _ ih => rw [content_leaf rfl, ih]; rfl
  | blank blank _ ih => rw [content_text, content?_blank blank, ih]; rfl
  | background _ _ ih => rw [content_leaf rfl, ih]; rfl
  | paragraph _ _ _ _ blank _ inner ih =>
      rw [content_element, ← inner, content_of_blank blank, ih]; rfl

end SlideDeck.Slide
