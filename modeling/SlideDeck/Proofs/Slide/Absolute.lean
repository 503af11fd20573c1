import SlideDeck.Proofs.Attribute.Merge
import SlideDeck.Proofs.Slide.Element
import SlideDeck.Proofs.Slide.Images

/-!
# Containers of absolute images

The pass over the images marks an element when what is left in it is nothing but images that are
taken out of the flow. It decides while it walks, by a flag for such images and a flag for all else.
What the flags say of the result (`tells_makeup`) gives the marks (`applyImages_marks`): they are
exact, except that an element is not marked when nothing is seen in the result of some element in it
(`applyImages_emptiedParagraph`).
-/

namespace SlideDeck.Slide

/-- True of an image that is taken out of the flow. -/
def Node.IsAbsoluteImage (n : Node) : Prop := ∃ i, n = .image i ∧ (styleOf i).isAbsolute = true

/-- The node of an element. -/
def Element.node (e : Element) : Node := .element e.tag e.attrs e.children e.transparent

mutual

/-- What is seen of a node: of a transparent element what is in it, and of blank text nothing. -/
def seenIn : Node → List Node
  | .element tag attrs children transparent =>
    if transparent then seen children else [.element tag attrs children transparent]
  | n => if n.isBlankText then [] else [n]

/-- What is seen of a forest, looking through its transparent elements. -/
def seen : List Node → List Node
  | [] => []
  | n :: rest => seenIn n ++ seen rest

end

mutual

/-- The elements met on the way to what is seen of a node. -/
def metIn : Node → List Element
  | .element tag attrs children transparent =>
    ⟨tag, attrs, children, transparent⟩ :: if transparent then met children else []
  | _ => []

/-- The elements met on the way to what is seen of a forest. -/
def met : List Node → List Element
  | [] => []
  | n :: rest => metIn n ++ met rest

end

/-- One image that is taken out of the flow or several of them, and nothing else to be seen. -/
def OnlyAbsolute (nodes : List Node) : Prop :=
  seen nodes ≠ [] ∧ ∀ n ∈ seen nodes, n.IsAbsoluteImage

/-- Nothing is seen of an element behind the pass: it is a paragraph that goes, or transparent and
without anything to be seen in it. -/
def Element.IsUnseen (options : ImageOptions) (e : Element) : Prop :=
  seen (flowNodes options [e.node]) = []

/-- `Placed mark before after` says that `after` is what the pass leaves of `before` in the flow,
the images still unreplaced: background images go, and so do the paragraphs left with nothing but
blank text. Every other node stays, and `mark` relates each element to what is left of it. -/
inductive Placed (mark : Element → Element → Prop) : List Node → List Node → Prop
  | nil : Placed mark [] []
  | leaf {n : Node} {rest left : List Node} (leaf : elementsIn n = [])
      (shown : ∀ i ∈ n.image?, isBackground i = false) (behind : Placed mark rest left) :
      Placed mark (n :: rest) (n :: left)
  | background {i : Image} {rest left : List Node} (background : isBackground i = true)
      (behind : Placed mark rest left) : Placed mark (.image i :: rest) left
  | element {tag : String} {before after : Attributes} {children kept rest left : List Node}
      {transparent : Bool} (inside : Placed mark children kept)
      (stays : ¬(tag = "p" ∧ ∀ n ∈ kept, n.isBlankText = true))
      (marks : mark ⟨tag, before, children, transparent⟩ ⟨tag, after, kept, transparent⟩)
      (behind : Placed mark rest left) :
      Placed mark (.element tag before children transparent :: rest)
        (.element tag after kept transparent :: left)
  | paragraph {tag : String} {attrs : Attributes} {children kept rest left : List Node}
      {transparent : Bool} (inside : Placed mark children kept)
      (empty : tag = "p" ∧ ∀ n ∈ kept, n.isBlankText = true) (behind : Placed mark rest left) :
      Placed mark (.element tag attrs children transparent :: rest) left

/-! ## What is seen -/

theorem seen_append (left right : List Node) : seen (left ++ right) = seen left ++ seen right := by
  induction left with
  | nil => rfl
  | cons n left ih => rw [List.cons_append, seen, ih, seen, List.append_assoc]

theorem seen_singleton (n : Node) : seen [n] = seenIn n := List.append_nil _

theorem seen_of_blank {nodes : List Node} (blank : ∀ n ∈ nodes, n.isBlankText = true) :
    seen nodes = [] := by
  refine Node.blank_induction rfl (fun s rest here ih => ?_) blank
  have nothing : seenIn (.text s) = [] := if_pos here
  rw [seen, ih, nothing, List.append_nil]

/-- The element of an image is seen where the image is. -/
theorem seen_showImages (options : ImageOptions) (nodes : List Node) :
    seen (showImages options nodes) = [] ↔ seen nodes = [] := by
  induction nodes using Node.forest_induction with
  | nil => rfl
  | element tag attrs children transparent rest inner outer =>
      rw [showImages_element, seen, seen, List.append_eq_nil_iff, List.append_eq_nil_iff, outer]
      cases transparent with
      | true => simp [seenIn, inner]
      | false => simp [seenIn]
  | image i rest ih =>
      obtain ⟨attrs, element⟩ := imageElement_eq options i
      rw [showImages_image, element]
      simp [seen, seenIn, Node.isBlankText]
  | _ n rest ih =>
      rw [seen, List.append_eq_nil_iff, ← ih, ← List.append_eq_nil_iff]
      rfl

/-! ## What the pass leaves -/

/-- How the nodes of a forest count in the element around them. -/
def makeup (options : ImageOptions) (nodes : List Node) : Flow := (placeImages options nodes).2.2

/-- The attributes of an element behind the pass. -/
def markedAttributes (options : ImageOptions) (e : Element) : Attributes :=
  if (makeup options e.children).onlyAbsolute = true ∧ e.transparent = false then
    e.attrs.addClass "absolute-container"
  else e.attrs

mutual

/-- What the pass leaves of a node in the flow, the images unreplaced. -/
def placedIn (options : ImageOptions) : Node → List Node
  | .image i => if isBackground i = true then [] else [.image i]
  | .element tag attrs children transparent =>
    if tag = "p" ∧ ∀ n ∈ placed options children, n.isBlankText = true then []
    else
      [.element tag (markedAttributes options ⟨tag, attrs, children, transparent⟩)
        (placed options children) transparent]
  | n => [n]

/-- What the pass leaves of a forest in the flow, the images unreplaced. -/
def placed (options : ImageOptions) : List Node → List Node
  | [] => []
  | n :: rest => placedIn options n ++ placed options rest

end

variable (options : ImageOptions)

theorem placed_singleton (n : Node) : placed options [n] = placedIn options n := List.append_nil _

theorem placedIn_background {i : Image} (background : isBackground i = true) :
    placedIn options (.image i) = [] := by
  rw [placedIn, if_pos background]

theorem placedIn_shown {i : Image} (shown : isBackground i = false) :
    placedIn options (.image i) = [.image i] := by
  rw [placedIn, shown, if_neg Bool.false_ne_true]

theorem placeImage_element_eq (tag : String) (attrs : Attributes) (children : List Node)
    (transparent : Bool) :
    placeImage options (.element tag attrs children transparent) =
      (some (.element tag (markedAttributes options ⟨tag, attrs, children, transparent⟩)
          (placeImages options children).1 transparent), (placeImages options children).2.1,
        if (makeup options children).onlyAbsolute = true ∧ transparent = true then
          { absolute := true }
        else { content := true }) := by
  unfold placeImage markedAttributes makeup
  obtain ⟨nodes, layers, flow⟩ := placeImages options children
  dsimp only
  by_cases only : flow.onlyAbsolute = true <;> cases transparent <;> simp [only]

/-- The nodes in the flow are the placed ones, with an element for each image. -/
theorem flowNodes_eq_placed (nodes : List Node) :
    flowNodes options nodes = showImages options (placed options nodes) := by
  induction nodes using Node.forest_induction with
  | nil => rfl
  | element tag attrs children transparent rest inner outer =>
      rw [flowNodes] at inner outer ⊢
      rw [fst_placeImages_cons, placeImage_element_eq, Option.toList_some, List.singleton_append,
        prune_element, inner, outer, placed, placedIn]
      simp only [forall_blank_showImages]
      split_ifs
      · rfl
      · rfl
  | image i rest ih =>
      rw [flowNodes] at ih ⊢
      rw [fst_placeImages_cons, placed]
      cases background : isBackground i with
      | true =>
          rw [placeImage_background options background, placedIn_background options background]
          exact ih
      | false =>
          obtain ⟨flow, step⟩ := placeImage_shown options background
          obtain ⟨attrs, element⟩ := imageElement_eq options i
          rw [step, placedIn_shown options background, Option.toList_some, List.singleton_append,
            List.singleton_append, showImages_image, element, prune_element, if_neg (by decide), ih]
          rfl
  | _ n rest ih => exact congrArg (_ :: ·) ih

theorem isUnseen_iff (e : Element) :
    e.IsUnseen options ↔ seen (placedIn options e.node) = [] := by
  rw [Element.IsUnseen, flowNodes_eq_placed, seen_showImages, placed_singleton]

/-- What is seen of a transparent element behind the pass is what is seen in it, whether the element
stays or not. -/
theorem seen_placedIn_transparent (tag : String) (attrs : Attributes) (children : List Node) :
    seen (placedIn options (.element tag attrs children true)) = seen (placed options children) := by
  rw [placedIn]
  split_ifs with empty
  · rw [seen_of_blank empty.2]
    rfl
  · rw [seen_singleton, seenIn, if_pos rfl]

/-- No image is seen of an element that is not transparent. -/
theorem seen_placedIn_solid (tag : String) (attrs : Attributes) (children : List Node)
    (absolute : ∀ n ∈ seen (placedIn options (.element tag attrs children false)),
      n.IsAbsoluteImage) :
    seen (placedIn options (.element tag attrs children false)) = [] := by
  rw [placedIn] at absolute ⊢
  split_ifs at absolute ⊢
  · rfl
  · obtain ⟨i, image, -⟩ := absolute _ (List.mem_singleton.mpr rfl)
    cases image

/-! ## How nodes count -/

theorem makeup_cons (n : Node) (rest : List Node) :
    makeup options (n :: rest) = (placeImage options n).2.2.join (makeup options rest) := rfl

theorem makeup_image {i : Image} (shown : isBackground i = false) :
    (placeImage options (.image i)).2.2 =
      if (styleOf i).isAbsolute then { absolute := true } else { content := true } := by
  have foreground : (ImageStyle.parse (splitAlt i.alt).2).background = false := shown
  unfold placeImage
  simp only [foreground, Bool.false_eq_true, if_false]
  rfl

/-- What the two flags of nodes say of what the pass leaves of them, `passed` being the elements met
on the way to what was seen of them before: whether nothing but images out of the flow is seen and
all of these elements are seen, and, if so, whether there is such an image. -/
structure Flow.Tells (flow : Flow) (left : List Node) (passed : List Element) : Prop where
  content : flow.content = false ↔
    (∀ n ∈ seen left, n.IsAbsoluteImage) ∧ ∀ e ∈ passed, ¬e.IsUnseen options
  absolute : flow.content = false → (flow.absolute = true ↔ seen left ≠ [])

namespace Flow.Tells

variable {options} {flow others : Flow} {left behind : List Node} {passed later : List Element}

theorem onlyAbsolute_iff (tells : flow.Tells options left passed) :
    flow.onlyAbsolute = true ↔ OnlyAbsolute left ∧ ∀ e ∈ passed, ¬e.IsUnseen options := by
  rw [Flow.onlyAbsolute, Bool.and_eq_true, Bool.not_eq_true', OnlyAbsolute, and_assoc,
    ← tells.content]
  exact and_congr_left tells.absolute

theorem nil : Flow.Tells options {} [] [] := by
  constructor <;> simp [seen]

theorem join (first : flow.Tells options left passed)
    (second : others.Tells options behind later) :
    (flow.join others).Tells options (left ++ behind) (passed ++ later) where
  content := by
    rw [Flow.join, Bool.or_eq_false_iff, first.content, second.content, seen_append,
      List.forall_mem_append, List.forall_mem_append, and_and_and_comm]
  absolute pure := by
    obtain ⟨here, there⟩ := Bool.or_eq_false_iff.mp pure
    rw [Flow.join, Bool.or_eq_true, first.absolute here, second.absolute there, seen_append,
      ← not_and_or, ← List.append_eq_nil_iff]

theorem leaf {n : Node} (seen_eq : seenIn n = if n.isBlankText then [] else [n])
    (other : n.image? = none) : Flow.Tells options { content := !n.isBlankText } [n] [] := by
  have no_image : ¬n.IsAbsoluteImage := by
    rintro ⟨i, rfl, -⟩
    cases other
  cases blank : n.isBlankText with
  | true => constructor <;> simp [seen, seen_eq, blank]
  | false => constructor <;> simp [seen, seen_eq, blank, no_image]

/-- An image that stays counts as what it is. -/
theorem image (i : Image) :
    Flow.Tells options
      (if (styleOf i).isAbsolute then { absolute := true } else { content := true })
      [.image i] [] := by
  have seen_eq : seen [.image i] = [.image i] := rfl
  cases absolute : (styleOf i).isAbsolute with
  | true => constructor <;> simp [seen_eq, Node.IsAbsoluteImage, absolute]
  | false => constructor <;> simp [seen_eq, Node.IsAbsoluteImage, absolute]

/-- An element counts as images out of the flow when it is transparent and holds nothing else. -/
theorem element {children : List Node}
    (inside : (makeup options children).Tells options (placed options children) (met children))
    (tag : String) (attrs : Attributes) (transparent : Bool) :
    Flow.Tells options
      (if (makeup options children).onlyAbsolute = true ∧ transparent = true then
        { absolute := true } else { content := true })
      (placedIn options (.element tag attrs children transparent))
      (metIn (.element tag attrs children transparent)) := by
  cases transparent with
  | false =>
      rw [if_neg (by simp)]
      refine ⟨⟨nofun, fun ⟨absolute, visible⟩ => ?_⟩, nofun⟩
      have unseen : Element.IsUnseen options ⟨tag, attrs, children, false⟩ :=
        (isUnseen_iff options _).mpr (seen_placedIn_solid options tag attrs children absolute)
      exact absurd unseen (visible _ List.mem_cons_self)
  | true =>
      have unseen : Element.IsUnseen options ⟨tag, attrs, children, true⟩ ↔
          seen (placed options children) = [] := by
        rw [isUnseen_iff, Element.node, seen_placedIn_transparent]
      have passed : metIn (.element tag attrs children true) =
        ⟨tag, attrs, children, true⟩ :: met children := rfl
      rw [passed]
      by_cases only : (makeup options children).onlyAbsolute = true
      · obtain ⟨⟨some, absolute⟩, visible⟩ := inside.onlyAbsolute_iff.mp only
        rw [if_pos ⟨only, rfl⟩]
        constructor
        · rw [seen_placedIn_transparent, List.forall_mem_cons, unseen]
          exact iff_of_true rfl ⟨absolute, some, visible⟩
        · rw [seen_placedIn_transparent]
          exact fun _ => iff_of_true rfl some
      · rw [if_neg fun both => only both.1]
        refine ⟨⟨nofun, fun holds => absurd ?_ only⟩, nofun⟩
        rw [seen_placedIn_transparent, List.forall_mem_cons, unseen] at holds
        obtain ⟨absolute, some, visible⟩ := holds
        exact inside.onlyAbsolute_iff.mpr ⟨⟨some, absolute⟩, visible⟩

end Flow.Tells

/-- The flags of a walk tell what the pass leaves. -/
theorem tells_makeup (nodes : List Node) :
    (makeup options nodes).Tells options (placed options nodes) (met nodes) := by
  induction nodes using Node.forest_induction with
  | nil => exact .nil
  | element tag attrs children transparent rest inner outer =>
      rw [makeup_cons, placeImage_element_eq]
      exact (inner.element tag attrs transparent).join outer
  | image i rest ih =>
      rw [makeup_cons, placed]
      cases background : isBackground i with
      | true =>
          rw [placeImage_background options background, placedIn_background options background]
          exact Flow.Tells.nil.join ih
      | false =>
          rw [makeup_image options background, placedIn_shown options background]
          exact (Flow.Tells.image i).join ih
  | _ n rest ih => exact (Flow.Tells.leaf rfl rfl).join ih

/-! ## The marks -/

/-- A marked element has one class more. -/
theorem addClass_ne (a : Attributes) : a.addClass "absolute-container" ≠ a := by
  intro same
  have more := a.wordsAt_appendWords "class" "absolute-container"
  rw [← Attributes.addClass, same] at more
  exact absurd (List.self_eq_append_right.mp more) (by decide)

/-- The pass marks an element that is not transparent if nothing but images out of the flow is seen
in it behind the pass, and something is seen of each element met in it before. -/
theorem markedAttributes_spec (e : Element) :
    (markedAttributes options e = e.attrs ∨
      markedAttributes options e = e.attrs.addClass "absolute-container") ∧
    (markedAttributes options e ≠ e.attrs ↔ e.transparent = false ∧
      OnlyAbsolute (placed options e.children) ∧ ∀ w ∈ met e.children, ¬w.IsUnseen options) := by
  have only := (tells_makeup options e.children).onlyAbsolute_iff
  unfold markedAttributes
  split_ifs with marked
  · exact ⟨.inr rfl, iff_of_true (addClass_ne e.attrs) ⟨marked.2, only.mp marked.1⟩⟩
  · exact ⟨.inl rfl, iff_of_false (fun changed => changed rfl)
      fun ⟨stays, holds⟩ => marked ⟨only.mpr holds, stays⟩⟩

/-- The marks of the pass. An element gains the class `absolute-container` exactly when it is not
transparent, its children behind the pass are images out of the flow and nothing else, looking
through transparent elements and past blank text, and something is seen of each element met in them
before the pass. The attributes of all other elements stay as they are. -/
theorem applyImages_marks (nodes : List Node) :
    ∃ left, applyImages options nodes = showImages options left ++ backdrop options nodes ∧
      Placed (fun before after =>
        (after.attrs = before.attrs ∨
          after.attrs = before.attrs.addClass "absolute-container") ∧
        (after.attrs ≠ before.attrs ↔ before.transparent = false ∧ OnlyAbsolute after.children ∧
          ∀ e ∈ met before.children, ¬e.IsUnseen options)) nodes left := by
  refine ⟨placed options nodes, by rw [applyImages_eq, flowNodes_eq_placed], ?_⟩
  induction nodes using Node.forest_induction with
  | nil => exact .nil
  | element tag attrs children transparent rest inner outer =>
      rw [placed, placedIn]
      split_ifs with empty
      · exact .paragraph inner empty outer
      · exact .element inner empty (markedAttributes_spec options ⟨tag, attrs, children, _⟩) outer
  | image i rest ih =>
      rw [placed]
      cases background : isBackground i with
      | true =>
          rw [placedIn_background options background]
          exact .background background ih
      | false =>
          rw [placedIn_shown options background]
          refine .leaf rfl ?_ ih
          rintro j ⟨⟩
          exact background
  | _ n rest ih => exact .leaf rfl nofun ih

/-- A transparent paragraph around an image. -/
def veiledImage (i : Image) : Node := .element "p" .empty [.image i] true

theorem placedIn_veiledBackground {i : Image} (background : isBackground i = true) :
    placedIn options (veiledImage i) = [] := by
  have inside : placed options [.image i] = [] := by
    rw [placed_singleton, placedIn_background options background]
  rw [veiledImage, placedIn, inside, if_pos ⟨rfl, by simp⟩]

theorem placedIn_veiledShown {i : Image} (shown : isBackground i = false) :
    placedIn options (veiledImage i) = [veiledImage i] := by
  have inside : placed options [.image i] = [.image i] := by
    rw [placed_singleton, placedIn_shown options shown]
  rw [veiledImage, placedIn, inside, if_neg (by simp [Node.isBlankText])]
  simp [markedAttributes]

/-- The paragraph of a background image goes with it, but an item that is left with nothing but an
image out of the flow is not marked. -/
theorem applyImages_emptiedParagraph :
    let options : ImageOptions := ⟨false, false⟩
    let layer : Image := ⟨"b.png", "x bg", none⟩
    let image : Image := ⟨"a.png", "a absolute", none⟩
    applyImages options [.element "li" .empty [veiledImage layer, veiledImage image] false] =
        showImages options [.element "li" .empty [veiledImage image] false] ++
          [layerContainer [imageLayer layer] false] ∧
      OnlyAbsolute [veiledImage image] ∧
      Attributes.empty.addClass "absolute-container" ≠ .empty := by
  intro options layer image
  have behind : isBackground layer = true := by decide +kernel
  have shown : isBackground image = false := by decide +kernel
  have absolute : (styleOf image).isAbsolute = true := by decide +kernel
  have gone := placedIn_veiledBackground options behind
  have kept := placedIn_veiledShown options shown
  have unseen : Element.IsUnseen options ⟨"p", .empty, [.image layer], true⟩ := by
    rw [isUnseen_iff]
    exact congrArg seen gone
  have unmarked : markedAttributes options
      ⟨"li", .empty, [veiledImage layer, veiledImage image], false⟩ = .empty := by
    by_contra changed
    obtain ⟨-, -, visible⟩ := (markedAttributes_spec options _).2.mp changed
    exact visible _ List.mem_cons_self unseen
  have left : placed options [veiledImage layer, veiledImage image] = [veiledImage image] := by
    rw [placed, gone, placed_singleton, kept, List.nil_append]
  have seen_image : seen [veiledImage image] = [.image image] := rfl
  refine ⟨?_, ⟨by simp [seen_image], ?_⟩, addClass_ne .empty⟩
  · have layers : backgroundImages
        [.element "li" .empty [veiledImage layer, veiledImage image] false] = [layer] := by
      simp [backgroundImages, veiledImage, behind, shown]
    rw [applyImages_eq, flowNodes_eq_placed, placed_singleton, placedIn, left, unmarked,
      if_neg (by simp), backdrop, layers]
    rfl
  · rw [seen_image, List.forall_mem_singleton]
    exact ⟨image, rfl, absolute⟩

end SlideDeck.Slide
