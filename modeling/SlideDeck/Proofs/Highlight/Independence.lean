import SlideDeck.Proofs.Highlight.Substitution
import SlideDeck.Proofs.Slide.Absolute

/-!
# Images and code blocks

Replacing the images of a page and wrapping its code blocks are independent. A block and its element
count alike for the pass over the images (`makeup_wrapAll`) and are kept alike by pruning
(`wrapAll_prune`); what the pass over the images makes holds no block and queues nothing. So the two
passes may be run in either order, with the same queue (`wrapAll_applyImages`).
-/

namespace SlideDeck.Highlight

open Slide

variable (options : ImageOptions) (diagrams : List String)

theorem wrapAll_cons (n : Node) (rest : List Node) (queue : List Request) :
    wrapAll diagrams (n :: rest) queue =
      ((wrap diagrams n queue).1 :: (wrapAll diagrams rest (wrap diagrams n queue).2).1,
        (wrapAll diagrams rest (wrap diagrams n queue).2).2) := rfl

theorem wrap_element (tag : String) (attrs : Attributes) (children : List Node)
    (transparent : Bool) (queue : List Request) :
    wrap diagrams (.element tag attrs children transparent) queue =
      (.element tag attrs (wrapAll diagrams children queue).1 transparent,
        (wrapAll diagrams children queue).2) := rfl

theorem wrapAll_image (i : Image) (rest : List Node) (queue : List Request) :
    wrapAll diagrams (.image i :: rest) queue =
      (.image i :: (wrapAll diagrams rest queue).1, (wrapAll diagrams rest queue).2) := rfl

/-- An element that is no paragraph stays. -/
theorem prune_element_of_ne {tag : String} (other : tag ≠ "p") (attrs : Attributes)
    (children : List Node) (transparent : Bool) (rest : List Node) :
    prune (.element tag attrs children transparent :: rest) =
      .element tag attrs (prune children) transparent :: prune rest := by
  rw [prune_element, if_neg fun both => other both.1]

/-! ## The element of a block -/

/-- A block is wrapped by one of two elements. -/
@[elab_as_elim]
theorem wrap_code_cases {motive : Node → Prop} (c : CodeBlock) (queue : List Request)
    (diagram : motive (diagram c)) (container : motive (container c [.placeholder queue.length])) :
    motive (wrap diagrams (.code c) queue).1 := by
  unfold wrap
  split_ifs
  · exact diagram
  · exact container

/-- The element of a block holds no image and stays in the flow, as the block does. -/
theorem placeImage_wrap_code (c : CodeBlock) (queue : List Request) :
    placeImage options (wrap diagrams (.code c) queue).1 =
      (some (wrap diagrams (.code c) queue).1, [], { content := true }) :=
  wrap_code_cases diagrams c queue rfl rfl

theorem imagesOf_wrap_code (c : CodeBlock) (queue : List Request) :
    imagesOf [(wrap diagrams (.code c) queue).1] = [] :=
  wrap_code_cases diagrams c queue rfl rfl

/-- The element of a block is no paragraph and holds none. -/
theorem prune_wrap_code (c : CodeBlock) (queue : List Request) (rest : List Node) :
    prune ((wrap diagrams (.code c) queue).1 :: rest) =
      (wrap diagrams (.code c) queue).1 :: prune rest := by
  refine wrap_code_cases diagrams c queue ?diagram ?container
  case diagram =>
    rw [diagram, prune_element_of_ne (by decide)]
    rfl
  case container =>
    have lang : prune [.classed "span" "lang" [.text (languageOf c)],
          .placeholder queue.length] =
        [.classed "span" "lang" [.text (languageOf c)], .placeholder queue.length] := by
      rw [Node.classed, prune_element_of_ne (by decide)]
      rfl
    have inside : prune ([.raw "<button class=\"copy\"></button>",
          .classed "span" "lang" [.text (languageOf c)]] ++ [.placeholder queue.length]) =
        [.raw "<button class=\"copy\"></button>",
          .classed "span" "lang" [.text (languageOf c)]] ++ [.placeholder queue.length] :=
      congrArg (_ :: ·) lang
    rw [container, prune_element_of_ne (by decide), inside]

/-- Wrapping makes no text and takes none away. -/
theorem isBlankText_wrap (n : Node) (queue : List Request) :
    (wrap diagrams n queue).1.isBlankText = n.isBlankText := by
  cases n with
  | code c => exact wrap_code_cases diagrams c queue rfl rfl
  | _ => rfl

theorem forall_blank_wrapAll (nodes : List Node) (queue : List Request) :
    (∀ n ∈ (wrapAll diagrams nodes queue).1, n.isBlankText = true) ↔
      ∀ n ∈ nodes, n.isBlankText = true := by
  induction nodes generalizing queue with
  | nil => rfl
  | cons n rest ih =>
      rw [wrapAll_cons, List.forall_mem_cons, List.forall_mem_cons, isBlankText_wrap, ih]

theorem wrapAll_of_blank {nodes : List Node} (blank : ∀ n ∈ nodes, n.isBlankText = true)
    (queue : List Request) : wrapAll diagrams nodes queue = (nodes, queue) := by
  refine Node.blank_induction rfl (fun s rest _ ih => ?_) blank
  exact congrArg (fun result => (_ :: result.1, result.2)) ih

/-! ## Placing and pruning -/

/-- The nodes of a forest count alike before and behind wrapping. -/
theorem makeup_wrapAll (nodes : List Node) (queue : List Request) :
    makeup options (wrapAll diagrams nodes queue).1 = makeup options nodes := by
  induction nodes using Node.forest_induction generalizing queue with
  | nil => rfl
  | element tag attrs children transparent rest inner outer =>
      rw [wrapAll_cons, wrap_element, makeup_cons, makeup_cons, outer, placeImage_element_eq,
        placeImage_element_eq, inner]
  | code c rest ih =>
      rw [wrapAll_cons, makeup_cons, makeup_cons, ih, placeImage_wrap_code]
      rfl
  | image i rest ih => rw [wrapAll_image, makeup_cons, makeup_cons, ih]
  | _ n rest ih => exact congrArg (Flow.join _) (ih queue)

/-- Wrapping leaves every image where it is. -/
theorem imagesOf_wrapAll (nodes : List Node) (queue : List Request) :
    imagesOf (wrapAll diagrams nodes queue).1 = imagesOf nodes := by
  induction nodes using Node.forest_induction generalizing queue with
  | nil => rfl
  | element tag attrs children transparent rest inner outer =>
      rw [wrapAll_cons, wrap_element, imagesOf_element, imagesOf_element, inner, outer]
  | code c rest ih =>
      rw [wrapAll_cons, ← List.singleton_append, imagesOf_append, imagesOf_wrap_code, ih]
      rfl
  | image i rest ih => rw [wrapAll_image, imagesOf_image, imagesOf_image, ih]
  | _ n rest ih => exact ih queue

/-- The images may be placed before or behind wrapping. -/
theorem wrapAll_placeImages (nodes : List Node) (queue : List Request) :
    wrapAll diagrams (placeImages options nodes).1 queue =
      ((placeImages options (wrapAll diagrams nodes queue).1).1,
        (wrapAll diagrams nodes queue).2) := by
  induction nodes using Node.forest_induction generalizing queue with
  | nil => rfl
  | element tag attrs children transparent rest inner outer =>
      -- the mark of an element depends on how its children count, and wrapping does not change that
      have marks : markedAttributes options ⟨tag, attrs, (wrapAll diagrams children queue).1,
            transparent⟩ = markedAttributes options ⟨tag, attrs, children, transparent⟩ := by
        simp only [markedAttributes, makeup_wrapAll]
      rw [wrapAll_cons, wrap_element, fst_placeImages_cons, fst_placeImages_cons,
        placeImage_element_eq, placeImage_element_eq, marks, Option.toList_some,
        List.singleton_append, wrapAll_cons, wrap_element, inner, outer]
      rfl
  | image i rest ih =>
      rw [wrapAll_image, fst_placeImages_cons, fst_placeImages_cons]
      cases background : isBackground i with
      | true =>
          rw [placeImage_background options background]
          exact ih queue
      | false =>
          obtain ⟨flow, step⟩ := placeImage_shown options background
          obtain ⟨attrs, element⟩ := imageElement_eq options i
          rw [step, element, Option.toList_some, List.singleton_append, wrapAll_cons,
            wrap_element]
          exact congrArg (fun result => (_ :: result.1, result.2)) (ih queue)
  | code c rest ih =>
      have kept : (placeImage options (.code c)).1 = some (.code c) := rfl
      rw [wrapAll_cons, fst_placeImages_cons, fst_placeImages_cons, placeImage_wrap_code, kept,
        Option.toList_some, Option.toList_some, List.singleton_append, wrapAll_cons, ih]
      rfl
  | _ n rest ih => exact congrArg (fun result => (_ :: result.1, result.2)) (ih queue)

/-- Paragraphs without content may be removed before or behind wrapping. -/
theorem wrapAll_prune (nodes : List Node) (queue : List Request) :
    wrapAll diagrams (prune nodes) queue =
      (prune (wrapAll diagrams nodes queue).1, (wrapAll diagrams nodes queue).2) := by
  induction nodes using Node.forest_induction generalizing queue with
  | nil => rfl
  | element tag attrs children transparent rest inner outer =>
      have pruned : prune (wrapAll diagrams children queue).1 =
          (wrapAll diagrams (prune children) queue).1 := by rw [inner]
      rw [wrapAll_cons, wrap_element, prune_element, prune_element, pruned]
      simp only [forall_blank_wrapAll]
      split_ifs with empty
      · -- a paragraph that goes holds no block, so the queue is the same behind it
        have queued : (wrapAll diagrams children queue).2 = queue := by
          have blank := inner queue
          rw [wrapAll_of_blank diagrams empty.2] at blank
          exact (congrArg Prod.snd blank).symm
        rw [queued, outer]
      · rw [wrapAll_cons, wrap_element, inner, outer]
  | code c rest ih =>
      have kept : prune (.code c :: rest) = .code c :: prune rest := rfl
      rw [kept, wrapAll_cons, wrapAll_cons, prune_wrap_code, ih]
  | _ n rest ih => exact congrArg (fun result => (_ :: result.1, result.2)) (ih queue)

/-! ## The container of the layers -/

/-- The layers of images hold no block. -/
theorem wrapAll_layers (images : List Image) (queue : List Request) :
    wrapAll diagrams ((images.map imageLayer).map Layer.node) queue =
      ((images.map imageLayer).map Layer.node, queue) := by
  induction images with
  | nil => rfl
  | cons i images ih => exact congrArg (fun result => (_ :: result.1, result.2)) ih

theorem wrapAll_backdrop (nodes : List Node) (queue : List Request) :
    wrapAll diagrams (backdrop options nodes) queue = (backdrop options nodes, queue) := by
  unfold backdrop
  split_ifs
  · rfl
  · rw [layerContainer, wrapAll_cons, wrap_element, wrapAll_layers]
    rfl

theorem backdrop_wrapAll (nodes : List Node) (queue : List Request) :
    backdrop options (wrapAll diagrams nodes queue).1 = backdrop options nodes := by
  have images : backgroundImages (wrapAll diagrams nodes queue).1 = backgroundImages nodes := by
    rw [backgroundImages, imagesOf_wrapAll, backgroundImages]
  rw [backdrop, images, backdrop]

/-- The pass over the images and the wrapping of code blocks commute. For every forest and every
queue of requests, either order gives the same forest and queues the same requests with the same
numbers. -/
theorem wrapAll_applyImages (nodes : List Node) (queue : List Request) :
    wrapAll diagrams (applyImages options nodes) queue =
      (applyImages options (wrapAll diagrams nodes queue).1,
        (wrapAll diagrams nodes queue).2) := by
  have flow : wrapAll diagrams (flowNodes options nodes) queue =
      (flowNodes options (wrapAll diagrams nodes queue).1,
        (wrapAll diagrams nodes queue).2) := by
    rw [flowNodes, wrapAll_prune, wrapAll_placeImages, flowNodes]
  rw [applyImages_eq, applyImages_eq, wrapAll_append, flow, wrapAll_backdrop, backdrop_wrapAll]

end SlideDeck.Highlight
