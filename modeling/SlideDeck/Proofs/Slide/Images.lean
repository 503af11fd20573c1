import SlideDeck.Proofs.Attribute.Lookup
import SlideDeck.Proofs.Slide.Remains

/-!
# The images of a partition

The images of a forest are its background layers and the images that stay in the flow. The pass
over the images gives every image of the second kind one element, in its place
(`exists_flowNodes_eq`), and every layer one element of the container behind the other nodes
(`layers_placeImages`); pruning takes none of them away.
-/

namespace SlideDeck.Slide

/-- The image that a leaf is. -/
def Node.image? : Node → Option Image
  | .image i => some i
  | _ => none

/-- The images of a forest in document order. -/
def imagesOf (nodes : List Node) : List Image := (leaves nodes).filterMap Node.image?

/-- The images that leave the flow as background layers. -/
def backgroundImages (nodes : List Node) : List Image := (imagesOf nodes).filter isBackground

/-- The images that stay in the flow. -/
def shownImages (nodes : List Node) : List Image :=
  (imagesOf nodes).filter fun i => !isBackground i

/-- The element of an image in the flow. -/
def imageElement (options : ImageOptions) (i : Image) : Node :=
  inlineImage i (splitAlt i.alt).1 (styleOf i) options

/-- The layer of an image in the background. -/
def imageLayer (i : Image) : Layer := backgroundLayer i (styleOf i)

/-- An image leaf gives its element; other leaves stay. -/
def showLeaf (options : ImageOptions) : Node → List Node
  | .image i => [imageElement options i]
  | n => [n]

/-- Replaces the image leaves of a forest by their elements. -/
def showImages (options : ImageOptions) (nodes : List Node) : List Node :=
  graft (showLeaf options) nodes

/-- The nodes of a partition that stay in the flow. -/
def flowNodes (options : ImageOptions) (nodes : List Node) : List Node :=
  prune (placeImages options nodes).1

/-- The container of the background layers of a partition, if there are any. -/
def backdrop (options : ImageOptions) (nodes : List Node) : List Node :=
  if (backgroundImages nodes).isEmpty then []
  else [layerContainer ((backgroundImages nodes).map imageLayer) options.vertical]

/-! ## Images in document order -/

@[simp]
theorem imagesOf_nil : imagesOf [] = [] := rfl

@[simp]
theorem imagesOf_append (left right : List Node) :
    imagesOf (left ++ right) = imagesOf left ++ imagesOf right := by
  simp [imagesOf]

@[simp]
theorem imagesOf_element (tag : String) (attrs : Attributes) (children : List Node)
    (transparent : Bool) (rest : List Node) :
    imagesOf (.element tag attrs children transparent :: rest) =
      imagesOf children ++ imagesOf rest := by
  simp [imagesOf]

@[simp]
theorem imagesOf_image (i : Image) (rest : List Node) :
    imagesOf (.image i :: rest) = i :: imagesOf rest := by
  simp [imagesOf, leaves, leavesIn, Node.image?]

/-! ## Placing -/

/-- Every image in the flow has an element named `img` without children. -/
theorem imageElement_eq (options : ImageOptions) (i : Image) :
    ∃ attrs, imageElement options i = .element "img" attrs [] false := ⟨_, rfl⟩

/-- What placing does to an element: its children are placed, and it may be marked unless it is
transparent. -/
theorem placeImage_element_marked (options : ImageOptions) (tag : String) (attrs : Attributes)
    (children : List Node) (transparent : Bool) :
    ∃ marked flow, placeImage options (.element tag attrs children transparent) =
      (some (.element tag marked (placeImages options children).1 transparent),
        (placeImages options children).2.1, flow) ∧
      (marked = attrs ∨ transparent = false ∧ marked = attrs.addClass "absolute-container") := by
  unfold placeImage
  obtain ⟨placed, layers, flow⟩ := placeImages options children
  dsimp only
  by_cases only : flow.onlyAbsolute = true
  · rw [if_pos only]
    cases transparent with
    | true => exact ⟨attrs, _, rfl, .inl rfl⟩
    | false => exact ⟨_, _, rfl, .inr ⟨rfl, rfl⟩⟩
  · rw [if_neg only]
    exact ⟨attrs, _, rfl, .inl rfl⟩

theorem placeImage_element (options : ImageOptions) (tag : String) (attrs : Attributes)
    (children : List Node) (transparent : Bool) :
    ∃ marked flow, placeImage options (.element tag attrs children transparent) =
      (some (.element tag marked (placeImages options children).1 transparent),
        (placeImages options children).2.1, flow) := by
  obtain ⟨marked, flow, step, -⟩ :=
    placeImage_element_marked options tag attrs children transparent
  exact ⟨marked, flow, step⟩

theorem placeImage_shown (options : ImageOptions) {i : Image} (shown : isBackground i = false) :
    ∃ flow, placeImage options (.image i) = (some (imageElement options i), [], flow) := by
  have foreground : (ImageStyle.parse (splitAlt i.alt).2).background = false := shown
  simp [placeImage, foreground, imageElement, styleOf]

theorem placeImage_background (options : ImageOptions) {i : Image}
    (background : isBackground i = true) :
    placeImage options (.image i) = (none, [imageLayer i], {}) := by
  have behind : (ImageStyle.parse (splitAlt i.alt).2).background = true := background
  simp [placeImage, behind, imageLayer, styleOf]

theorem fst_placeImages_cons (options : ImageOptions) (n : Node) (rest : List Node) :
    (placeImages options (n :: rest)).1 =
      (placeImage options n).1.toList ++ (placeImages options rest).1 := rfl

theorem layers_placeImages_cons (options : ImageOptions) (n : Node) (rest : List Node) :
    (placeImages options (n :: rest)).2.1 =
      (placeImage options n).2.1 ++ (placeImages options rest).2.1 := rfl

/-- The placed nodes are what remains of the forest, with each image in it replaced by its element;
these images are the ones that stay in the flow. -/
theorem exists_placeImages_eq (options : ImageOptions) (nodes : List Node) :
    ∃ frame, (placeImages options nodes).1 = showImages options frame ∧ Remains nodes frame ∧
      imagesOf frame = shownImages nodes := by
  -- the frame keeps the images of the flow as leaves, so that they can be counted
  induction nodes using Node.forest_induction with
  | nil => exact ⟨[], rfl, .nil, rfl⟩
  | element tag attrs children transparent rest inner outer =>
      obtain ⟨inside, placed_inside, remains_inside, images_inside⟩ := inner
      obtain ⟨behind, placed, remains, images⟩ := outer
      obtain ⟨marked, flow, step⟩ := placeImage_element options tag attrs children transparent
      refine ⟨.element tag marked inside transparent :: behind, ?_,
        .element tag attrs marked transparent remains_inside remains, ?_⟩
      · rw [fst_placeImages_cons, step, placed, placed_inside]
        rfl
      · rw [imagesOf_element, images_inside, images]
        simp [shownImages]
  | image i rest ih =>
      obtain ⟨behind, placed, remains, images⟩ := ih
      rw [fst_placeImages_cons]
      cases background : isBackground i with
      | true =>
          refine ⟨behind, ?_, .background background remains, ?_⟩
          · rw [placeImage_background options background, placed]
            rfl
          · rw [images]
            simp [shownImages, background]
      | false =>
          obtain ⟨flow, step⟩ := placeImage_shown options background
          refine ⟨.image i :: behind, ?_, .same _ remains, ?_⟩
          · rw [step, placed]
            rfl
          · rw [imagesOf_image, images]
            simp [shownImages, background]
  | _ n rest ih =>
      obtain ⟨behind, placed, remains, images⟩ := ih
      refine ⟨_, ?_, .same _ remains, images⟩
      exact congrArg (_ :: ·) placed

/-- The layers are those of the background images in document order. -/
theorem layers_placeImages (options : ImageOptions) (nodes : List Node) :
    (placeImages options nodes).2.1 = (backgroundImages nodes).map imageLayer := by
  induction nodes using Node.forest_induction with
  | nil => rfl
  | element tag attrs children transparent rest inner outer =>
      obtain ⟨marked, flow, step⟩ := placeImage_element options tag attrs children transparent
      rw [layers_placeImages_cons, step, inner, outer]
      simp [backgroundImages]
  | image i rest ih =>
      rw [layers_placeImages_cons, ih]
      cases background : isBackground i with
      | true =>
          rw [placeImage_background options background]
          simp [backgroundImages, background]
      | false =>
          obtain ⟨flow, step⟩ := placeImage_shown options background
          rw [step]
          simp [backgroundImages, background]
  | _ n rest ih => exact ih

/-! ## Pruning -/

theorem prune_element (tag : String) (attrs : Attributes) (children : List Node)
    (transparent : Bool) (rest : List Node) :
    prune (.element tag attrs children transparent :: rest) =
      if tag = "p" ∧ ∀ n ∈ prune children, n.isBlankText = true then prune rest
      else .element tag attrs (prune children) transparent :: prune rest := by
  simp [prune, pruneIn, prune.isEmptyParagraph]

theorem remains_prune (nodes : List Node) : Remains nodes (prune nodes) := by
  induction nodes using Node.forest_induction with
  | nil => exact .nil
  | element tag attrs children transparent rest inner outer =>
      rw [prune_element]
      split_ifs with empty
      · exact .paragraph empty.1 attrs transparent inner empty.2 outer
      · exact .element tag attrs attrs transparent inner outer
  | _ n rest ih => exact .same _ ih

theorem imagesOf_of_blank {nodes : List Node} (blank : ∀ n ∈ nodes, n.isBlankText = true) :
    imagesOf nodes = [] :=
  Node.blank_induction rfl (fun _ _ _ ih => ih) blank

/-- Pruning takes no image away. -/
theorem imagesOf_prune (nodes : List Node) : imagesOf (prune nodes) = imagesOf nodes := by
  induction nodes using Node.forest_induction with
  | nil => rfl
  | element tag attrs children transparent rest inner outer =>
      rw [prune_element]
      split_ifs with empty
      · rw [imagesOf_element, ← inner, imagesOf_of_blank empty.2, outer, List.nil_append]
      · rw [imagesOf_element, imagesOf_element, inner, outer]
  | image i rest ih => exact congrArg (i :: ·) ih
  | _ n rest ih => exact ih

theorem showImages_element (options : ImageOptions) (tag : String) (attrs : Attributes)
    (children : List Node) (transparent : Bool) (rest : List Node) :
    showImages options (.element tag attrs children transparent :: rest) =
      .element tag attrs (showImages options children) transparent :: showImages options rest := rfl

theorem showImages_image (options : ImageOptions) (i : Image) (rest : List Node) :
    showImages options (.image i :: rest) =
      imageElement options i :: showImages options rest := rfl

/-- An image and its element are no text, so replacing images leaves no more texts than before. -/
theorem forall_blank_showImages (options : ImageOptions) (nodes : List Node) :
    (∀ n ∈ showImages options nodes, n.isBlankText = true) ↔
      ∀ n ∈ nodes, n.isBlankText = true := by
  induction nodes with
  | nil => rfl
  | cons n rest ih =>
      have cons_eq : showImages options (n :: rest) =
          graftIn (showLeaf options) n ++ showImages options rest := rfl
      rw [cons_eq, List.forall_mem_append, List.forall_mem_cons, ih]
      cases n <;> simp [graftIn, showLeaf, imageElement, inlineImage, Node.isBlankText]

/-- Pruning sees elements of images as it sees images. -/
theorem prune_showImages (options : ImageOptions) (nodes : List Node) :
    prune (showImages options nodes) = showImages options (prune nodes) := by
  induction nodes using Node.forest_induction with
  | nil => rfl
  | element tag attrs children transparent rest inner outer =>
      simp only [showImages_element, prune_element, inner, outer, forall_blank_showImages]
      split_ifs with empty
      · rfl
      · rfl
  | image i rest ih =>
      obtain ⟨attrs, element⟩ := imageElement_eq options i
      have kept : prune (.image i :: rest) = .image i :: prune rest := rfl
      rw [kept, showImages_image, showImages_image, element, prune_element, if_neg (by decide), ih]
      rfl
  | _ n rest ih => exact congrArg (_ :: ·) ih

/-! ## The pass -/

/-- The pass leaves what stays in the flow, and the container of the layers behind it. -/
theorem applyImages_eq (options : ImageOptions) (nodes : List Node) :
    applyImages options nodes = flowNodes options nodes ++ backdrop options nodes := by
  unfold applyImages flowNodes backdrop
  simp only [layers_placeImages]
  by_cases none : backgroundImages nodes = []
  · simp [none]
  · simp [none]

/-- What stays in the flow is what remains of the forest, with an element for each of its images;
these are the images that stay in the flow. -/
theorem exists_flowNodes_eq (options : ImageOptions) (nodes : List Node) :
    ∃ frame, flowNodes options nodes = showImages options frame ∧ Remains nodes frame ∧
      imagesOf frame = shownImages nodes := by
  obtain ⟨frame, placed, remains, images⟩ := exists_placeImages_eq options nodes
  refine ⟨prune frame, ?_, remains.trans (remains_prune frame), ?_⟩
  · rw [flowNodes, placed, prune_showImages]
  · rw [imagesOf_prune, images]

theorem imagesOf_showImages (options : ImageOptions) (nodes : List Node) :
    imagesOf (showImages options nodes) = [] := by
  induction nodes using Node.forest_induction with
  | nil => rfl
  | element tag attrs children transparent rest inner outer =>
      rw [showImages_element, imagesOf_element, inner, outer, List.nil_append]
  | image i rest ih => exact ih
  | _ n rest ih => exact ih

/-- No layer holds an image. -/
theorem imagesOf_backdrop (options : ImageOptions) (nodes : List Node) :
    imagesOf (backdrop options nodes) = [] := by
  have layers : ∀ images : List Image,
      imagesOf ((images.map imageLayer).map Layer.node) = [] := by
    intro images
    induction images with
    | nil => rfl
    | cons i images ih => exact ih
  unfold backdrop
  split_ifs
  · rfl
  · simp only [layerContainer, imagesOf_element, layers, imagesOf_nil, List.append_nil]

/-- A layer is an element without children whose style is the background style of its image. -/
theorem imageLayer_eq (i : Image) :
    ∃ attrs, (imageLayer i).node = .element "div" attrs [] false ∧
      attrs.get? "style" = some (.text ((styleOf i).backgroundStyle i.url)) := by
  refine ⟨_, rfl, ?_⟩
  rw [Attributes.get?_insert, if_pos rfl]

theorem vertical_backgroundLayer (i : Image) (style : ImageStyle) :
    (backgroundLayer i style).vertical = style.vertical := rfl

theorem size_backgroundLayer (i : Image) (style : ImageStyle) :
    (backgroundLayer i style).size = style.size.getD "1fr" := rfl

/-- The container lists one size for each layer, `1fr` for an image without one. -/
theorem layerContainer_eq (images : List Image) (vertical : Bool) :
    layerContainer (images.map imageLayer) vertical =
      .element "div"
        ⟨[("class", .text "advanced-bg"),
          ("style", .text
            ((if vertical || images.any fun i => (styleOf i).vertical then "--bg-rows"
              else "--bg-columns") ++ ": " ++
              " ".intercalate (images.map fun i => (styleOf i).size.getD "1fr")))]⟩
        (images.map fun i => (imageLayer i).node) false := by
  have classed : Attributes.empty.addClass "advanced-bg" =
      ⟨[("class", .text "advanced-bg")]⟩ := by decide
  have property : (List.map imageLayer images).any Layer.vertical =
      images.any fun i => (styleOf i).vertical := by
    simp only [List.any_map, Function.comp_def, imageLayer, vertical_backgroundLayer]
  have sizes : (images.map imageLayer).map Layer.size =
      images.map fun i => (styleOf i).size.getD "1fr" := by
    simp only [List.map_map, Function.comp_def, imageLayer, size_backgroundLayer]
  simp only [layerContainer, classed, property, sizes, List.map_map, Function.comp_def]
  rfl

end SlideDeck.Slide
