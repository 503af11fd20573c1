import SlideDeck.Proofs.Attribute.Merge
import SlideDeck.Proofs.Slide.ImageStyle
import SlideDeck.Proofs.Slide.Images

/-!
# Attributes of image elements

The words of an alternative text that say nothing about how the image is shown pass through as
attributes of its element. They are merged behind the address, the display name and the title, so
each of the three is the last value that the words assign to its key, if they assign one
(`applyImages_ownAttributes`); an alternative text can give the element another address
(`applyImages_assignedAddress`). With them the pass accounts for every image of a forest
(`applyImages_accounts`).
-/

namespace SlideDeck.Slide

/-- The last value that the words of an alternative text assign to a key. -/
def assignedAt (i : Image) (key : String) : Option Value :=
  (valuesAt key ((tokenize (splitAlt i.alt).2).filterMap Token.assignment?)).getLast?

/-- Merging the words of an alternative text into attributes. -/
theorem get?_merge_extra (a : Attributes) (i : Image) {key : String}
    (passes : key ∉ ImageStyle.styleWords) (single : key ∉ listKeys) :
    (a.merge (styleOf i).extra).get? key = (assignedAt i key).or (a.get? key) := by
  rw [Attributes.get?_merge_single single, styleOf,
    Attributes.valuesAt_entries (ImageStyle.nodup_keys_extra _), ImageStyle.get?_extra passes,
    ← assignedAt]
  cases assignedAt i key <;> rfl

/-- The attributes that an element has from its image and the display name. -/
def ownAttributes (i : Image) (name : String) : Attributes :=
  let named := (Attributes.empty.insert "src" (.text i.url)).insert "alt" (.text name)
  match i.title with
  | some title => named.insert "title" (.text title)
  | none => named

theorem get?_ownAttributes (i : Image) (name : String) :
    (ownAttributes i name).get? "src" = some (.text i.url) ∧
      (ownAttributes i name).get? "alt" = some (.text name) ∧
      (ownAttributes i name).get? "title" = i.title.map .text := by
  have none_yet : Attributes.empty.get? "title" = none := rfl
  unfold ownAttributes
  cases i.title with
  | none => simp [Attributes.get?_insert, none_yet]
  | some title => simp [Attributes.get?_insert]

/-- Behind what passes through the element only gets a style and the way it is loaded. -/
theorem frame_inlineImage (i : Image) (name : String) (style : ImageStyle)
    (options : ImageOptions) :
    ∃ attrs, inlineImage i name style options = .element "img" attrs [] false ∧
      Attributes.Frame (· ∈ ["style", "loading"]) ((ownAttributes i name).merge style.extra)
        attrs := by
  let merged := (ownAttributes i name).merge style.extra
  let styled := match style.inlineStyle with
    | some inline => merged.insert "style" (.text inline)
    | none => merged
  have first : Attributes.Frame (· ∈ ["style", "loading"]) merged styled := by
    simp only [styled]
    split
    · exact Attributes.frame_insert (by decide) _ merged
    · exact .refl merged
  refine ⟨if options.lazy then styled.insert "loading" (.text "lazy") else styled, rfl,
    first.trans ?_⟩
  split_ifs
  · exact Attributes.frame_insert (by decide) _ styled
  · exact .refl styled

/-- The address, the display name and the title of an image's element. -/
theorem imageElement_ownAttributes (options : ImageOptions) (i : Image) :
    ∃ attrs, imageElement options i = .element "img" attrs [] false ∧
      attrs.get? "src" = (assignedAt i "src").or (some (.text i.url)) ∧
      attrs.get? "alt" = (assignedAt i "alt").or (some (.text (splitAlt i.alt).1)) ∧
      attrs.get? "title" = (assignedAt i "title").or (i.title.map .text) := by
  obtain ⟨attrs, element, frame⟩ := frame_inlineImage i (splitAlt i.alt).1 (styleOf i) options
  obtain ⟨src, alt, title⟩ := get?_ownAttributes i (splitAlt i.alt).1
  refine ⟨attrs, element, ?_, ?_, ?_⟩
  · rw [frame.value "src" (by decide), get?_merge_extra _ _ (by decide) (by decide), src]
  · rw [frame.value "alt" (by decide), get?_merge_extra _ _ (by decide) (by decide), alt]
  · rw [frame.value "title" (by decide), get?_merge_extra _ _ (by decide) (by decide), title]

/-- Every image is accounted for exactly once. No image is left at any depth. The nodes in front of
the container are what remains of the forest, in which exactly the images that stay in the flow are
left, each of them replaced by an `img` element with its address, its display name and its title,
unless the words of its alternative text assign others. Behind them stands nothing if no image is a
background layer, and otherwise one container with a layer for each background image in order, whose
style lists their sizes. -/
theorem applyImages_accounts (options : ImageOptions) (nodes : List Node) :
    imagesOf (applyImages options nodes) = [] ∧
    (∃ frame behind,
      applyImages options nodes = graft (showLeaf options) frame ++ behind ∧
      Remains nodes frame ∧ imagesOf frame = (imagesOf nodes).filter (fun i => !isBackground i) ∧
      behind =
        let layers := (imagesOf nodes).filter isBackground
        if layers.isEmpty then []
        else
          [.element "div"
            ⟨[("class", .text "advanced-bg"),
              ("style", .text
                ((if options.vertical || layers.any fun i => (styleOf i).vertical then "--bg-rows"
                  else "--bg-columns") ++ ": " ++
                  " ".intercalate (layers.map fun i => (styleOf i).size.getD "1fr")))]⟩
            (layers.map fun i => (imageLayer i).node) false]) ∧
    (∀ i, ∃ attrs, showLeaf options (.image i) = [.element "img" attrs [] false] ∧
      attrs.get? "src" = (assignedAt i "src").or (some (.text i.url)) ∧
      attrs.get? "alt" = (assignedAt i "alt").or (some (.text (splitAlt i.alt).1)) ∧
      attrs.get? "title" = (assignedAt i "title").or (i.title.map .text)) ∧
    ∀ i, ∃ attrs, (imageLayer i).node = .element "div" attrs [] false ∧
      attrs.get? "style" = some (.text ((styleOf i).backgroundStyle i.url)) := by
  obtain ⟨frame, shown, remains, images⟩ := exists_flowNodes_eq options nodes
  refine ⟨?_, ⟨frame, backdrop options nodes, ?_, remains, images, ?_⟩, ?_, imageLayer_eq⟩
  · rw [applyImages_eq, imagesOf_append, shown, imagesOf_showImages, imagesOf_backdrop,
      List.append_nil]
  · rw [applyImages_eq, shown, showImages]
  · simp only [backdrop, backgroundImages, layerContainer_eq]
  · intro i
    obtain ⟨attrs, element, own⟩ := imageElement_ownAttributes options i
    exact ⟨attrs, congrArg ([·]) element, own⟩

/-- Each image in the flow gets one element in its place. The element has the address of the image,
its display name, and its title if it has one, unless the words of the alternative text assign the
key of one of them: then it has the last value that they assign to this key. -/
theorem applyImages_ownAttributes (options : ImageOptions) (nodes : List Node) :
    (∃ left, applyImages options nodes = showImages options left ++ backdrop options nodes ∧
      Remains nodes left ∧ imagesOf left = shownImages nodes) ∧
    ∀ i, ∃ attrs, showLeaf options (.image i) = [.element "img" attrs [] false] ∧
      attrs.get? "src" = (assignedAt i "src").or (some (.text i.url)) ∧
      attrs.get? "alt" = (assignedAt i "alt").or (some (.text (splitAlt i.alt).1)) ∧
      attrs.get? "title" = (assignedAt i "title").or (i.title.map .text) := by
  obtain ⟨left, flow, remains, images⟩ := exists_flowNodes_eq options nodes
  refine ⟨⟨left, by rw [applyImages_eq, flow], remains, images⟩, fun i => ?_⟩
  obtain ⟨attrs, element, own⟩ := imageElement_ownAttributes options i
  exact ⟨attrs, congrArg ([·]) element, own⟩

/-- An alternative text with an address among its words gives the element that address. -/
theorem applyImages_assignedAddress :
    let options : ImageOptions := ⟨false, false⟩
    let image : Image := ⟨"a.png", "cat src:b.png", none⟩
    isBackground image = false ∧ (splitAlt image.alt).1 = "cat" ∧
      ∃ attrs, applyImages options [.image image] = [.element "img" attrs [] false] ∧
        attrs.get? "src" = some (.text "b.png") := by
  intro options image
  have shown : isBackground image = false := by decide +kernel
  have assigned : assignedAt image "src" = some (.text "b.png") := by decide +kernel
  obtain ⟨attrs, element, src, -⟩ := imageElement_ownAttributes options image
  refine ⟨shown, by decide +kernel, attrs, ?_, by rw [src, assigned]; rfl⟩
  have none_behind : backgroundImages [.image image] = [] := by simp [backgroundImages, shown]
  obtain ⟨flow, step⟩ := placeImage_shown options shown
  rw [applyImages_eq, flowNodes, fst_placeImages_cons, step, backdrop, none_behind, element]
  rfl

end SlideDeck.Slide
