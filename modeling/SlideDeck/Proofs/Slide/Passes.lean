import SlideDeck.Proofs.Slide.Images
import SlideDeck.Proofs.Slide.Layout
import SlideDeck.Slide.Comments

/-!
# The passes over the structure of a page

Comments are applied to a page, its nodes are cut into partitions, and the images of each partition
are placed. Each of these passes leaves what `Remains` allows, so the content of the page stays.
-/

namespace SlideDeck.Slide

/-! ## Comments -/

theorem remains_filter_isComment (nodes : List Node) :
    Remains nodes (nodes.filter fun n => !n.isComment) := by
  induction nodes with
  | nil => exact .nil
  | cons n rest ih =>
      cases n with
      | comment body => exact .comment body ih
      | _ => exact .same _ ih

theorem remains_of_blank {nodes : List Node} (blank : ∀ n ∈ nodes, n.isBlankText = true) :
    Remains nodes [] :=
  Node.blank_induction .nil (fun _ _ here ih => .blank here ih) blank

theorem trimEnd_trimEnd (s : List Char) : Text.trimEnd (Text.trimEnd s) = Text.trimEnd s := by
  obtain ⟨tail, parts, blank⟩ := Text.exists_dropEndWhile_append Text.isBlank s
  have trimmed : Text.trimEnd (Text.trimEnd s ++ tail) = Text.trimEnd (Text.trimEnd s) :=
    Text.dropEndWhile_append_of_forall _ blank
  rw [← trimmed]
  exact congrArg Text.trimEnd parts.symm

/-- Trimming takes blank characters off a last text, and the text if nothing is left of it. -/
theorem trimLastText_cases (nodes : List Node) :
    trimLastText nodes = nodes ∨ ∃ front s, nodes = front ++ [.text s] ∧
      trimLastText nodes =
        if (Text.trimEnd s.toList).isEmpty then front
        else front ++ [.text (String.ofList (Text.trimEnd s.toList))] := by
  unfold trimLastText
  split
  case h_1 s rest reversed =>
    refine .inr ⟨rest.reverse, s, ?_, ?_⟩
    · rw [← List.reverse_cons, ← reversed, List.reverse_reverse]
    · simp
  case h_2 => exact .inl rfl

theorem remains_trimLastText (nodes : List Node) : Remains nodes (trimLastText nodes) := by
  obtain same | ⟨front, s, rfl, trimmed⟩ := trimLastText_cases nodes
  · rw [same]
    exact .refl nodes
  · rw [trimmed]
    split_ifs with empty
    · have blank : Text.isBlankText s.toList = true := by
        rw [isBlankText_iff_trimEnd, ← List.isEmpty_iff]
        exact empty
      simpa using (Remains.refl front).append (.blank blank .nil)
    · have same : Text.trimEnd s.toList =
          Text.trimEnd (String.ofList (Text.trimEnd s.toList)).toList := by
        rw [String.toList_ofList, trimEnd_trimEnd]
      exact (Remains.refl front).append (.text same .nil)

/-- A last comment is taken with the blank text behind it. -/
theorem takeTrailing_cases (nodes : List Node) :
    takeTrailing nodes = (none, nodes) ∨ ∃ front body behind,
      nodes = front ++ .comment body :: behind ∧ (∀ n ∈ behind, n.isBlankText = true) ∧
        takeTrailing nodes = (some (Bag.parse body), trimLastText front) := by
  unfold takeTrailing
  split
  case h_1 body rest reversed =>
    -- the text behind the comment is what was skipped from the end
    refine .inr ⟨rest.reverse, body, (nodes.reverse.takeWhile Node.isBlankText).reverse, ?_,
      fun n member => List.mem_takeWhile_imp (List.mem_reverse.mp member), rfl⟩
    conv_lhs => rw [← List.reverse_reverse nodes,
      ← List.takeWhile_append_dropWhile (p := Node.isBlankText) (l := nodes.reverse), reversed]
    simp
  case h_2 => exact .inl rfl

/-- Taking a last comment drops it, blank text behind it and the white space in front of it. -/
theorem remains_takeTrailing (nodes : List Node) : Remains nodes (takeTrailing nodes).2 := by
  obtain same | ⟨front, body, behind, rfl, blank, taken⟩ := takeTrailing_cases nodes
  · rw [same]
    exact .refl nodes
  · rw [taken]
    simpa using (remains_trimLastText front).append (.comment body (remains_of_blank blank))

/-- What annotating does to an element. -/
theorem annotate_element (tag : String) (attrs : Attributes) (children : List Node)
    (transparent : Bool) :
    ∃ merged, (annotate (.element tag attrs children transparent)).1 =
      .element tag merged
        ((takeTrailing (annotateAll children).1).2.filter fun n => !n.isComment) transparent := by
  cases transparent <;> exact ⟨_, rfl⟩

theorem remains_annotateAll (nodes : List Node) : Remains nodes (annotateAll nodes).1 := by
  induction nodes using Node.forest_induction with
  | nil => exact .nil
  | element tag attrs children transparent rest inner outer =>
      obtain ⟨merged, annotated⟩ := annotate_element tag attrs children transparent
      have step : (annotateAll (.element tag attrs children transparent :: rest)).1 =
          (annotate (.element tag attrs children transparent)).1 :: (annotateAll rest).1 := rfl
      rw [step, annotated]
      exact .element tag attrs merged transparent
        ((inner.trans (remains_takeTrailing _)).trans (remains_filter_isComment _)) outer
  | _ n rest ih => exact .same _ ih

theorem remains_annotate (n : Node) : Remains [n] [(annotate n).1] :=
  remains_annotateAll [n]

/-- Applying the comments of a page leaves what remains of it. -/
theorem remains_applyComments (nodes : List Node) (directives : PageDirectives) :
    Remains nodes (applyComments nodes directives).1 := by
  induction nodes generalizing directives with
  | nil => exact .nil
  | cons n rest ih =>
      cases n with
      | comment body =>
          unfold applyComments
          split_ifs
          · exact .same _ (ih directives)
          · exact .comment body (ih _)
      | _ => exact (remains_annotate _).append (ih directives)

/-! ## Partitions -/

/-- Cutting keeps the nodes of the open partition and drops comments only. -/
theorem remains_cut (current : List Node) (bags : List Bag) (nodes : List Node) :
    Remains (current.reverse ++ nodes)
      ((SplitLayout.cut current bags nodes).partitions.flatMap Partition.children) := by
  induction nodes generalizing current bags with
  | nil => simpa [SplitLayout.cut, Partition.close] using Remains.refl current.reverse
  | cons n rest ih =>
      have kept : ∀ bags, Remains (current.reverse ++ n :: rest)
          ((SplitLayout.cut (n :: current) bags rest).partitions.flatMap Partition.children) := by
        intro bags
        simpa using ih (n :: current) bags
      cases n with
      | comment body =>
          unfold SplitLayout.cut
          split
          case h_1 =>
            simpa [Partition.close] using
              (Remains.refl current.reverse).append (.comment body (ih [] []))
          case h_2 =>
            split
            case h_1 bag _ =>
              have dropped : Remains (current.reverse ++ .comment body :: rest)
                  (current.reverse ++ rest) :=
                (Remains.refl _).append (.comment body (.refl rest))
              exact dropped.trans (ih current (bag :: bags))
            case h_2 => exact kept bags
      | _ => exact kept bags

theorem remains_ofNodes (nodes : List Node) :
    Remains nodes ((SplitLayout.ofNodes nodes).partitions.flatMap Partition.children) :=
  remains_cut [] [] nodes

/-! ## The page -/

theorem remains_showImages {nodes : List Node}
    (shown : ∀ i ∈ imagesOf nodes, isBackground i = false) (options : ImageOptions) :
    Remains nodes (showImages options nodes) := by
  induction nodes using Node.forest_induction with
  | nil => exact .nil
  | element tag attrs children transparent rest inner outer =>
      rw [imagesOf_element, List.forall_mem_append] at shown
      exact .element tag attrs attrs transparent (inner shown.1) (outer shown.2)
  | image i rest ih =>
      rw [imagesOf_image, List.forall_mem_cons] at shown
      obtain ⟨attrs, element⟩ := imageElement_eq options i
      rw [showImages_image, element]
      exact .image shown.1 attrs (ih shown.2)
  | _ n rest ih => exact .same _ (ih shown)

theorem remains_flowNodes (options : ImageOptions) (nodes : List Node) :
    Remains nodes (flowNodes options nodes) := by
  obtain ⟨frame, shown, remains, images⟩ := exists_flowNodes_eq options nodes
  have foreground : ∀ i ∈ imagesOf frame, isBackground i = false := by
    simp [images, shownImages]
  rw [shown]
  exact remains.trans (remains_showImages foreground options)

theorem content_backdrop (options : ImageOptions) (nodes : List Node) :
    content (backdrop options nodes) = [] := by
  have layers : ∀ images : List Image, content ((images.map imageLayer).map Layer.node) = [] := by
    intro images
    induction images with
    | nil => rfl
    | cons i images ih => exact ih
  unfold backdrop
  split_ifs
  · rfl
  · simp only [layerContainer, content_element, layers, content_nil, List.append_nil]

theorem content_applyImages (options : ImageOptions) (nodes : List Node) :
    content (applyImages options nodes) = content nodes := by
  rw [applyImages_eq, content_append, content_backdrop, List.append_nil,
    (remains_flowNodes options nodes).content_eq]

/-- Wrapping partitions in sections adds no content. -/
theorem content_toNodes (layout : SplitLayout) :
    content layout.toNodes = content (layout.partitions.flatMap Partition.children) := by
  rw [content, leaves_toNodes, content]

theorem content_placed (options : ImageOptions) (partitions : List Partition) :
    content ((partitions.map (Partition.mapNodes (applyImages options))).flatMap
        Partition.children) =
      content (partitions.flatMap Partition.children) := by
  induction partitions with
  | nil => rfl
  | cons p partitions ih =>
      rw [List.map_cons, List.flatMap_cons, List.flatMap_cons, content_append, content_append, ih,
        Partition.mapNodes, content_applyImages]

/-- The passes over the structure of a page never lose, double or move content. The nodes that they
give are those that remain of the page, cut into partitions, with the container of the background
layers behind those of a partition and a section around each partition if the page is split. -/
theorem structural_passes_keep_content (options : ImageOptions) (directives : PageDirectives)
    (nodes : List Node) :
    let layout := SplitLayout.ofNodes (applyComments nodes directives).1
    content (layout.mapNodes (applyImages options)).toNodes = content nodes ∧
    Remains nodes (layout.partitions.flatMap fun p => flowNodes options p.children) ∧
    layout.mapNodes (applyImages options) =
      layout.mapNodes fun children => flowNodes options children ++ backdrop options children := by
  intro layout
  have cut : Remains nodes (layout.partitions.flatMap Partition.children) :=
    (remains_applyComments nodes directives).trans (remains_ofNodes _)
  refine ⟨?_, ?_, ?_⟩
  · calc
      content (layout.mapNodes (applyImages options)).toNodes
          = content ((layout.partitions.map (Partition.mapNodes (applyImages options))).flatMap
              Partition.children) := content_toNodes _
      _ = content (layout.partitions.flatMap Partition.children) := content_placed options _
      _ = content nodes := cut.content_eq
  · exact cut.trans (.flatMap (fun p : Partition => remains_flowNodes options p.children) _)
  · exact congrArg layout.mapNodes (funext fun children => applyImages_eq options children)

end SlideDeck.Slide
