import Mathlib.Data.List.Perm.Basic
import SlideDeck.Proofs.Slide.Comments
import SlideDeck.Proofs.Slide.Element

/-!
# Annotated elements

Which comments annotate which element. The trailing comment of an element is its last child, blank
text aside. A transparent element hands its trailing comment to the nearest element around it that
is not transparent, so an element is annotated by the trailing comments of the transparent elements
that are reached from it through transparent elements only, and then by its own
(`applyComments_annotates`).
-/

namespace SlideDeck.Slide

/-- The body of a trailing comment: the last node that is no blank text, if it is a comment. -/
def trailingComment? (nodes : List Node) : Option String :=
  match (nodes.filter fun n => !n.isBlankText).getLast? with
  | some (.comment body) => some body
  | _ => none

/-- The trailing comment of an element. -/
def Element.trailing? (e : Element) : Option String := trailingComment? e.children

mutual

/-- The transparent elements of a node that are reached through transparent elements only, an
element behind those in it. -/
def veilsIn : Node → List Element
  | .element tag attrs children true => veils children ++ [⟨tag, attrs, children, true⟩]
  | _ => []

/-- The transparent elements of a forest that are reached through transparent elements only. -/
def veils : List Node → List Element
  | [] => []
  | n :: rest => veilsIn n ++ veils rest

end

/-- The elements whose trailing comments annotate an element: the transparent elements that are
reached from it, then the element itself. -/
def Element.annotators (e : Element) : List Element := veils e.children ++ [e]

/-- An element where it stands. -/
structure Hosted where
  /-- The element. -/
  element : Element
  /-- The nearest element around it that is not transparent. -/
  host : Option Element

mutual

/-- The elements in a node where they stand; the node stands in `host`. -/
def hostedIn (host : Option Element) : Node → List Hosted
  | .element tag attrs children transparent =>
    ⟨⟨tag, attrs, children, transparent⟩, host⟩ ::
      hosted (if transparent then host else some ⟨tag, attrs, children, transparent⟩) children
  | _ => []

/-- The elements of a forest in document order, where they stand; the forest stands in `host`. -/
def hosted (host : Option Element) : List Node → List Hosted
  | [] => []
  | n :: rest => hostedIn host n ++ hosted host rest

end

/-- The bodies of the comments that annotate an element. -/
def Element.annotations (e : Element) : List String := e.annotators.filterMap Element.trailing?

/-- The attributes of an element behind the pass over the comments. -/
def Element.annotatedAttrs (e : Element) : Attributes :=
  if e.transparent then e.attrs else (e.annotations.map Bag.parse).foldl Attributes.merge e.attrs

mutual

/-- The elements in a node as they are nested, with the attributes that `f` gives them. -/
def outlineIn (f : Element → Attributes) : Node → List Node
  | .element tag attrs children transparent =>
    [.element tag (f ⟨tag, attrs, children, transparent⟩) (outline f children) transparent]
  | _ => []

/-- The elements of a forest as they are nested, with the attributes that `f` gives them. -/
def outline (f : Element → Attributes) : List Node → List Node
  | [] => []
  | n :: rest => outlineIn f n ++ outline f rest

end

/-! ## Outlines -/

variable (f : Element → Attributes)

theorem outline_eq_flatMap (nodes : List Node) : outline f nodes = nodes.flatMap (outlineIn f) := by
  induction nodes with
  | nil => rfl
  | cons n rest ih => rw [outline, ih, List.flatMap_cons]

theorem outline_append (left right : List Node) :
    outline f (left ++ right) = outline f left ++ outline f right := by
  simp only [outline_eq_flatMap, List.flatMap_append]

theorem outline_of_blank {nodes : List Node} (blank : ∀ n ∈ nodes, n.isBlankText = true) :
    outline f nodes = [] :=
  Node.blank_induction rfl (fun _ _ _ ih => ih) blank

/-- Comments can be left out. -/
theorem outline_filter {keep : Node → Bool} (comments : ∀ n, keep n = false → n.isComment = true)
    (nodes : List Node) : outline f (nodes.filter keep) = outline f nodes := by
  induction nodes with
  | nil => rfl
  | cons n rest ih =>
      cases kept : keep n with
      | true => rw [List.filter_cons_of_pos kept, outline, ih, outline]
      | false =>
          have comment := comments n kept
          rw [List.filter_cons_of_neg (by simp [kept]), ih]
          cases n with
          | comment body => rfl
          | _ => cases comment

theorem outline_trimLastText (nodes : List Node) :
    outline f (trimLastText nodes) = outline f nodes := by
  obtain same | ⟨front, s, rfl, trimmed⟩ := trimLastText_cases nodes
  · rw [same]
  · rw [trimmed, outline_append]
    split_ifs
    · exact (List.append_nil _).symm
    · rw [outline_append]
      rfl

theorem outline_takeTrailing (nodes : List Node) :
    outline f (takeTrailing nodes).2 = outline f nodes := by
  obtain same | ⟨front, body, behind, rfl, blank, taken⟩ := takeTrailing_cases nodes
  · rw [same]
  · have behind_nil : outline f (.comment body :: behind) = [] := by
      rw [outline, outline_of_blank f blank]
      rfl
    rw [taken, outline_trimLastText, outline_append, behind_nil, List.append_nil]

/-! ## Trailing comments -/

theorem annotateAll_eq_map (nodes : List Node) :
    (annotateAll nodes).1 = nodes.map fun n => (annotate n).1 := by
  induction nodes with
  | nil => rfl
  | cons n rest ih => exact congrArg (_ :: ·) ih

theorem isBlankText_annotate (n : Node) : (annotate n).1.isBlankText = n.isBlankText := by
  cases n with
  | element tag attrs children transparent =>
      obtain ⟨merged, annotated⟩ := annotate_element tag attrs children transparent
      rw [annotated]
      rfl
  | _ => rfl

/-- Annotating the children of an element moves no comment among them. -/
theorem trailingComment?_annotateAll (nodes : List Node) :
    trailingComment? (annotateAll nodes).1 = trailingComment? nodes := by
  rw [trailingComment?, annotateAll_eq_map, List.filter_map, List.getLast?_map]
  simp only [Function.comp_def, isBlankText_annotate]
  rw [trailingComment?]
  cases (nodes.filter fun n => !n.isBlankText).getLast? with
  | none => rfl
  | some last =>
      cases last with
      | element tag attrs children transparent =>
          obtain ⟨merged, annotated⟩ := annotate_element tag attrs children transparent
          simp [annotated]
      | _ => rfl

theorem fst_takeTrailing (nodes : List Node) :
    (takeTrailing nodes).1 = (trailingComment? nodes).map Bag.parse := by
  have last : (nodes.filter fun n => !n.isBlankText).getLast? =
      (nodes.reverse.dropWhile Node.isBlankText).head? := by
    rw [List.getLast?_eq_head?_reverse, ← List.filter_reverse, List.head?_filter,
      List.find?_eq_head?_dropWhile_not]
    simp
  rw [takeTrailing, trailingComment?, last]
  cases nodes.reverse.dropWhile Node.isBlankText with
  | nil => rfl
  | cons n rest => cases n <;> rfl

/-! ## The pass over the comments -/

/-- What the children of an element say about it, before the element keeps it or hands it on. -/
theorem pending_eq {children : List Node}
    (inner : (annotateAll children).2 =
      ((veils children).filterMap Element.trailing?).map Bag.parse)
    (tag : String) (attrs : Attributes) (transparent : Bool) :
    (annotateAll children).2 ++ (takeTrailing (annotateAll children).1).1.toList =
      (Element.annotations ⟨tag, attrs, children, transparent⟩).map Bag.parse := by
  rw [inner, fst_takeTrailing, trailingComment?_annotateAll, Element.annotations,
    Element.annotators, List.filterMap_append, List.map_append]
  congr 1
  cases found : trailingComment? children <;> simp [Element.trailing?, found]

/-- A forest hands on the trailing comments of the transparent elements that are reached from
outside. -/
theorem snd_annotateAll (nodes : List Node) :
    (annotateAll nodes).2 = ((veils nodes).filterMap Element.trailing?).map Bag.parse := by
  induction nodes using Node.forest_induction with
  | nil => rfl
  | element tag attrs children transparent rest inner outer =>
      have pending := pending_eq inner tag attrs transparent
      cases transparent with
      | true =>
          rw [veils, veilsIn, List.filterMap_append, List.map_append, ← outer]
          exact congrArg (· ++ _) pending
      | false => exact outer
  | _ n rest ih => exact ih

theorem outline_annotateAll (nodes : List Node) :
    outline Element.attrs (annotateAll nodes).1 = outline Element.annotatedAttrs nodes := by
  induction nodes using Node.forest_induction with
  | nil => rfl
  | element tag attrs children transparent rest inner outer =>
      have pending := pending_eq (snd_annotateAll children) tag attrs transparent
      have below : outline Element.attrs
          ((takeTrailing (annotateAll children).1).2.filter fun n => !n.isComment) =
            outline Element.annotatedAttrs children := by
        rw [outline_filter _ (by simp), outline_takeTrailing, inner]
      cases transparent with
      | true =>
          rw [outline, outlineIn, ← outer, ← below]
          rfl
      | false =>
          rw [outline, outlineIn, ← outer, ← below, Element.annotatedAttrs, ← pending]
          rfl
  | _ n rest ih => exact ih

theorem outlineIn_annotate (n : Node) :
    outlineIn Element.attrs (annotate n).1 = outlineIn Element.annotatedAttrs n := by
  have single := outline_annotateAll [n]
  rwa [outline, outline, List.append_nil, annotateAll_eq_map, List.map_singleton, outline, outline,
    List.append_nil] at single

/-- Each element gets the annotations that are its own, and nothing else happens to elements. -/
theorem outline_applyComments (nodes : List Node) (directives : PageDirectives) :
    outline Element.attrs (applyComments nodes directives).1 =
      outline Element.annotatedAttrs nodes := by
  have comment : ∀ n : Node, (!n.isPageComment) = false → n.isComment = true := by
    intro n page
    rw [Bool.not_eq_false'] at page
    rw [isComment_eq, page, Bool.or_true]
  rw [applyComments_eq, ← outline_filter _ comment nodes, afterComments, outline_eq_flatMap,
    outline_eq_flatMap, List.flatMap_map]
  simp only [outlineIn_annotate]

/-! ## Each comment at one element -/

theorem map_element_hosted (host : Option Element) (nodes : List Node) :
    (hosted host nodes).map Hosted.element = elements nodes := by
  induction nodes using Node.forest_induction generalizing host with
  | nil => rfl
  | element tag attrs children transparent rest inner outer =>
      rw [hosted, hostedIn, List.map_append, List.map_cons, inner, outer, elements, elementsIn]
  | _ n rest ih => exact ih host

/-- A transparent element annotates its host and no other element. -/
theorem hosted_perm (host : Option Element) (nodes : List Node) :
    ((hosted host nodes).filter fun h => h.element.transparent).Perm
      ((veils nodes).map (⟨·, host⟩) ++
        ((elements nodes).filter fun e => !e.transparent).flatMap fun e =>
          (veils e.children).map (⟨·, some e⟩)) := by
  classical
  induction nodes using Node.forest_induction generalizing host with
  | nil => exact .nil
  | element tag attrs children transparent rest inner outer =>
      rw [List.perm_iff_count]
      intro h
      have behind := (outer host).count_eq h
      rw [List.count_append] at behind
      rw [hosted, hostedIn, veils, elements, elementsIn]
      cases transparent with
      | true =>
          have inside := (inner host).count_eq h
          simp only [veilsIn, if_true, List.cons_append, List.nil_append, List.append_assoc,
            List.filter_cons_of_pos, List.filter_cons_of_neg, Bool.not_true, Bool.false_eq_true,
            not_false_eq_true, List.filter_append, List.map_append, List.map_cons,
            List.flatMap_append, List.count_append, List.count_cons] at inside ⊢
          omega
      | false =>
          have inside := (inner (some ⟨tag, attrs, children, false⟩)).count_eq h
          simp only [veilsIn, Bool.false_eq_true, if_false, List.cons_append, List.nil_append,
            List.filter_cons_of_pos, List.filter_cons_of_neg, Bool.not_false, not_false_eq_true,
            List.filter_append, List.flatMap_cons, List.flatMap_append,
            List.count_append] at inside ⊢
          omega
  | _ n rest ih => exact ih host

/-- Every element annotates one element at most: it is reached from outside of the forest, or it
annotates the nearest element that is not transparent, itself included. -/
theorem elements_perm (nodes : List Node) :
    (elements nodes).Perm (veils nodes ++
      ((elements nodes).filter fun e => !e.transparent).flatMap Element.annotators) := by
  have reached := (hosted_perm none nodes).map Hosted.element
  have transparent : ((hosted none nodes).filter fun h => h.element.transparent).map
      Hosted.element = (elements nodes).filter Element.transparent := by
    rw [← map_element_hosted none nodes, List.filter_map]
    rfl
  simp only [transparent, List.map_append, List.map_map, List.map_flatMap, Function.comp_def,
    List.map_id'] at reached
  have annotators := List.flatMap_append_perm ((elements nodes).filter fun e => !e.transparent)
    (fun e => veils e.children) fun e => [e]
  rw [List.flatMap_singleton'] at annotators
  refine (List.filter_append_perm Element.transparent (elements nodes)).symm.trans ?_
  refine (reached.append_right _).trans ?_
  rw [List.append_assoc]
  exact annotators.append_left _

/-- What the pass over the comments does to elements. The elements of a page stay, as they are
nested; an element that is not transparent gets, one after the other, the trailing comments of the
transparent elements that are reached from it through transparent elements only, the inner ones
before the outer ones, and then its own; a transparent element keeps its attributes. No other
comment in an element says anything, also not about the page. Each trailing comment annotates one
element, unless it is one of a transparent element that is reached from outside. -/
theorem applyComments_annotates (nodes : List Node) (directives : PageDirectives) :
    outline Element.attrs (applyComments nodes directives).1 =
      outline Element.annotatedAttrs nodes ∧
    (applyComments nodes directives).2 = (pageBags nodes).foldl PageDirectives.apply directives ∧
    ((elements nodes).filterMap Element.trailing?).Perm
      ((veils nodes).filterMap Element.trailing? ++
        ((elements nodes).filter fun e => !e.transparent).flatMap Element.annotations) := by
  refine ⟨outline_applyComments nodes directives, ?_, ?_⟩
  · rw [applyComments_eq]
  · have each := (elements_perm nodes).filterMap Element.trailing?
    rwa [List.filterMap_append, List.filterMap_flatMap] at each

example :
    Element.annotations ⟨"li", .empty,
      [.element "p" .empty
          [.element "span" .empty [.comment ".inner"] true, .comment ".outer"] true,
        .comment ".own", .text " "], false⟩ = [".inner", ".outer", ".own"] := by
  decide

end SlideDeck.Slide
