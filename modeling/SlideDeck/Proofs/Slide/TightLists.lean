import SlideDeck.Proofs.Markdown.Tree
import SlideDeck.Proofs.Slide.Annotations
import SlideDeck.Proofs.Slide.Lower

/-!
# Paragraphs of tight lists

Where the paragraphs of a page stand when they sit in lists, quotes and items. A paragraph becomes
transparent exactly if the innermost list around it is tight, and then its trailing comment
annotates the item or the quote that the paragraph sits in (`tightParagraphs_lower`). The list need
not be near: a paragraph of a quote in a tight item is transparent as well, and what is said about
it is said about the quote (`not_item_quotedItem`).
-/

namespace SlideDeck

/-- How a paragraph is shown. -/
structure ParagraphPlace where
  /-- It is shown without an element of its own. -/
  transparent : Bool
  /-- The tag of the element that it is shown in. -/
  host : Option String
deriving DecidableEq, Repr

/-! ## Markdown -/

namespace Markdown

/-- A node where it stands. -/
structure Seat where
  /-- The nodes around it, the innermost one first. -/
  around : List Node
  /-- The node. -/
  node : Node

mutual

/-- The nodes in a node where they stand. The content of a footnote does not stand where it is
defined. -/
def Node.innerSeats (around : List Node) : Node → List Seat
  | n@(.root children) | n@(.paragraph children) | n@(.heading _ children)
  | n@(.blockquote children) | n@(.list _ _ _ children) | n@(.listItem _ _ children)
  | n@(.table _ children) | n@(.tableRow children) | n@(.tableCell children)
  | n@(.emphasis children) | n@(.strong children) | n@(.delete children) | n@(.link _ children)
  | n@(.linkReference _ _ children) => seats (n :: around) children
  | _ => []

/-- All nodes of a forest in document order, where they stand. -/
def seats (around : List Node) : List Node → List Seat
  | [] => []
  | n :: rest => ⟨around, n⟩ :: (n.innerSeats around ++ seats around rest)

end

/-- True of a paragraph. -/
def Node.isParagraph : Node → Bool
  | .paragraph _ => true
  | _ => false

/-- The tag of a list, an item or a quote. -/
def Node.groupTag? : Node → Option String
  | .list ordered _ _ _ => some (if ordered then "ol" else "ul")
  | .listItem _ _ _ => some "li"
  | .blockquote _ => some "blockquote"
  | _ => none

/-- The tightness of a list. -/
def Node.tight? : Node → Option Bool
  | .list _ _ spread items => some (Slide.isTight spread items)
  | _ => none

/-- True if the innermost list is tight. -/
def isInTightList (around : List Node) : Bool := (around.findSome? Node.tight?).getD false

/-- How a paragraph should be shown that stands in a list, an item or a quote. -/
def Seat.place (s : Seat) : ParagraphPlace :=
  ⟨isInTightList s.around, s.around.head?.bind Node.groupTag?⟩

/-- How the paragraphs of a forest should be shown, in document order. -/
def places (around nodes : List Node) : List ParagraphPlace :=
  ((seats around nodes).filter fun s => s.node.isParagraph).map Seat.place

/-- The paragraphs of a forest sit in nothing but lists, items and quotes. -/
def Settled (around nodes : List Node) : Prop :=
  ∀ s ∈ seats around nodes, s.node.isParagraph = true → ∀ n ∈ s.around, n.groupTag?.isSome = true

instance (around nodes : List Node) : Decidable (Settled around nodes) :=
  inferInstanceAs (Decidable (∀ s ∈ seats around nodes, s.node.isParagraph = true →
    ∀ n ∈ s.around, n.groupTag?.isSome = true))

variable {around : List Node}

theorem seats_append (left right : List Node) :
    seats around (left ++ right) = seats around left ++ seats around right := by
  induction left with
  | nil => rfl
  | cons n left ih => simp [seats, ih]

theorem places_append (left right : List Node) :
    places around (left ++ right) = places around left ++ places around right := by
  simp only [places, seats_append, List.filter_append, List.map_append]

theorem places_cons_eq_nil {n : Node} {rest : List Node} :
    places around (n :: rest) = [] ↔ places around [n] = [] ∧ places around rest = [] := by
  rw [← List.append_eq_nil_iff, ← places_append, List.singleton_append]

theorem settled_append {left right : List Node} :
    Settled around (left ++ right) ↔ Settled around left ∧ Settled around right := by
  rw [Settled, seats_append]
  exact List.forall_mem_append

theorem innerSeats_eq (n : Node) :
    n.innerSeats around = if n.note?.isSome then [] else seats (n :: around) n.children := by
  cases n <;> rfl

/-- What stands around a forest stands around each node of it. -/
theorem around_subset {nodes : List Node} {s : Seat} (member : s ∈ seats around nodes) :
    around ⊆ s.around := by
  induction nodes using forest_induction generalizing around with
  | nil => cases member
  | cons n rest inner outer =>
      rw [seats, innerSeats_eq] at member
      obtain rfl | inside | behind : s = ⟨around, n⟩ ∨ _ ∨ s ∈ seats around rest := by
        simpa only [List.mem_cons, List.mem_append] using member
      · exact List.Subset.refl around
      · split_ifs at inside with note
        · cases inside
        · exact List.Subset.trans (List.subset_cons_self n around) (inner inside)
      · exact outer behind

section

variable {n : Node}

theorem places_single (other : n.isParagraph = false)
    (below : n.innerSeats around = seats (n :: around) n.children) :
    places around [n] = places (n :: around) n.children := by
  simp [places, seats, other, below]

theorem Settled.below (settled : Settled around [n])
    (below : n.innerSeats around = seats (n :: around) n.children) :
    Settled (n :: around) n.children := by
  intro s member
  rw [← below] at member
  exact settled s (List.mem_cons_of_mem _ (List.mem_append_left _ member))

/-- No paragraph is settled in a node of another kind. -/
theorem Settled.places_eq_nil {nodes : List Node} (settled : Settled around nodes)
    (member : n ∈ around) (other : n.groupTag? = none) : places around nodes = [] := by
  refine List.map_eq_nil_iff.mpr (List.filter_eq_nil_iff.mpr fun s seat paragraph => ?_)
  have group := settled s seat paragraph n (around_subset seat member)
  rw [other] at group
  cases group

theorem Settled.places_single_eq_nil (settled : Settled around [n])
    (below : n.innerSeats around = seats (n :: around) n.children)
    (other : n.isParagraph = false) (stray : n.groupTag? = none) : places around [n] = [] :=
  (places_single other below).trans ((settled.below below).places_eq_nil List.mem_cons_self stray)

end

theorem settled_of_places {nodes : List Node} (bare : places around nodes = []) :
    Settled around nodes := by
  intro s member paragraph
  have stays : s ∈ (seats around nodes).filter fun s => s.node.isParagraph :=
    List.mem_filter.mpr ⟨member, paragraph⟩
  rw [List.map_eq_nil_iff.mp bare] at stays
  cases stays

end Markdown

namespace Slide

open Markdown (Settled Target ReferenceKind Label Align places isInTightList)

/-! ## Slide nodes -/

/-- How a paragraph is shown. -/
def Hosted.place (h : Hosted) : ParagraphPlace := ⟨h.element.transparent, h.host.map Element.tag⟩

/-- How the paragraphs of a forest are shown, in document order; the forest stands in `host`. -/
def paragraphs (host : Option Element) (nodes : List Node) : List ParagraphPlace :=
  ((hosted host nodes).filter fun h => h.element.tag = "p").map Hosted.place

/-- The Markdown nodes that a page shows: its text, and the contents of footnotes that are referred
to as items behind it. -/
def shownNodes (page : Markdown.Node) : List Markdown.Node :=
  let d := Definitions.ofPage page
  let order := (lowerAll d false (rootNodes page) []).2
  rootNodes page ++ (order.filterMap d.footnote?).map fun content => .listItem false none content

theorem hosted_append (host : Option Element) (left right : List Node) :
    hosted host (left ++ right) = hosted host left ++ hosted host right := by
  induction left with
  | nil => rfl
  | cons n left ih => rw [List.cons_append, hosted, ih, hosted, List.append_assoc]

theorem paragraphs_append (host : Option Element) (left right : List Node) :
    paragraphs host (left ++ right) = paragraphs host left ++ paragraphs host right := by
  rw [paragraphs, hosted_append, List.filter_append, List.map_append, paragraphs, paragraphs]

theorem paragraphs_of_elements {nodes : List Node} (bare : elements nodes = [])
    (host : Option Element) : paragraphs host nodes = [] := by
  rw [← map_element_hosted host, List.map_eq_nil_iff] at bare
  rw [paragraphs, bare]
  rfl

section

variable (host : Option Element) (attrs : Attributes) (children : List Node)

theorem paragraphs_element {tag : String} (other : tag ≠ "p") (transparent : Bool) :
    paragraphs host [.element tag attrs children transparent] =
      paragraphs (if transparent then host else some ⟨tag, attrs, children, transparent⟩)
        children := by
  simp [paragraphs, hosted, hostedIn, other]

theorem paragraphs_paragraph (transparent : Bool) :
    paragraphs host [.element "p" attrs children transparent] =
      ⟨transparent, host.map Element.tag⟩ ::
        paragraphs (if transparent then host else some ⟨"p", attrs, children, transparent⟩)
          children := by
  simp [paragraphs, hosted, hostedIn, Hosted.place]

end

/-! ## No paragraphs -/

theorem paragraphs_cons_eq_nil {n : Node} {rest : List Node} {host : Option Element} :
    paragraphs host (n :: rest) = [] ↔ paragraphs host [n] = [] ∧ paragraphs host rest = [] := by
  rw [← List.append_eq_nil_iff, ← paragraphs_append, List.singleton_append]

theorem bare_element {tag : String} (other : tag ≠ "p") {attrs : Attributes} {children : List Node}
    (bare : ∀ host, paragraphs host children = []) (host : Option Element) :
    paragraphs host [.element tag attrs children false] = [] :=
  (paragraphs_element host attrs children other false).trans (bare _)

theorem bare_tableNode {rows : List Node} (bare : ∀ host, paragraphs host rows = [])
    (host : Option Element) : paragraphs host [tableNode rows] = [] := by
  match rows with
  | [] => rfl
  | [head] => exact bare_element (by decide) (bare_element (by decide) bare) host
  | head :: next :: body =>
      have parts host := paragraphs_cons_eq_nil.mp (bare host)
      exact bare_element (by decide) (fun host => paragraphs_cons_eq_nil.mpr
        ⟨bare_element (by decide) (fun host => (parts host).1) host,
          bare_element (by decide) (fun host => (parts host).2) host⟩) host

/-! ## What a walk carries -/

/-- What the walk knows of the nodes around it: the tightness of the innermost list, and the tag of
the element that it fills, as long as paragraphs can be settled in it. -/
structure Frames (around : List Markdown.Node) (tight : Bool) (tag : Option String) : Prop where
  tight_eq : isInTightList around = tight
  tag_eq : (∀ n ∈ around, n.groupTag?.isSome = true) →
    tag = around.head?.bind Markdown.Node.groupTag?

/-- True of what is lowered from Markdown nodes in an element with a tag: its paragraphs are shown
as they should be. -/
def Seated (around nodes : List Markdown.Node) (tag : Option String) (lowered : List Node) : Prop :=
  Settled around nodes → ∀ host : Option Element, host.map Element.tag = tag →
    paragraphs host lowered = places around nodes

/-- A node in an element with the first tag has its paragraphs in some content, and that is in an
element with the second tag. -/
def Wraps (outer inner : Option String) (n : Node) (content : List Node) : Prop :=
  ∀ host : Option Element, host.map Element.tag = outer →
    ∃ within : Option Element, within.map Element.tag = inner ∧
      paragraphs host [n] = paragraphs within content

section

variable {around : List Markdown.Node} {tight : Bool} {tag inner : Option String}

theorem Frames.into (frames : Frames around tight tag) {n : Markdown.Node}
    (group : n.groupTag? = none ∨ n.groupTag? = inner) :
    Frames (n :: around) (n.tight?.getD tight) inner where
  tight_eq := by
    rw [← frames.tight_eq, isInTightList, List.findSome?_cons]
    cases n.tight? <;> rfl
  tag_eq grouped := by
    have grouped_n := grouped n List.mem_cons_self
    obtain none | same := group
    · rw [none] at grouped_n
      cases grouped_n
    · exact same.symm

theorem Seated.append {left right : List Markdown.Node} {first behind : List Node}
    (here : Seated around left tag first) (later : Seated around right tag behind) :
    Seated around (left ++ right) tag (first ++ behind) := by
  intro settled host same
  obtain ⟨settled_left, settled_right⟩ := Markdown.settled_append.mp settled
  rw [paragraphs_append, here settled_left host same, later settled_right host same,
    Markdown.places_append]

theorem Seated.cons {n : Markdown.Node} {rest : List Markdown.Node} {first behind : List Node}
    (here : Seated around [n] tag first) (later : Seated around rest tag behind) :
    Seated around (n :: rest) tag (first ++ behind) :=
  here.append later

theorem Seated.bare {nodes : List Markdown.Node} {lowered : List Node}
    (none : places around nodes = []) (elements_eq : elements lowered = []) :
    Seated around nodes tag lowered := fun _ host _ =>
  (paragraphs_of_elements elements_eq host).trans none.symm

theorem Seated.into {n : Markdown.Node} {m : Node} {lowered : List Node}
    (inside : Seated (n :: around) n.children inner lowered) (other : n.isParagraph = false)
    (below : n.innerSeats around = Markdown.seats (n :: around) n.children)
    (wraps : Wraps tag inner m lowered) : Seated around [n] tag [m] := by
  intro settled host same
  obtain ⟨within, tag_eq, shown⟩ := wraps host same
  rw [shown, inside (settled.below below) within tag_eq, Markdown.places_single other below]

/-- A paragraph in a list, an item or a quote. Those in the paragraph itself are not settled, so it
does not matter what they stand in. -/
theorem Frames.paragraph (frames : Frames around tight tag) {children : List Markdown.Node}
    {lowered : List Node}
    (inside : ∀ inner, Seated (.paragraph children :: around) children inner lowered) :
    Seated around [.paragraph children] tag [.element "p" .empty lowered tight] := by
  intro settled host same
  have head : tag = around.head?.bind Markdown.Node.groupTag? :=
    frames.tag_eq (settled ⟨around, .paragraph children⟩ List.mem_cons_self rfl)
  rw [paragraphs_paragraph, inside _ (settled.below rfl) _ rfl, same, head, ← frames.tight_eq]
  simp [places, Markdown.seats, Markdown.Node.isParagraph, Markdown.Node.innerSeats,
    Markdown.Seat.place]

theorem wraps_element {name : String} (other : name ≠ "p") (attrs : Attributes)
    (children : List Node) : Wraps tag (some name) (.element name attrs children false) children :=
  fun host _ => ⟨some ⟨name, attrs, children, false⟩, rfl,
    paragraphs_element host attrs children other false⟩

theorem wraps_itemNode (checked : Option Bool) (children : List Node) :
    Wraps tag (some "li") (itemNode checked children) children := by
  cases checked with
  | none => exact wraps_element (by decide) .empty children
  | some checked =>
      intro host same
      obtain ⟨within, tag_eq, shown⟩ := wraps_element (by decide : "li" ≠ "p")
        (Attributes.empty.addClass "task-list-item")
        ([checkbox checked, .text " "] ++ children) host same
      have box : paragraphs within [checkbox checked, .text " "] = [] := by cases checked <;> rfl
      rw [paragraphs_append, box] at shown
      exact ⟨within, tag_eq, shown⟩

theorem wraps_unresolvedLink (kind : ReferenceKind) (label : Label) (children : List Node) :
    Wraps tag tag (unresolvedLink kind label children) children := by
  intro host same
  refine ⟨host, same, ?_⟩
  rw [unresolvedLink, paragraphs_element _ _ _ (by decide), if_pos rfl, paragraphs_append,
    paragraphs_append]
  exact List.append_nil _

theorem wraps_footnoteItem (identifier : String) (children : List Node) :
    Wraps tag (some "li") (footnoteItem identifier children) children := by
  intro host same
  obtain ⟨within, tag_eq, shown⟩ := wraps_element (by decide : "li" ≠ "p") _ _ host same
  refine ⟨within, tag_eq, shown.trans ?_⟩
  rw [paragraphs_append]
  exact List.append_nil _

end

/-! ## The walk over a page

The induction is on the Markdown tree and carries `Frames` from a node to the nodes in it. Below a
node that is no list, item or quote no paragraph is settled, and any tag will do; so the rows and the
cells of a table only have to be free of paragraphs. -/

variable (d : Definitions)

mutual

theorem seated_lowerNode : ∀ (n : Markdown.Node) (order : List String)
    {around : List Markdown.Node} {tight : Bool} {tag : Option String},
    Frames around tight tag → Seated around [n] tag (lowerNode d tight n order).1
  | .root children, order, _, _, _, frames =>
      (seated_lowerAll children order (frames.into (.inl rfl))).into rfl rfl
        (wraps_element (by decide) _ _)
  | .paragraph children, order, _, _, _, frames =>
      frames.paragraph fun _ => seated_lowerAll children order (frames.into (.inl rfl))
  | .heading depth children, order, _, _, _, frames =>
      (seated_lowerAll children order (frames.into (.inl rfl))).into rfl rfl
        (wraps_element (heading_ne depth (by decide : 'p' ≠ 'h')) _ _)
  | .blockquote children, order, _, _, _, frames =>
      (seated_lowerAll children order (frames.into (.inr rfl))).into rfl rfl
        (wraps_element (by decide) _ _)
  | .list ordered _ _ items, order, _, _, _, frames =>
      (seated_lowerAll items order (frames.into (.inr rfl))).into rfl rfl
        (wraps_element (by cases ordered <;> decide) _ _)
  | .listItem _ checked children, order, _, _, _, frames =>
      (seated_lowerAll children order (frames.into (.inr rfl))).into rfl rfl
        (wraps_itemNode checked _)
  | .table align rows, order, _, _, _, frames => by
      intro settled host _
      have bare := (settled.below rfl).places_eq_nil List.mem_cons_self rfl
      rw [Markdown.places_single rfl rfl, bare]
      exact bare_tableNode
        (bare_lowerRows align "th" (by decide) rows order (frames.into (.inl rfl)) bare) host
  | .emphasis children, order, _, _, _, frames | .strong children, order, _, _, _, frames
  | .delete children, order, _, _, _, frames | .link _ children, order, _, _, _, frames =>
      (seated_lowerAll children order (frames.into (.inl rfl))).into rfl rfl
        (wraps_element (by decide) _ _)
  | .linkReference kind label children, order, _, _, _, frames => by
      rw [lowerNode]
      cases d.target? label with
      | some target =>
          exact (seated_lowerAll children order (frames.into (.inl rfl))).into rfl rfl
            (wraps_element (by decide) _ _)
      | none =>
          exact (seated_lowerAll children order (frames.into (.inl rfl))).into rfl rfl
            (wraps_unresolvedLink kind label _)
  | .html value, _, _, _, _, _ => .bare rfl (elements_htmlNodes value)
  | .imageReference kind label alt, _, _, _, _, _ => by
      refine .bare rfl ?_
      rw [lowerNode, imageNode]
      cases d.target? label <;> rfl
  | .tableRow _, _, _, _, _, _ | .tableCell _, _, _, _, _, _ =>
      fun settled _ _ => (settled.places_single_eq_nil rfl rfl rfl).symm
  | .footnoteReference _, _, _, _, _, _ | .code _, _, _, _, _, _ | .thematicBreak, _, _, _, _, _
  | .definition _ _, _, _, _, _, _ | .footnoteDefinition _ _, _, _, _, _, _ | .text _, _, _, _, _, _
  | .inlineCode _, _, _, _, _, _ | .lineBreak, _, _, _, _, _ | .image _, _, _, _, _, _
  | .unused, _, _, _, _, _ => fun _ _ _ => rfl
termination_by structural n => n

theorem seated_lowerAll : ∀ (nodes : List Markdown.Node) (order : List String)
    {around : List Markdown.Node} {tight : Bool} {tag : Option String},
    Frames around tight tag → Seated around nodes tag (lowerAll d tight nodes order).1
  | [], _, _, _, _, _ => fun _ _ _ => rfl
  | n :: rest, order, _, _, _, frames =>
      .cons (seated_lowerNode n order frames) (seated_lowerAll rest _ frames)
termination_by structural nodes => nodes

theorem bare_lowerRows (align : List (Option Align)) (tag : String) (other : tag ≠ "p") :
    ∀ (rows : List Markdown.Node) (order : List String) {around : List Markdown.Node}
      {tight : Bool}, Frames around tight none → places around rows = [] →
        ∀ host, paragraphs host (lowerRows d tight align tag rows order).1 = []
  | [], _, _, _, _, _, _ => rfl
  | row :: rest, order, _, _, frames, bare, host => by
      obtain ⟨here, behind⟩ := Markdown.places_cons_eq_nil.mp bare
      cases row with
      | tableRow cells =>
          rw [Markdown.places_single rfl rfl] at here
          have row := bare_lowerCells align tag other 0 cells order (frames.into (.inl rfl)) here
          exact paragraphs_cons_eq_nil.mpr ⟨bare_element (by decide : "tr" ≠ "p") row host,
            bare_lowerRows align "td" (by decide) rest _ frames behind host⟩
      | _ => exact bare_lowerRows align tag other rest order frames behind host
termination_by structural rows => rows

theorem bare_lowerCells (align : List (Option Align)) (tag : String) (other : tag ≠ "p") :
    ∀ (column : Nat) (cells : List Markdown.Node) (order : List String)
      {around : List Markdown.Node} {tight : Bool}, Frames around tight none →
        places around cells = [] →
          ∀ host, paragraphs host (lowerCells d tight align tag column cells order).1 = []
  | _, [], _, _, _, _, _, _ => rfl
  | column, cell :: rest, order, _, _, frames, bare, host => by
      obtain ⟨here, behind⟩ := Markdown.places_cons_eq_nil.mp bare
      cases cell with
      | tableCell children =>
          rw [Markdown.places_single rfl rfl] at here
          have settled := Markdown.settled_of_places here
          have cell (host : Option Element) :=
            (seated_lowerAll children order (frames.into (.inl rfl)) settled host rfl).trans here
          exact paragraphs_cons_eq_nil.mpr ⟨bare_element other cell host,
            bare_lowerCells align tag other (column + 1) rest _ frames behind host⟩
      | _ => exact bare_lowerCells align tag other (column + 1) rest order frames behind host
termination_by structural _ cells => cells

end

/-- The items of footnotes show the paragraphs of their contents. -/
theorem seated_footnoteItems (identifiers order : List String) (tag : Option String) :
    Seated [] ((identifiers.filterMap d.footnote?).map fun content => .listItem false none content)
      tag (footnoteItems d identifiers order) := by
  induction identifiers generalizing order with
  | nil => exact fun _ _ _ => rfl
  | cons identifier rest ih =>
      rw [footnoteItems]
      cases found : d.footnote? identifier with
      | none =>
          rw [List.filterMap_cons_none found]
          exact ih order
      | some content =>
          rw [List.filterMap_cons_some found]
          have outside : Frames [] false (none : Option String) := ⟨rfl, fun _ => rfl⟩
          have inside := seated_lowerAll d content order
            (outside.into (n := .listItem false none content) (.inr rfl))
          exact .cons (inside.into rfl rfl (wraps_footnoteItem identifier _)) (ih _)

theorem seated_footnoteSection (order : List String) (tag : Option String) :
    Seated [] ((order.filterMap d.footnote?).map fun content => .listItem false none content)
      tag (footnoteSection d order) := by
  have items := seated_footnoteItems d order []
  rw [footnoteSection]
  cases empty : (footnoteItems d order []).isEmpty with
  | true =>
      rw [List.isEmpty_iff.mp empty] at items
      exact items tag
  | false =>
      intro settled host _
      have section_eq := paragraphs_element host (Attributes.empty.addClass "footnotes")
        [.plain "ol" (footnoteItems d order [])] (by decide : "section" ≠ "p") false
      refine section_eq.trans ((paragraphs_element _ _ _ (by decide : "ol" ≠ "p") false).trans ?_)
      exact items _ settled _ rfl

/-- Paragraphs are shown as they should be. -/
theorem paragraphs_lower {page : Markdown.Node} (settled : Settled [] (shownNodes page)) :
    paragraphs none (lower page) = places [] (shownNodes page) := by
  have outside : Frames [] false none := ⟨rfl, fun _ => rfl⟩
  have flow := seated_lowerAll (.ofPage page) (rootNodes page) [] outside
  have notes := seated_footnoteSection (.ofPage page)
    (lowerAll (.ofPage page) false (rootNodes page) []).2 none
  exact (flow.append notes) settled none rfl

/-- Where the paragraphs of a page stand that sit in lists, items and quotes only, and what their
comments annotate. A paragraph is transparent exactly if its innermost list is tight, and its host
is the item or the quote that it sits in. The trailing comment of a transparent element, paragraphs
among them, annotates its host and no other element. -/
theorem tightParagraphs_lower (page : Markdown.Node) (settled : Settled [] (shownNodes page))
    (directives : PageDirectives) :
    paragraphs none (lower page) = places [] (shownNodes page) ∧
    ((hosted none (lower page)).filter fun h => h.element.transparent).Perm
      ((veils (lower page)).map (⟨·, none⟩) ++
        ((elements (lower page)).filter fun e => !e.transparent).flatMap fun e =>
          (veils e.children).map (⟨·, some e⟩)) ∧
    outline Element.attrs (applyComments (lower page) directives).1 =
      outline Element.annotatedAttrs (lower page) :=
  ⟨paragraphs_lower settled, hosted_perm none (lower page),
    outline_applyComments (lower page) directives⟩

/-- Lists in a quote, in an item and in a footnote, and a quote in an item. -/
def nestedLists : Markdown.Node :=
  .root
    [.list false none false
        [.listItem false none [.paragraph [.text "a"]],
          .listItem false none
            [.blockquote [.paragraph [.text "b"]],
              .list true none true [.listItem false (some true) [.paragraph [.text "c"]]]]],
      .blockquote [.paragraph [.footnoteReference ⟨"n", none⟩]],
      .footnoteDefinition ⟨"n", none⟩
        [.paragraph [.text "d"],
          .list false none false [.listItem false none [.paragraph [.text "e"]]]]]

theorem tightParagraphs_lower_nestedLists :
    Settled [] (shownNodes nestedLists) ∧
      paragraphs none (lower nestedLists) =
        [⟨true, "li"⟩, ⟨true, "blockquote"⟩, ⟨false, "li"⟩, ⟨false, "blockquote"⟩, ⟨false, "li"⟩,
          ⟨true, "li"⟩] := by
  have settled : Settled [] (shownNodes nestedLists) := by decide
  exact ⟨settled, (tightParagraphs_lower nestedLists settled (.start {})).1.trans (by decide)⟩

/-- A tight item that is a quote. -/
def quotedItem : Markdown.Node :=
  .root
    [.list false none false
      [.listItem false none
        [.blockquote [.paragraph [.text "a ", .html "<!-- .x -->"]]]]]

/-- The paragraph of the quote is transparent, and its comment annotates the quote instead of the
item. -/
theorem not_item_quotedItem :
    Settled [] (shownNodes quotedItem) ∧
      paragraphs none (lower quotedItem) = [⟨true, some "blockquote"⟩] ∧
      (¬∀ p ∈ paragraphs none (lower quotedItem), p.transparent = true → p.host = some "li") ∧
      (elements (applyComments (lower quotedItem) (.start {})).1).map
          (fun e => (e.tag, e.attrs.getText? "class")) =
        [("ul", none), ("li", none), ("blockquote", some "x"), ("p", none)] := by
  have settled : Settled [] (shownNodes quotedItem) := by decide
  have shown : paragraphs none (lower quotedItem) = [⟨true, some "blockquote"⟩] :=
    (paragraphs_lower settled).trans (by decide)
  refine ⟨settled, shown, ?_, by decide +kernel⟩
  rw [shown]
  decide

end Slide

end SlideDeck
