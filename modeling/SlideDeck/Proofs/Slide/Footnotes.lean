import Mathlib.Data.List.Nodup
import SlideDeck.Proofs.Attribute.Lookup
import SlideDeck.Proofs.Markdown.Tree
import SlideDeck.Proofs.Slide.Lower

/-!
# Footnotes

Where the marks of footnotes lead. If the contents of footnotes refer to no footnotes and define
none, then each mark shows the place of the one item that it leads to, and each item is marked
(`footnotesLand_lower`). A mark in the content of a footnote is numbered again from one, behind the
text, and no item is made for it (`not_footnotesLand_nestedNotes`).
-/

namespace SlideDeck.Slide

open Markdown (Align notes noteReferences)

/-! ## Marks and items -/

/-- The mark of a footnote as it is shown. -/
structure Mark where
  /-- Where it leads. -/
  address : String
  /-- What it shows. -/
  shown : String
deriving DecidableEq, Repr

/-- The mark that an element is. -/
def Element.mark? (e : Element) : Option Mark :=
  if e.tag = "a" ∧ e.attrs.get? "data-footnote-ref" = some (.flag true) then
    (e.attrs.getText? "href").map fun address => ⟨address, Node.textContents e.children⟩
  else none

/-- The marks of footnotes in a forest, in document order. -/
def marks (nodes : List Node) : List Mark := (elements nodes).filterMap Element.mark?

/-- The address of an item of a list. -/
def Node.itemAddress? : Node → Option String
  | .element tag attrs _ _ => if tag = "li" then (attrs.getText? "id").map ("#" ++ ·) else none
  | _ => none

/-- The addresses of the items in a section of footnotes. -/
def Node.noteAddresses : Node → List String
  | .element tag attrs [.element inner _ items _] _ =>
    if tag = "section" ∧ attrs.getText? "class" = some "footnotes" ∧ inner = "ol" then
      items.filterMap Node.itemAddress?
    else []
  | _ => []

/-- The addresses of the footnotes at the end of a page, in their order. -/
def noteAddresses (nodes : List Node) : List String :=
  (nodes.getLast?.map Node.noteAddresses).getD []

/-- Footnotes and their marks belong together. -/
structure FootnotesLand (nodes : List Node) : Prop where
  /-- A mark shows the place of the one footnote that it leads to. -/
  lands : ∀ mark ∈ marks nodes, ∃ i, (noteAddresses nodes)[i]? = some mark.address ∧
    (noteAddresses nodes).count mark.address = 1 ∧ mark.shown = toString (i + 1)
  /-- A footnote has a mark. -/
  marked : ∀ address ∈ noteAddresses nodes, ∃ mark ∈ marks nodes, mark.address = address

theorem marks_append (left right : List Node) :
    marks (left ++ right) = marks left ++ marks right := by
  rw [marks, elements_append, List.filterMap_append, marks, marks]

theorem marks_element_of_none {tag : String} {attrs : Attributes} {children : List Node}
    {transparent : Bool} (unmarked : Element.mark? ⟨tag, attrs, children, transparent⟩ = none) :
    marks [.element tag attrs children transparent] = marks children := by
  rw [marks, elements, elements, List.append_nil, elementsIn, List.filterMap_cons_none unmarked,
    marks]

theorem marks_element {tag : String} (other : tag ≠ "a") (attrs : Attributes)
    (children : List Node) (transparent : Bool) :
    marks [.element tag attrs children transparent] = marks children :=
  marks_element_of_none (if_neg fun link => other link.1)

theorem marks_cons_leaf {n : Node} (leaf : elementsIn n = []) (rest : List Node) :
    marks (n :: rest) = marks rest := by
  rw [marks, elements, leaf, List.nil_append, marks]

/-! ## What is lowered has no marks of its own -/

section

variable (children : List Node)

theorem marks_linkNode (target : Markdown.Target) :
    marks [linkNode target children] = marks children := by
  have unset : Attributes.empty.get? "data-footnote-ref" = none := rfl
  refine marks_element_of_none (if_neg fun marked => absurd marked.2 ?_)
  cases target.title <;> simp [Attributes.ofList, Attributes.get?_insert, unset]

theorem marks_unresolvedLink (kind : Markdown.ReferenceKind) (label : Markdown.Label) :
    marks [unresolvedLink kind label children] = marks children := by
  rw [unresolvedLink, marks_element (by decide), marks_append, marks_append]
  exact List.append_nil _

theorem marks_imageNode (d : Definitions) (kind : Markdown.ReferenceKind) (label : Markdown.Label)
    (alt : String) : marks [imageNode d kind label alt] = [] := by
  unfold imageNode
  cases d.target? label <;> rfl

theorem marks_itemNode (checked : Option Bool) :
    marks [itemNode checked children] = marks children := by
  cases checked with
  | none => exact marks_element (by decide) ..
  | some checked =>
      have box : marks [checkbox checked] = [] := by cases checked <;> rfl
      calc
        marks [itemNode (some checked) children]
            = marks ([checkbox checked] ++ .text " " :: children) := marks_element (by decide) ..
        _ = marks children := by rw [marks_append, box, marks_cons_leaf rfl, List.nil_append]

theorem marks_htmlNodes (value : String) : marks (htmlNodes value) = [] := by
  rw [marks, elements_htmlNodes]
  rfl

theorem marks_tableNode (rows : List Node) : marks [tableNode rows] = marks rows := by
  match rows with
  | [] => rfl
  | [head] =>
      exact (marks_element (by decide) ..).trans (marks_element (by decide) ..)
  | head :: next :: body =>
      have head_row : marks [.plain "thead" [head]] = marks [head] := marks_element (by decide) ..
      have body_rows : marks [.plain "tbody" (next :: body)] = marks (next :: body) :=
        marks_element (by decide) ..
      calc
        marks [tableNode (head :: next :: body)]
            = marks ([Node.plain "thead" [head]] ++ [Node.plain "tbody" (next :: body)]) :=
              marks_element (by decide : "table" ≠ "a") ..
        _ = marks ([head] ++ next :: body) := by
              rw [marks_append, marks_append, head_row, body_rows]

theorem marks_footnoteMark (identifier : String) (number : Nat) :
    marks [footnoteMark identifier number] = [⟨"#fn-" ++ identifier, toString number⟩] :=
  congrArg (fun shown => [Mark.mk ("#fn-" ++ identifier) shown]) (String.append_empty)

end

/-! ## Numbers -/

/-- What lowering does to the numbers of footnotes: from `before` on, it numbers those that it meets
first behind all others, and each mark shows the number of its footnote. Only footnotes with
`referred` are met. -/
structure Numbers (referred : String → Prop) (before : List String)
    (lowered : List Node × List String) : Prop where
  /-- Numbers that are given stay. -/
  grows : before <+: lowered.2
  /-- No footnote has two numbers. -/
  distinct : before.Nodup → lowered.2.Nodup
  /-- A mark shows the number of its footnote. -/
  shows : ∀ mark ∈ marks lowered.1, ∃ i identifier, lowered.2[i]? = some identifier ∧
    referred identifier ∧ mark = ⟨"#fn-" ++ identifier, toString (i + 1)⟩
  /-- A number is given to a footnote with a mark. -/
  marked : ∀ identifier ∈ lowered.2, identifier ∈ before ∨
    referred identifier ∧ ∃ mark ∈ marks lowered.1, mark.address = "#fn-" ++ identifier

namespace Numbers

variable {referred : String → Prop} {before : List String} {lowered : List Node × List String}

/-- Nodes without a mark. -/
theorem none (before : List String) {nodes : List Node} (unmarked : marks nodes = []) :
    Numbers referred before (nodes, before) where
  grows := List.prefix_rfl
  distinct := id
  shows := by simp [unmarked]
  marked _ member := .inl member

/-- A node whose marks are those of its children. -/
theorem into (inside : Numbers referred before lowered) {n : Node}
    (same : marks [n] = marks lowered.1) : Numbers referred before ([n], lowered.2) where
  grows := inside.grows
  distinct := inside.distinct
  shows := same ▸ inside.shows
  marked := same ▸ inside.marked

/-- Nodes in front of others. -/
theorem append {others : List Node × List String} (first : Numbers referred before lowered)
    (behind : Numbers referred lowered.2 others) :
    Numbers referred before (lowered.1 ++ others.1, others.2) where
  grows := first.grows.trans behind.grows
  distinct := behind.distinct ∘ first.distinct
  shows mark member := by
    rw [marks_append] at member
    rcases List.mem_append.mp member with early | late
    · -- what is numbered keeps its place, as numbers are only given behind it
      obtain ⟨i, identifier, place, met, same⟩ := first.shows mark early
      obtain ⟨inside, rfl⟩ := List.getElem?_eq_some_iff.mp place
      exact ⟨i, _, List.prefix_iff_getElem?.mp behind.grows i inside, met, same⟩
    · exact behind.shows mark late
  marked identifier member := by
    have more : ∀ mark, mark ∈ marks lowered.1 ∨ mark ∈ marks others.1 →
        mark ∈ marks (lowered.1 ++ others.1) := by
      intro mark
      rw [marks_append]
      exact List.mem_append.mpr
    rcases behind.marked identifier member with early | ⟨met, mark, shown, leads⟩
    · rcases first.marked identifier early with earlier | ⟨met, mark, shown, leads⟩
      · exact .inl earlier
      · exact .inr ⟨met, mark, more mark (.inl shown), leads⟩
    · exact .inr ⟨met, mark, more mark (.inr shown), leads⟩

/-- The mark of a footnote. -/
theorem mark {identifier : String} (met : referred identifier) (before : List String) :
    Numbers referred before
      ([footnoteMark identifier (footnoteNumber before identifier).1],
        (footnoteNumber before identifier).2) := by
  have shown : ∀ i, ∀ mark ∈ marks [footnoteMark identifier (i + 1)],
      mark = ⟨"#fn-" ++ identifier, toString (i + 1)⟩ := by
    intro i mark member
    rw [marks_footnoteMark] at member
    exact List.mem_singleton.mp member
  rw [footnoteNumber]
  cases found : before.findIdx? (· = identifier) with
  | some i =>
      -- an earlier mark has numbered the footnote
      obtain ⟨inside, same, -⟩ := List.findIdx?_eq_some_iff_getElem.mp found
      have place : before[i]? = some identifier :=
        List.getElem?_eq_some_iff.mpr ⟨inside, of_decide_eq_true same⟩
      exact
        { grows := List.prefix_rfl
          distinct := id
          shows := fun mark member => ⟨i, identifier, place, met, shown i mark member⟩
          marked := fun _ member => .inl member }
  | none =>
      have new : ∀ other ∈ before, other ≠ identifier := by
        simpa using List.findIdx?_eq_none_iff.mp found
      have place : (before ++ [identifier])[before.length]? = some identifier := by simp
      exact
        { grows := List.prefix_append before [identifier]
          distinct := fun distinct => by simpa [List.nodup_append] using ⟨distinct, new⟩
          shows := fun mark member => ⟨_, identifier, place, met, shown _ mark member⟩
          marked := fun other member => by
            rcases List.mem_append.mp member with early | late
            · exact .inl early
            · rw [List.mem_singleton.mp late]
              exact .inr ⟨met, _, by rw [marks_footnoteMark]; exact List.mem_cons_self, rfl⟩ }

/-- Where no footnote is referred to, there is no mark. -/
theorem unmarked (numbers : Numbers (fun _ => False) before lowered) : marks lowered.1 = [] := by
  refine List.eq_nil_iff_forall_not_mem.mpr fun mark member => ?_
  obtain ⟨-, -, -, never, -⟩ := numbers.shows mark member
  exact never

end Numbers

/-! ## The walk over a page

The induction is on the Markdown tree and carries `Numbers` from the footnotes numbered in front of
a node to those numbered behind it. What a node refers to is split off the references of the forest
that it starts. -/

variable (d : Definitions) {referred : String → Prop}

mutual

/-- Lowering a node numbers the footnotes that it refers to. -/
theorem numbers_lowerNode (tight : Bool) :
    ∀ (n : Markdown.Node) (before : List String),
      (∀ identifier ∈ n.noteReference?.toList ++ noteReferences n.children, referred identifier) →
        Numbers referred before (lowerNode d tight n before)
  | .root children, before, met | .blockquote children, before, met
  | .paragraph children, before, met | .emphasis children, before, met
  | .strong children, before, met | .delete children, before, met =>
      (numbers_lowerAll tight children before met).into (marks_element (by decide) ..)
  | .heading depth children, before, met =>
      (numbers_lowerAll tight children before met).into
        (marks_element (heading_ne depth (by decide : 'a' ≠ 'h')) ..)
  | .list ordered _ spread items, before, met =>
      (numbers_lowerAll (isTight spread items) items before met).into
        (marks_element (by cases ordered <;> decide) ..)
  | .listItem _ checked children, before, met =>
      (numbers_lowerAll tight children before met).into (marks_itemNode _ checked)
  | .table align rows, before, met =>
      (numbers_lowerRows tight align "th" (by decide) rows before met).into (marks_tableNode _)
  | .link target children, before, met =>
      (numbers_lowerAll tight children before met).into (marks_linkNode _ target)
  | .linkReference kind label children, before, met => by
      have inside := numbers_lowerAll tight children before met
      rw [lowerNode]
      cases d.target? label with
      | some target => exact inside.into (marks_linkNode _ target)
      | none => exact inside.into (marks_unresolvedLink _ kind label)
  | .footnoteReference label, before, met => .mark (met _ List.mem_cons_self) before
  | .imageReference kind label alt, before, _ => .none before (marks_imageNode d kind label alt)
  | .html value, before, _ => .none before (marks_htmlNodes value)
  | .code _, before, _ | .thematicBreak, before, _ | .text _, before, _ | .lineBreak, before, _
  | .image _, before, _ | .inlineCode _, before, _ | .definition _ _, before, _
  | .footnoteDefinition _ _, before, _ | .tableRow _, before, _ | .tableCell _, before, _
  | .unused, before, _ => .none before rfl

theorem numbers_lowerAll (tight : Bool) :
    ∀ (nodes : List Markdown.Node) (before : List String),
      (∀ identifier ∈ noteReferences nodes, referred identifier) →
        Numbers referred before (lowerAll d tight nodes before)
  | [], before, _ => .none before rfl
  | n :: rest, before, met => by
      rw [Markdown.noteReferences_cons, ← List.append_assoc, List.forall_mem_append] at met
      exact (numbers_lowerNode tight n before met.1).append (numbers_lowerAll tight rest _ met.2)

theorem numbers_lowerRows (tight : Bool) (align : List (Option Align)) (tag : String)
    (other : tag ≠ "a") :
    ∀ (rows : List Markdown.Node) (before : List String),
      (∀ identifier ∈ noteReferences rows, referred identifier) →
        Numbers referred before (lowerRows d tight align tag rows before)
  | [], before, _ => .none before rfl
  | row :: rest, before, met => by
      rw [Markdown.noteReferences_cons, ← List.append_assoc, List.forall_mem_append] at met
      cases row with
      | tableRow cells =>
          have row := (numbers_lowerCells tight align tag other 0 cells before met.1).into
            (marks_element (by decide : "tr" ≠ "a") .empty _ false)
          exact row.append (numbers_lowerRows tight align "td" (by decide) rest _ met.2)
      | _ => exact numbers_lowerRows tight align tag other rest before met.2

theorem numbers_lowerCells (tight : Bool) (align : List (Option Align)) (tag : String)
    (other : tag ≠ "a") :
    ∀ (column : Nat) (cells : List Markdown.Node) (before : List String),
      (∀ identifier ∈ noteReferences cells, referred identifier) →
        Numbers referred before (lowerCells d tight align tag column cells before)
  | _, [], before, _ => .none before rfl
  | column, cell :: rest, before, met => by
      rw [Markdown.noteReferences_cons, ← List.append_assoc, List.forall_mem_append] at met
      cases cell with
      | tableCell children =>
          have cell := (numbers_lowerAll tight children before met.1).into
            (marks_element other (.ofList (cellAttributes align column)) _ false)
          exact cell.append (numbers_lowerCells tight align tag other (column + 1) rest _ met.2)
      | _ => exact numbers_lowerCells tight align tag other (column + 1) rest before met.2

end

/-! ## The section of footnotes -/

theorem noteAddresses_element {tag : String} (other : tag ≠ "section") (attrs : Attributes)
    (children : List Node) (transparent : Bool) :
    (Node.element tag attrs children transparent).noteAddresses = [] := by
  unfold Node.noteAddresses
  split
  · next same =>
      cases same
      exact if_neg fun named => other named.1
  · rfl

/-- No node of the text is a section of footnotes. -/
theorem noteAddresses_lowerNode (tight : Bool) (n : Markdown.Node) (before : List String) :
    ∀ m ∈ (lowerNode d tight n before).1, m.noteAddresses = [] := by
  cases n with
  | html value =>
      unfold lowerNode htmlNodes
      split <;> simp [Node.noteAddresses]
  | heading depth children =>
      exact List.forall_mem_singleton.mpr
        (noteAddresses_element (heading_ne depth (by decide : 's' ≠ 'h')) ..)
  | list ordered start spread items =>
      exact List.forall_mem_singleton.mpr
        (noteAddresses_element (by cases ordered <;> decide) ..)
  | listItem spread checked children =>
      refine List.forall_mem_singleton.mpr ?_
      cases checked <;> exact noteAddresses_element (by decide) ..
  | table align rows =>
      refine List.forall_mem_singleton.mpr ?_
      unfold tableNode
      split <;> exact noteAddresses_element (by decide) ..
  | linkReference kind label children =>
      rw [lowerNode]
      cases d.target? label <;>
        exact List.forall_mem_singleton.mpr (noteAddresses_element (by decide) ..)
  | imageReference kind label alt =>
      refine List.forall_mem_singleton.mpr ?_
      unfold imageNode
      split <;> rfl
  | code | text | image => exact List.forall_mem_singleton.mpr rfl
  | definition | footnoteDefinition | tableRow | tableCell | unused =>
      exact fun _ member => (List.not_mem_nil member).elim
  | _ => exact List.forall_mem_singleton.mpr (noteAddresses_element (by decide) ..)

theorem noteAddresses_lowerAll (tight : Bool) (nodes : List Markdown.Node) (before : List String) :
    noteAddresses (lowerAll d tight nodes before).1 = [] := by
  have all : ∀ m ∈ (lowerAll d tight nodes before).1, m.noteAddresses = [] := by
    induction nodes generalizing before with
    | nil => exact fun _ member => (List.not_mem_nil member).elim
    | cons n rest ih =>
        exact List.forall_mem_append.mpr ⟨noteAddresses_lowerNode d tight n before, ih _⟩
  rw [noteAddresses]
  cases last : (lowerAll d tight nodes before).1.getLast? with
  | none => rfl
  | some m => exact all m (List.mem_of_getLast? last)

/-- Footnotes that are defined have an item each. -/
theorem itemAddresses_footnoteItems {identifiers : List String}
    (defined : ∀ identifier ∈ identifiers, (d.footnote? identifier).isSome) (order : List String) :
    (footnoteItems d identifiers order).filterMap Node.itemAddress? =
      identifiers.map ("#fn-" ++ ·) := by
  induction identifiers generalizing order with
  | nil => rfl
  | cons identifier rest ih =>
      rw [List.forall_mem_cons] at defined
      obtain ⟨content, found⟩ := Option.isSome_iff_exists.mp defined.1
      have address : ∀ children, (footnoteItem identifier children).itemAddress? =
          some ("#fn-" ++ identifier) := fun _ => congrArg some (String.append_assoc ..).symm
      rw [footnoteItems, found, List.map_cons, ← ih defined.2]
      exact List.filterMap_cons_some (address _)

theorem marks_footnoteItem (identifier : String) (children : List Node) :
    marks [footnoteItem identifier children] = marks children := by
  rw [footnoteItem, Node.tagged, marks_element (by decide), marks_append]
  exact List.append_nil _

/-- The contents of footnotes without references have no marks. -/
theorem marks_footnoteItems (bare : ∀ note ∈ d.footnotes, noteReferences note.2 = [])
    (identifiers order : List String) : marks (footnoteItems d identifiers order) = [] := by
  induction identifiers generalizing order with
  | nil => rfl
  | cons identifier rest ih =>
      rw [footnoteItems]
      cases found : d.footnote? identifier with
      | none => exact ih order
      | some content =>
          obtain ⟨note, member, rfl⟩ := Option.map_eq_some_iff.mp found
          have met : ∀ other ∈ noteReferences note.2, False := by
            simp [bare note (List.mem_of_find?_eq_some member)]
          have unmarked := (numbers_lowerAll d false note.2 order met).unmarked
          calc
            marks ([footnoteItem identifier (lowerAll d false note.2 order).1] ++
                footnoteItems d rest (lowerAll d false note.2 order).2)
                = marks (lowerAll d false note.2 order).1 ++ [] := by
                  rw [marks_append, marks_footnoteItem, ih]
            _ = [] := by rw [unmarked, List.append_nil]

/-- The section lists the footnotes in their order, if all of them are defined. -/
theorem noteAddresses_append_footnoteSection {flow : List Node} {order : List String}
    (plain : noteAddresses flow = [])
    (defined : ∀ identifier ∈ order, (d.footnote? identifier).isSome) :
    noteAddresses (flow ++ footnoteSection d order) = order.map ("#fn-" ++ ·) := by
  have items := itemAddresses_footnoteItems d defined []
  rw [footnoteSection]
  cases empty : (footnoteItems d order []).isEmpty with
  | true =>
      rw [List.isEmpty_iff.mp empty] at items
      simpa [plain] using items
  | false =>
      rw [if_neg (by simp), noteAddresses, List.getLast?_concat]
      exact items

theorem marks_footnoteSection (bare : ∀ note ∈ d.footnotes, noteReferences note.2 = [])
    (order : List String) : marks (footnoteSection d order) = [] := by
  have items := marks_footnoteItems d bare order []
  rw [footnoteSection]
  split_ifs
  · rfl
  · exact (marks_element (by decide) ..).trans ((marks_element (by decide) ..).trans items)

/-! ## The page -/

theorem mem_noteReferences_rootNodes {page : Markdown.Node} {identifier : String}
    (member : identifier ∈ noteReferences (rootNodes page)) :
    identifier ∈ noteReferences [page] := by
  cases page with
  | root children =>
      rw [Markdown.noteReferences_cons]
      exact List.mem_append_right _ (List.mem_append_left _ member)
  | _ => exact member

/-- Numbered footnotes and their marks belong together, if each footnote has its item. -/
theorem Numbers.footnotesLand {referred : String → Prop} {flow : List Node × List String}
    (numbers : Numbers referred [] flow) {nodes : List Node}
    (addresses : noteAddresses nodes = flow.2.map ("#fn-" ++ ·))
    (shown : marks nodes = marks flow.1) : FootnotesLand nodes := by
  have distinct : (noteAddresses nodes).Nodup := by
    rw [addresses]
    exact List.Nodup.map (fun _ _ => (String.append_right_inj _).mp)
      (numbers.distinct List.nodup_nil)
  constructor
  · intro mark member
    rw [shown] at member
    obtain ⟨i, identifier, place, -, rfl⟩ := numbers.shows mark member
    have item : (noteAddresses nodes)[i]? = some ("#fn-" ++ identifier) := by
      rw [addresses, List.getElem?_map, place, Option.map_some]
    exact ⟨i, item, List.count_eq_one_of_mem distinct (List.mem_of_getElem? item), rfl⟩
  · intro address member
    rw [addresses] at member
    obtain ⟨identifier, listed, rfl⟩ := List.mem_map.mp member
    rw [shown]
    exact (numbers.marked identifier listed).resolve_left List.not_mem_nil |>.2

/-- Footnotes and their marks belong together in a page, if each footnote that the page refers to is
defined in it and the contents of its footnotes neither refer to footnotes nor define any. -/
theorem footnotesLand_lower (page : Markdown.Node)
    (defined : ∀ identifier ∈ noteReferences [page], identifier ∈ (notes [page]).map Prod.fst)
    (flat : ∀ note ∈ notes [page], noteReferences note.2 = [] ∧ notes note.2 = []) :
    FootnotesLand (lower page) := by
  let d := Definitions.ofPage page
  let flow := lowerAll d false (rootNodes page) []
  have no_section : noteAddresses flow.1 = [] := noteAddresses_lowerAll d false (rootNodes page) []
  have kept : d.footnotes = notes [page] := by
    rw [← Markdown.footnotesOf_eq_notes fun note member => (flat note member).2]
    exact (List.append_nil _).symm
  have numbers : Numbers (· ∈ noteReferences [page]) [] flow :=
    numbers_lowerAll d false (rootNodes page) [] fun _ => mem_noteReferences_rootNodes
  have known : ∀ identifier ∈ flow.2, (d.footnote? identifier).isSome := by
    intro identifier member
    have met := ((numbers.marked identifier member).resolve_left List.not_mem_nil).1
    obtain ⟨note, noted, same⟩ := List.mem_map.mp (defined identifier met)
    rw [Definitions.footnote?, Option.isSome_map, kept, List.find?_isSome]
    exact ⟨note, noted, decide_eq_true same⟩
  have addresses : noteAddresses (lower page) = flow.2.map ("#fn-" ++ ·) :=
    noteAddresses_append_footnoteSection d no_section known
  have bare : ∀ note ∈ d.footnotes, noteReferences note.2 = [] := by
    rw [kept]
    exact fun note member => (flat note member).1
  have shown : marks (lower page) = marks flow.1 :=
    (marks_append flow.1 _).trans (by rw [marks_footnoteSection d bare, List.append_nil])
  exact numbers.footnotesLand addresses shown

/-- Two footnotes, defined in the other order, one of them marked twice and in a quote. -/
def twoNotes : Markdown.Node :=
  .root
    [.paragraph [.footnoteReference ⟨"b", none⟩, .footnoteReference ⟨"a", none⟩],
      .blockquote [.paragraph [.footnoteReference ⟨"b", none⟩]],
      .footnoteDefinition ⟨"a", none⟩ [.paragraph [.text "first"]],
      .footnoteDefinition ⟨"b", none⟩ [.paragraph [.text "second"]]]

theorem footnotesLand_twoNotes :
    FootnotesLand (lower twoNotes) ∧
      marks (lower twoNotes) = [⟨"#fn-b", "1"⟩, ⟨"#fn-a", "2"⟩, ⟨"#fn-b", "1"⟩] := by
  have defined : ∀ identifier ∈ noteReferences [twoNotes],
      identifier ∈ (notes [twoNotes]).map Prod.fst := by decide
  have contents : notes [twoNotes] =
      [("a", [.paragraph [.text "first"]]), ("b", [.paragraph [.text "second"]])] := rfl
  have flat : ∀ note ∈ notes [twoNotes], noteReferences note.2 = [] ∧ notes note.2 = [] := by
    rw [contents]
    exact List.forall_mem_cons.mpr ⟨⟨rfl, rfl⟩, List.forall_mem_singleton.mpr ⟨rfl, rfl⟩⟩
  exact ⟨footnotesLand_lower twoNotes defined flat, by decide⟩

/-- A footnote whose content refers to another one. -/
def nestedNotes : Markdown.Node :=
  .root
    [.paragraph [.text "A", .footnoteReference ⟨"a", some "a"⟩],
      .footnoteDefinition ⟨"a", some "a"⟩
        [.paragraph [.text "see ", .footnoteReference ⟨"b", some "b"⟩]],
      .footnoteDefinition ⟨"b", some "b"⟩ [.paragraph [.text "end"]]]

/-- The mark in the content shows a number that another footnote has, and leads to no item. -/
theorem not_footnotesLand_nestedNotes :
    (∀ identifier ∈ noteReferences [nestedNotes],
        identifier ∈ (notes [nestedNotes]).map Prod.fst) ∧
      marks (lower nestedNotes) = [⟨"#fn-a", "1"⟩, ⟨"#fn-b", "1"⟩] ∧
      noteAddresses (lower nestedNotes) = ["#fn-a"] ∧ ¬FootnotesLand (lower nestedNotes) := by
  have shown : marks (lower nestedNotes) = [⟨"#fn-a", "1"⟩, ⟨"#fn-b", "1"⟩] := by decide
  have items : noteAddresses (lower nestedNotes) = ["#fn-a"] := by decide
  refine ⟨by decide, shown, items, fun land => ?_⟩
  obtain ⟨i, place, -⟩ := land.lands ⟨"#fn-b", "1"⟩ (by simp [shown])
  rw [items] at place
  exact absurd (List.mem_of_getElem? place) (by decide)

end SlideDeck.Slide
