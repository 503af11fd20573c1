import SlideDeck.Proofs.Slide.Element
import SlideDeck.Slide.Lower

/-!
# The elements of a page

Lowering makes sound elements from every Markdown tree, also from one that no page is read as: its
transparent elements are the paragraphs of tight lists and the references without a definition, and
both are made without attributes.
-/

namespace SlideDeck.Slide

open Markdown (Target Label ReferenceKind Align)

/-- A name with another first letter is not the tag of a heading. -/
theorem heading_ne (depth : Nat) {c : Char} {rest : List Char} (other : c ≠ 'h') :
    "h" ++ toString depth ≠ String.ofList (c :: rest) := by
  intro same
  have chars := congrArg (fun s => s.toList.head?) same
  simp only [String.toList_append, String.toList_ofList, List.head?_cons] at chars
  exact other (Option.some.inj chars).symm

theorem isContainerTag_heading (depth : Nat) : isContainerTag ("h" ++ toString depth) = true := by
  have digits : ∀ c ∈ (toString depth).toList, c.isDigit = true := by
    intro c member
    rw [Nat.toString_eq_repr, Nat.toList_repr] at member
    exact Nat.isDigit_of_mem_toDigits (by decide) (by decide) member
  have name : Markup.isTagName ("h" ++ toString depth) = true := by
    refine Markup.isTagName_iff.mpr ⟨by simp, fun c member => ?_⟩
    rw [String.toList_append] at member
    obtain head | tail := List.mem_append.mp member
    · rw [List.mem_singleton.mp head]
      decide
    · simp [Char.isAlphanum, digits c tail]
  have not_void : voidTags.contains ("h" ++ toString depth) = false := by
    refine Bool.eq_false_iff.mpr fun void => ?_
    -- a rule is the only element without content whose name starts like a heading
    have rule : "h" ++ toString depth = "h" ++ "r" := by
      simpa [voidTags, String.ext_iff] using void
    have letter : 'r' ∈ (toString depth).toList := by
      rw [String.append_right_inj _ |>.mp rule]
      decide
    exact absurd (digits 'r' letter) (by decide)
  rw [isContainerTag, name, not_void]
  rfl

/-- A piece of HTML has no elements. -/
theorem elements_htmlNodes (value : String) : elements (htmlNodes value) = [] := by
  have comments : ∀ bodies : List (List Char),
      elements (bodies.map fun b => .comment (String.ofList b)) = [] := by
    intro bodies
    induction bodies with
    | nil => rfl
    | cons body bodies ih => exact ih
  unfold htmlNodes
  split
  · exact comments _
  · rfl

theorem sound_htmlNodes (value : String) : Sound (htmlNodes value) := by
  rw [Sound, elements_htmlNodes]
  exact sound_nil

section

variable {children : List Node}

theorem Sound.linkNode (inside : Sound children) (target : Target) :
    Sound [linkNode target children] := by
  refine inside.tagged (by decide) ?_
  cases target.title <;> simp [ShownEntries]

theorem Sound.unresolvedLink (inside : Sound children) (kind : ReferenceKind) (label : Label) :
    Sound [unresolvedLink kind label children] := by
  have closed : Sound [.text ("]" ++ referenceSuffix kind label)] := sound_nil.cons rfl
  have brackets : Sound ([.text "["] ++ children ++ [.text ("]" ++ referenceSuffix kind label)]) :=
    (sound_append.mpr ⟨inside, closed⟩).cons rfl
  exact sound_element.mpr ⟨.veil (by decide) _, brackets, sound_nil⟩

theorem sound_imageNode (d : Definitions) (kind : ReferenceKind) (label : Label) (alt : String) :
    Sound [imageNode d kind label alt] := by
  unfold imageNode
  split <;> exact sound_nil.cons rfl

theorem sound_footnoteMark (identifier : String) (number : Nat) :
    Sound [footnoteMark identifier number] := by
  have number_text : Sound [.text (toString number)] := sound_nil.cons rfl
  exact (number_text.tagged (by decide) (by simp [ShownEntries])).plain (by decide)

theorem sound_checkbox (checked : Bool) : Sound [checkbox checked] := by
  have shown : ShownEntries ([("type", Value.text "checkbox"), ("disabled", .flag true)] ++
      if checked then [("checked", .flag true)] else []) := by
    cases checked <;> simp [ShownEntries]
  exact sound_element.mpr
    ⟨.childless (by decide) (Attributes.shown_ofList shown), sound_nil, sound_nil⟩

theorem Sound.itemNode (inside : Sound children) (checked : Option Bool) :
    Sound [itemNode checked children] := by
  cases checked with
  | none => exact inside.plain (by decide)
  | some checked =>
      have with_box := (sound_checkbox checked).before (inside.cons (n := .text " ") rfl)
      exact with_box.classed (by decide) "task-list-item"

theorem Sound.list (inside : Sound children) (ordered : Bool) (start : Option Nat) :
    Sound [.tagged (if ordered then "ol" else "ul") (listAttributes ordered start) children] := by
  have shown : ShownEntries (listAttributes ordered start) := by
    unfold listAttributes
    split
    · split_ifs <;> simp [ShownEntries]
    · simp [ShownEntries]
  cases ordered <;> exact inside.tagged (by decide) shown

theorem shown_cellAttributes (align : List (Option Align)) (column : Nat) :
    ShownEntries (cellAttributes align column) := by
  unfold cellAttributes
  split <;> simp [ShownEntries]

theorem sound_tableNode {rows : List Node} (inside : Sound rows) : Sound [tableNode rows] := by
  match rows with
  | [] => exact sound_nil.plain (by decide)
  | [head] => exact (inside.plain (by decide)).plain (by decide)
  | head :: next :: body =>
      obtain ⟨first, others⟩ := sound_cons.mp inside
      have head_row : Sound [head] := sound_cons.mpr ⟨first, sound_nil⟩
      exact ((head_row.plain (by decide)).before (others.plain (by decide))).plain (by decide)

end

/-! ## The walk over a Markdown tree -/

mutual

theorem sound_lowerNode (d : Definitions) (tight : Bool) :
    ∀ (n : Markdown.Node) (order : List String), Sound (lowerNode d tight n order).1
  | .root children, order => (sound_lowerAll d tight children order).plain (by decide)
  | .paragraph children, order => by
      have inside := sound_lowerAll d tight children order
      cases tight with
      | true => exact sound_element.mpr ⟨.veil (by decide) _, inside, sound_nil⟩
      | false => exact inside.plain (by decide)
  | .heading depth children, order =>
      (sound_lowerAll d tight children order).plain (isContainerTag_heading depth)
  | .blockquote children, order => (sound_lowerAll d tight children order).plain (by decide)
  | .list ordered start spread items, order =>
      (sound_lowerAll d (isTight spread items) items order).list ordered start
  | .listItem _ checked children, order => (sound_lowerAll d tight children order).itemNode checked
  | .code _, _ => sound_nil.cons rfl
  | .html value, _ => sound_htmlNodes value
  | .thematicBreak, _ =>
      sound_element.mpr ⟨.childless (by decide) Attributes.shown_empty, sound_nil, sound_nil⟩
  | .table align rows, order =>
      sound_tableNode (sound_lowerRows d tight align "th" rows order (by decide))
  | .definition _ _, _ | .footnoteDefinition _ _, _ => sound_nil
  | .text _, _ => sound_nil.cons rfl
  | .emphasis children, order => (sound_lowerAll d tight children order).plain (by decide)
  | .strong children, order => (sound_lowerAll d tight children order).plain (by decide)
  | .delete children, order => (sound_lowerAll d tight children order).plain (by decide)
  | .inlineCode value, _ => (sound_nil.cons rfl).plain (by decide)
  | .lineBreak, _ =>
      sound_element.mpr ⟨.childless (by decide) Attributes.shown_empty, sound_nil, sound_nil⟩
  | .link target children, order => (sound_lowerAll d tight children order).linkNode target
  | .linkReference kind label children, order => by
      have inside := sound_lowerAll d tight children order
      cases found : d.target? label with
      | some target =>
          simp only [lowerNode, found]
          exact inside.linkNode target
      | none =>
          simp only [lowerNode, found]
          exact inside.unresolvedLink kind label
  | .image _, _ => sound_nil.cons rfl
  | .imageReference kind label alt, _ => sound_imageNode d kind label alt
  | .footnoteReference label, _ => sound_footnoteMark _ _
  | .tableRow _, _ | .tableCell _, _ | .unused, _ => sound_nil

theorem sound_lowerAll (d : Definitions) (tight : Bool) :
    ∀ (nodes : List Markdown.Node) (order : List String), Sound (lowerAll d tight nodes order).1
  | [], _ => sound_nil
  | n :: rest, order =>
      sound_append.mpr ⟨sound_lowerNode d tight n order, sound_lowerAll d tight rest _⟩

theorem sound_lowerRows (d : Definitions) (tight : Bool) (align : List (Option Align))
    (tag : String) :
    ∀ (rows : List Markdown.Node) (order : List String), isContainerTag tag = true →
      Sound (lowerRows d tight align tag rows order).1
  | [], _, _ => sound_nil
  | row :: rest, order, named => by
      cases row with
      | tableRow cells =>
          have row := (sound_lowerCells d tight align tag 0 cells order named).plain
            (by decide : isContainerTag "tr" = true)
          exact row.before (sound_lowerRows d tight align "td" rest _ (by decide))
      | _ => exact sound_lowerRows d tight align tag rest order named

theorem sound_lowerCells (d : Definitions) (tight : Bool) (align : List (Option Align))
    (tag : String) :
    ∀ (column : Nat) (cells : List Markdown.Node) (order : List String),
      isContainerTag tag = true → Sound (lowerCells d tight align tag column cells order).1
  | _, [], _, _ => sound_nil
  | column, cell :: rest, order, named => by
      cases cell with
      | tableCell children =>
          have cell := (sound_lowerAll d tight children order).tagged named
            (shown_cellAttributes align column)
          exact cell.before (sound_lowerCells d tight align tag (column + 1) rest _ named)
      | _ => exact sound_lowerCells d tight align tag (column + 1) rest order named

end

/-! ## Footnotes -/

theorem Sound.footnoteItem {children : List Node} (inside : Sound children) (identifier : String) :
    Sound [footnoteItem identifier children] := by
  have arrow : Sound [.text "↩"] := sound_nil.cons rfl
  have back : ShownEntries [("href", .text ("#fnref-" ++ identifier)),
      ("class", .text "footnote-backref")] := by
    simp [ShownEntries]
  have link := arrow.tagged (by decide : isContainerTag "a" = true) back
  exact (sound_append.mpr ⟨inside, link⟩).tagged (by decide) (by simp [ShownEntries])

theorem sound_footnoteItems (d : Definitions) (identifiers order : List String) :
    Sound (footnoteItems d identifiers order) := by
  induction identifiers generalizing order with
  | nil => exact sound_nil
  | cons identifier rest ih =>
      rw [footnoteItems]
      split
      · exact ((sound_lowerAll d false _ order).footnoteItem identifier).before (ih _)
      · exact ih order

theorem sound_footnoteSection (d : Definitions) (order : List String) :
    Sound (footnoteSection d order) := by
  simp only [footnoteSection]
  split_ifs
  · exact sound_nil
  · exact ((sound_footnoteItems d order []).plain (by decide)).classed (by decide) "footnotes"

theorem sound_lower (page : Markdown.Node) : Sound (lower page) :=
  sound_append.mpr ⟨sound_lowerAll _ false _ [], sound_footnoteSection _ _⟩

end SlideDeck.Slide
