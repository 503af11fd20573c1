import SlideDeck.Proofs.Markdown.Tree
import SlideDeck.Slide.Lower

/-!
# References and the definitions they resolve to

A page is lowered as if each reference that a definition resolves were written as the link or the
image it stands for (`lower_resolve`). The definitions that count are those outside the contents of
footnotes, the first one of an identifier; a definition in a footnote resolves nothing
(`lower_notedLink`).
-/

namespace SlideDeck

namespace Markdown

mutual

/-- A node with each reference of a known label replaced by the link or image it stands for. -/
def Node.resolve (known : Label → Option Target) : Node → Node
  | .linkReference kind label children =>
    match known label with
    | some target => .link target (resolveAll known children)
    | none => .linkReference kind label (resolveAll known children)
  | .imageReference kind label alt =>
    match known label with
    | some target => .image { url := target.url, alt, title := target.title }
    | none => .imageReference kind label alt
  | .root children => .root (resolveAll known children)
  | .paragraph children => .paragraph (resolveAll known children)
  | .heading depth children => .heading depth (resolveAll known children)
  | .blockquote children => .blockquote (resolveAll known children)
  | .list ordered start spread items => .list ordered start spread (resolveAll known items)
  | .listItem spread checked children => .listItem spread checked (resolveAll known children)
  | .table align rows => .table align (resolveAll known rows)
  | .tableRow cells => .tableRow (resolveAll known cells)
  | .tableCell children => .tableCell (resolveAll known children)
  | .footnoteDefinition label children => .footnoteDefinition label (resolveAll known children)
  | .emphasis children => .emphasis (resolveAll known children)
  | .strong children => .strong (resolveAll known children)
  | .delete children => .delete (resolveAll known children)
  | .link target children => .link target (resolveAll known children)
  | n => n

/-- Several nodes with their references of known labels replaced. -/
def resolveAll (known : Label → Option Target) : List Node → List Node
  | [] => []
  | n :: rest => n.resolve known :: resolveAll known rest

end

variable (known : Label → Option Target)

/-- Replacing references moves no definition of a target. -/
theorem targetsOf_resolveAll (nodes : List Node) :
    Node.targetsOf (resolveAll known nodes) = Node.targetsOf nodes := by
  induction nodes using forest_induction with
  | nil => rfl
  | cons n rest inner outer =>
      have here : (n.resolve known).targets = n.targets := by
        cases n with
        | linkReference kind label children =>
            rw [Node.resolve]
            cases known label <;> exact inner
        | imageReference kind label alt =>
            rw [Node.resolve]
            cases known label <;> rfl
        | definition label target => rfl
        | footnoteDefinition label children => rfl
        | code | html | thematicBreak | text | inlineCode | lineBreak | image | footnoteReference
        | unused => rfl
        | _ => exact inner
      rw [resolveAll, Node.targetsOf, here, outer, Node.targetsOf]

/-- Replacing references moves no definition of a footnote and replaces those in its content. -/
theorem footnotesOf_resolveAll (nodes : List Node) :
    Node.footnotesOf (resolveAll known nodes) =
      (Node.footnotesOf nodes).map fun note => (note.1, resolveAll known note.2) := by
  induction nodes using forest_induction with
  | nil => rfl
  | cons n rest inner outer =>
      have here : (n.resolve known).footnotes =
          n.footnotes.map fun note => (note.1, resolveAll known note.2) := by
        cases n with
        | linkReference kind label children =>
            rw [Node.resolve]
            cases known label <;> exact inner
        | imageReference kind label alt =>
            rw [Node.resolve]
            cases known label <;> rfl
        | footnoteDefinition label children => rfl
        | code | html | thematicBreak | text | inlineCode | lineBreak | image | footnoteReference
        | definition | unused => rfl
        | _ => exact inner
      rw [resolveAll, Node.footnotesOf, here, outer, Node.footnotesOf, List.map_append]

theorem isSpreadItem_resolve (n : Node) :
    Slide.isSpreadItem (n.resolve known) = Slide.isSpreadItem n := by
  cases n with
  | linkReference kind label children =>
      rw [Node.resolve]
      cases known label <;> rfl
  | imageReference kind label alt =>
      rw [Node.resolve]
      cases known label <;> rfl
  | _ => rfl

theorem isTight_resolveAll (spread : Bool) (items : List Node) :
    Slide.isTight spread (resolveAll known items) = Slide.isTight spread items := by
  have any : (resolveAll known items).any Slide.isSpreadItem = items.any Slide.isSpreadItem := by
    induction items with
    | nil => rfl
    | cons n rest ih => rw [resolveAll, List.any_cons, isSpreadItem_resolve, ih, List.any_cons]
  rw [Slide.isTight, any, Slide.isTight]

end Markdown

namespace Slide

open Markdown (Label Target Align definitions firstTarget notes resolveAll)

variable {d resolved : Definitions}

mutual

/-- A node is lowered as if its references were written as what they stand for. -/
theorem lowerNode_resolve (same : resolved.target? = d.target?) (tight : Bool) :
    ∀ (n : Markdown.Node) (order : List String),
      lowerNode resolved tight (n.resolve d.target?) order = lowerNode d tight n order
  | .linkReference kind label children, order => by
      have inside := lowerAll_resolve same tight children order
      cases found : d.target? label <;>
        simp only [Markdown.Node.resolve, lowerNode, found, same, inside]
  | .imageReference kind label alt, order => by
      cases found : d.target? label <;>
        simp only [Markdown.Node.resolve, lowerNode, imageNode, found, same]
  | .list ordered start spread items, order => by
      simp only [Markdown.Node.resolve, lowerNode, Markdown.isTight_resolveAll,
        lowerAll_resolve same _ items order]
  | .table align rows, order => by
      simp only [Markdown.Node.resolve, lowerNode,
        lowerRows_resolve same tight align "th" rows order]
  | .root children, order | .paragraph children, order | .heading _ children, order
  | .blockquote children, order | .listItem _ _ children, order | .emphasis children, order
  | .strong children, order | .delete children, order | .link _ children, order => by
      simp only [Markdown.Node.resolve, lowerNode, lowerAll_resolve same tight children order]
  | .tableRow _, _ | .tableCell _, _ | .footnoteDefinition _ _, _ | .code _, _ | .html _, _
  | .thematicBreak, _ | .definition _ _, _ | .text _, _ | .inlineCode _, _ | .lineBreak, _
  | .image _, _ | .footnoteReference _, _ | .unused, _ => rfl

theorem lowerAll_resolve (same : resolved.target? = d.target?) (tight : Bool) :
    ∀ (nodes : List Markdown.Node) (order : List String),
      lowerAll resolved tight (resolveAll d.target? nodes) order = lowerAll d tight nodes order
  | [], _ => rfl
  | n :: rest, order => by
      simp only [resolveAll, lowerAll, lowerNode_resolve same tight n order,
        lowerAll_resolve same tight rest]

theorem lowerRows_resolve (same : resolved.target? = d.target?) (tight : Bool)
    (align : List (Option Align)) (tag : String) :
    ∀ (rows : List Markdown.Node) (order : List String),
      lowerRows resolved tight align tag (resolveAll d.target? rows) order =
        lowerRows d tight align tag rows order
  | [], _ => rfl
  | row :: rest, order => by
      have behind := lowerRows_resolve same tight align tag rest order
      cases row with
      | tableRow cells =>
          simp only [resolveAll, Markdown.Node.resolve, lowerRows,
            lowerCells_resolve same tight align tag 0 cells order,
            lowerRows_resolve same tight align "td" rest]
      | linkReference kind label children =>
          cases found : d.target? label <;>
            simpa only [resolveAll, Markdown.Node.resolve, lowerRows, found] using behind
      | imageReference kind label alt =>
          cases found : d.target? label <;>
            simpa only [resolveAll, Markdown.Node.resolve, lowerRows, found] using behind
      | _ => exact behind

theorem lowerCells_resolve (same : resolved.target? = d.target?) (tight : Bool)
    (align : List (Option Align)) (tag : String) :
    ∀ (column : Nat) (cells : List Markdown.Node) (order : List String),
      lowerCells resolved tight align tag column (resolveAll d.target? cells) order =
        lowerCells d tight align tag column cells order
  | _, [], _ => rfl
  | column, cell :: rest, order => by
      have behind := lowerCells_resolve same tight align tag (column + 1) rest
      cases cell with
      | tableCell children =>
          simp only [resolveAll, Markdown.Node.resolve, lowerCells,
            lowerAll_resolve same tight children order, behind]
      | linkReference kind label children =>
          cases found : d.target? label <;>
            simpa only [resolveAll, Markdown.Node.resolve, lowerCells, found] using behind order
      | imageReference kind label alt =>
          cases found : d.target? label <;>
            simpa only [resolveAll, Markdown.Node.resolve, lowerCells, found] using behind order
      | _ => exact behind order

end

/-! ## The page -/

/-- The items of footnotes are lowered as if the references in them were replaced. -/
theorem footnoteItems_resolve (same : resolved.target? = d.target?)
    (notes : resolved.footnotes =
      d.footnotes.map fun note => (note.1, resolveAll d.target? note.2))
    (identifiers order : List String) :
    footnoteItems resolved identifiers order = footnoteItems d identifiers order := by
  have found : ∀ identifier,
      resolved.footnote? identifier = (d.footnote? identifier).map (resolveAll d.target?) := by
    intro identifier
    rw [Definitions.footnote?, Definitions.footnote?, notes, List.find?_map, Option.map_map,
      Option.map_map]
    rfl
  induction identifiers generalizing order with
  | nil => rfl
  | cons identifier rest ih =>
      rw [footnoteItems, footnoteItems, found]
      cases d.footnote? identifier with
      | none => exact ih order
      | some content =>
          simp only [Option.map_some, lowerAll_resolve same false content order, ih]

theorem rootNodes_resolve (known : Label → Option Target) (page : Markdown.Node) :
    rootNodes (page.resolve known) = resolveAll known (rootNodes page) := by
  cases page with
  | linkReference kind label children =>
      simp only [rootNodes, resolveAll, Markdown.Node.resolve]
      cases known label <;> rfl
  | imageReference kind label alt =>
      simp only [rootNodes, resolveAll, Markdown.Node.resolve]
      cases known label <;> rfl
  | _ => rfl

/-- References are lowered as the links and images they stand for, in the text and in footnotes: a
page is lowered as if each reference whose label the page keeps a target for were written as the
link or image to that target. The target kept for a label is the one of the first definition in
document order, wherever that stands, unless the content of a footnote holds a definition of the
label. -/
theorem lower_resolve (page : Markdown.Node) :
    lower (page.resolve (firstTarget page.targets)) = lower page ∧
      ∀ label, (∀ note ∈ notes [page], ∀ e ∈ definitions note.2, e.1 ≠ label.identifier) →
        firstTarget page.targets label = firstTarget (definitions [page]) label := by
  have single : Markdown.Node.targetsOf [page] = page.targets := List.append_nil _
  constructor
  · have targets : (page.resolve (firstTarget page.targets)).targets = page.targets := by
      have all := Markdown.targetsOf_resolveAll (firstTarget page.targets) [page]
      simpa [resolveAll, Markdown.Node.targetsOf] using all
    have notes : (page.resolve (firstTarget page.targets)).footnotes =
        page.footnotes.map fun note => (note.1, resolveAll (firstTarget page.targets) note.2) := by
      have all := Markdown.footnotesOf_resolveAll (firstTarget page.targets) [page]
      simpa [resolveAll, Markdown.Node.footnotesOf] using all
    let d := Definitions.ofPage page
    let resolved := Definitions.ofPage (page.resolve (firstTarget page.targets))
    have same : resolved.target? = d.target? := by
      funext label
      exact congrArg (firstTarget · label) targets
    have flow := lowerAll_resolve same false (rootNodes page) []
    have items := footnoteItems_resolve same notes (lowerAll d false (rootNodes page) []).2 []
    rw [← rootNodes_resolve] at flow
    calc
      lower (page.resolve d.target?)
          = (lowerAll d false (rootNodes page) []).1 ++
              footnoteSection resolved (lowerAll d false (rootNodes page) []).2 := by
            rw [← flow]
            rfl
      _ = lower page := by
            rw [footnoteSection, items]
            rfl
  · intro label outside
    rw [← single]
    exact Markdown.firstTarget_targetsOf outside

/-- A link in a quote, and its definitions in another quote and behind it. -/
def quotedLink : Markdown.Node :=
  .root
    [.blockquote [.paragraph [.linkReference .shortcut ⟨"a", some "A"⟩ [.text "A"]]],
      .blockquote [.definition ⟨"a", some "a"⟩ ⟨"/x", none⟩],
      .definition ⟨"a", some "a"⟩ ⟨"/y", none⟩]

/-- The first of two definitions counts, also in a quote behind the link. -/
theorem lower_resolve_quotedLink :
    (∀ note ∈ notes [quotedLink], ∀ e ∈ definitions note.2, e.1 ≠ "a") ∧
      firstTarget quotedLink.targets ⟨"a", some "A"⟩ = some ⟨"/x", none⟩ ∧
      lower quotedLink =
        [.plain "blockquote" [.plain "p" [linkNode ⟨"/x", none⟩ [.text "A"]]],
          .plain "blockquote" []] := by
  have outside : ∀ note ∈ notes [quotedLink], ∀ e ∈ definitions note.2, e.1 ≠ "a" := by decide
  obtain ⟨resolved, first⟩ := lower_resolve quotedLink
  exact ⟨outside, (first _ outside).trans (by decide), resolved.symm.trans rfl⟩

/-- A link, and its definition in the content of a footnote. -/
def notedLink : Markdown.Node :=
  .root
    [.paragraph [.linkReference .shortcut ⟨"a", some "a"⟩ [.text "a"]],
      .footnoteDefinition ⟨"n", some "n"⟩
        [.paragraph [.text "note"], .definition ⟨"a", some "a"⟩ ⟨"/x", none⟩]]

/-- A definition in the content of a footnote resolves nothing: the link is lowered as it is
written. -/
theorem lower_notedLink :
    firstTarget (definitions [notedLink]) ⟨"a", some "a"⟩ = some ⟨"/x", none⟩ ∧
      lower notedLink =
        [.plain "p" [unresolvedLink .shortcut ⟨"a", some "a"⟩ [.text "a"]]] ∧
      lower (notedLink.resolve (firstTarget (definitions [notedLink]))) ≠ lower notedLink := by
  have literal : lower notedLink =
      [.plain "p" [unresolvedLink .shortcut ⟨"a", some "a"⟩ [.text "a"]]] := by rfl
  refine ⟨by decide, literal, fun same => ?_⟩
  have tags := congrArg Node.tagsOf same
  revert tags
  decide

end Slide

end SlideDeck
