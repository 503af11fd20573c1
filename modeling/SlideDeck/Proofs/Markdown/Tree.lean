import Mathlib.Tactic.Common
import SlideDeck.Markdown.Tree

/-!
# Nodes of a Markdown tree

All nodes of a tree in document order, the contents of footnotes included, and what is defined and
referred to among them. What a page keeps of its definitions is what stands outside the contents of
footnotes (`firstTarget_targetsOf`, `footnotesOf_eq_notes`).
-/

namespace SlideDeck.Markdown

/-- The nodes directly in a node. -/
def Node.children : Node → List Node
  | .root children | .paragraph children | .heading _ children | .blockquote children
  | .list _ _ _ children | .listItem _ _ children | .table _ children | .tableRow children
  | .tableCell children | .footnoteDefinition _ children | .emphasis children
  | .strong children | .delete children | .link _ children | .linkReference _ _ children => children
  | _ => []

theorem Node.sizeOf_children_lt (n : Node) (rest : List Node) :
    sizeOf n.children < sizeOf (n :: rest) := by
  cases n <;> simp [Node.children] <;> omega

/-- Induction on a forest: a node in front of others comes with its children. -/
@[elab_as_elim]
theorem forest_induction {motive : List Node → Prop} (nil : motive [])
    (cons : ∀ n rest, motive n.children → motive rest → motive (n :: rest)) :
    ∀ nodes, motive nodes
  | [] => nil
  | n :: rest =>
      cons n rest (forest_induction nil cons n.children) (forest_induction nil cons rest)
termination_by nodes => sizeOf nodes
decreasing_by
  · exact n.sizeOf_children_lt rest
  · exact Nat.lt_add_of_pos_left (Nat.add_pos_left Nat.one_pos _)

mutual

/-- The nodes in a node at any depth. -/
def Node.inner : Node → List Node
  | .root children | .paragraph children | .heading _ children | .blockquote children
  | .list _ _ _ children | .listItem _ _ children | .table _ children | .tableRow children
  | .tableCell children | .footnoteDefinition _ children | .emphasis children
  | .strong children | .delete children | .link _ children
  | .linkReference _ _ children => preorder children
  | _ => []

/-- All nodes of a forest in document order, a node before the nodes in it. -/
def preorder : List Node → List Node
  | [] => []
  | n :: rest => n :: (n.inner ++ preorder rest)

end

theorem preorder_cons (n : Node) (rest : List Node) :
    preorder (n :: rest) = n :: (preorder n.children ++ preorder rest) := by
  cases n <;> rfl

/-- What a node defines as the target of references. -/
def Node.definition? : Node → Option (String × Target)
  | .definition label target => some (label.identifier, target)
  | _ => none

/-- What a node defines as the content of footnotes. -/
def Node.note? : Node → Option (String × List Node)
  | .footnoteDefinition label children => some (label.identifier, children)
  | _ => none

/-- The identifier of the footnote that a node refers to. -/
def Node.noteReference? : Node → Option String
  | .footnoteReference label => some label.identifier
  | _ => none

/-- The definitions of targets in a forest, in document order. -/
def definitions (nodes : List Node) : List (String × Target) :=
  (preorder nodes).filterMap Node.definition?

/-- The definitions of footnotes in a forest, in document order. -/
def notes (nodes : List Node) : List (String × List Node) :=
  (preorder nodes).filterMap Node.note?

/-- The identifiers of the footnotes that a forest refers to, in document order. -/
def noteReferences (nodes : List Node) : List String :=
  (preorder nodes).filterMap Node.noteReference?

/-- The target of the first definition with the identifier of a label. -/
def firstTarget (entries : List (String × Target)) (label : Label) : Option Target :=
  (entries.find? fun e => e.1 = label.identifier).map Prod.snd

theorem filterMap_preorder_cons {α : Type} (f : Node → Option α) (n : Node) (rest : List Node) :
    (preorder (n :: rest)).filterMap f =
      (f n).toList ++ ((preorder n.children).filterMap f ++ (preorder rest).filterMap f) := by
  rw [preorder_cons]
  cases found : f n <;> simp [found]

theorem notes_cons (n : Node) (rest : List Node) :
    notes (n :: rest) = n.note?.toList ++ (notes n.children ++ notes rest) :=
  filterMap_preorder_cons _ n rest

theorem noteReferences_cons (n : Node) (rest : List Node) :
    noteReferences (n :: rest) =
      n.noteReference?.toList ++ (noteReferences n.children ++ noteReferences rest) :=
  filterMap_preorder_cons _ n rest

/-! ## What a page keeps -/

/-- A walk that leaves the contents of footnotes out meets all that there is to meet, if the
footnotes hold none of it. `walk` is what it meets in a forest and `meet` what it meets at a
node. -/
theorem eq_filterMap_preorder {α : Type} {meet : Node → Option α} (walk : List Node → List α)
    (nil : walk [] = [])
    (cons : ∀ n rest, walk (n :: rest) =
      (meet n).toList ++ ((if n.note?.isSome then [] else walk n.children) ++ walk rest))
    {nodes : List Node}
    (outside : ∀ note ∈ notes nodes, (preorder note.2).filterMap meet = []) :
    walk nodes = (preorder nodes).filterMap meet := by
  induction nodes using forest_induction with
  | nil => exact nil
  | cons n rest inner outer =>
      rw [notes_cons] at outside
      have behind := outer fun note member => outside note (by simp [member])
      rw [cons, filterMap_preorder_cons, behind]
      cases found : n.note? with
      | none =>
          have inside := inner fun note member => outside note (by simp [member])
          simp [inside]
      | some note =>
          have content : note.2 = n.children := by
            cases n <;> cases found
            rfl
          have hidden := outside note (by simp [found])
          rw [content] at hidden
          simp [hidden]

theorem targetsOf_cons (n : Node) (rest : List Node) :
    Node.targetsOf (n :: rest) =
      n.definition?.toList ++
        ((if n.note?.isSome then [] else Node.targetsOf n.children) ++ Node.targetsOf rest) := by
  cases n <;> simp [Node.targetsOf, Node.targets, Node.definition?, Node.note?, Node.children]

theorem firstTarget_eq_head? (entries : List (String × Target)) (label : Label) :
    firstTarget entries label =
      (entries.filter fun e => e.1 = label.identifier).head?.map Prod.snd := by
  rw [firstTarget, List.head?_filter]

/-- The target that a page keeps for a label is the first one that it defines, if no footnote holds
a definition of the label. -/
theorem firstTarget_targetsOf {nodes : List Node} {label : Label}
    (outside : ∀ note ∈ notes nodes, ∀ e ∈ definitions note.2, e.1 ≠ label.identifier) :
    firstTarget (Node.targetsOf nodes) label = firstTarget (definitions nodes) label := by
  let matching (e : String × Target) : Bool := e.1 = label.identifier
  let meet (n : Node) : Option (String × Target) := n.definition?.filter matching
  have all : ∀ nodes, (preorder nodes).filterMap meet = (definitions nodes).filter matching := by
    intro nodes
    rw [definitions, List.filter_filterMap]
  have kept : (Node.targetsOf nodes).filter matching = (preorder nodes).filterMap meet := by
    refine eq_filterMap_preorder (fun nodes => (Node.targetsOf nodes).filter matching) rfl
      (fun n rest => ?_) fun note member => ?_
    · rw [targetsOf_cons, List.filter_append, List.filter_append, ← Option.toList_filter,
        apply_ite (List.filter matching), List.filter_nil]
    · rw [all, List.filter_eq_nil_iff]
      simpa [matching] using outside note member
  rw [firstTarget_eq_head?, firstTarget_eq_head?]
  exact congrArg (fun entries => entries.head?.map Prod.snd) (kept.trans (all nodes))

/-- The footnotes that a page keeps are all that it defines, if no footnote holds another one. -/
theorem footnotesOf_eq_notes {nodes : List Node}
    (outside : ∀ note ∈ notes nodes, notes note.2 = []) :
    Node.footnotesOf nodes = notes nodes := by
  refine eq_filterMap_preorder _ rfl (fun n rest => ?_) outside
  cases n <;> simp [Node.footnotesOf, Node.footnotes, Node.note?, Node.children]

end SlideDeck.Markdown
