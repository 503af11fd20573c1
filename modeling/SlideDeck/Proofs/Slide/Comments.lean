import Mathlib.Data.List.Basic
import SlideDeck.Proofs.Parts
import SlideDeck.Proofs.Slide.Passes

/-!
# The use of comments

A comment at the root of a page is a split marker, a directive of its partition, or says something
about the page (`CommentUse`). Two passes read the comments of a page, each with its own test:
applying them takes those about the page, and cutting the page takes the others. Between them each
root comment is used once (`length_uses`), and none is left (`comment_not_mem_annotated`).
-/

namespace SlideDeck.Slide

/-- What a comment at the root of a page is used for. -/
inductive CommentUse where
  /-- It closes a partition. -/
  | marker (marker : Marker)
  /-- It says something about the partition that it stands in. -/
  | partition (bag : Bag)
  /-- It says something about the page. -/
  | page (bag : Bag)
deriving DecidableEq

namespace CommentUse

def marker? : CommentUse → Option Marker
  | marker m => some m
  | _ => none

def partition? : CommentUse → Option Bag
  | partition bag => some bag
  | _ => none

def page? : CommentUse → Option Bag
  | page bag => some bag
  | _ => none

end CommentUse

/-- The use of a root node, if it is a comment. A split marker counts as one even if it reads as a
partition directive, too. -/
def Node.use? : Node → Option CommentUse
  | .comment body =>
    match Marker.parse? body, Marker.directive? body with
    | some marker, _ => some (.marker marker)
    | none, some bag => some (.partition bag)
    | none, none => some (.page (Bag.parse body))
  | _ => none

/-- True of a split marker. -/
def Node.isMarker (n : Node) : Bool := (n.use?.bind CommentUse.marker?).isSome

/-- True of a comment about the page. -/
def Node.isPageComment (n : Node) : Bool := (n.use?.bind CommentUse.page?).isSome

/-- True of a partition directive. -/
def Node.isDirective (n : Node) : Bool := (n.use?.bind CommentUse.partition?).isSome

/-- The split markers at the root of a page. -/
def markersOf (nodes : List Node) : List Marker :=
  nodes.filterMap fun n => n.use?.bind CommentUse.marker?

/-- The annotations of the partition directives among root nodes. -/
def partitionBags (nodes : List Node) : List Bag :=
  nodes.filterMap fun n => n.use?.bind CommentUse.partition?

/-- The annotations of the comments about the page among root nodes. -/
def pageBags (nodes : List Node) : List Bag :=
  nodes.filterMap fun n => n.use?.bind CommentUse.page?

/-- Root nodes without their comments, each annotated by the comments in it. -/
def annotated (nodes : List Node) : List Node :=
  (nodes.filter fun n => !n.isComment).map fun n => (annotate n).1

/-- Root nodes behind the pass over the comments: those about the page are gone. -/
def afterComments (nodes : List Node) : List Node :=
  (nodes.filter fun n => !n.isPageComment).map fun n => (annotate n).1

/-- The partition of a segment of root nodes: its nodes without the comments, and what the
annotations of its directives come to, applied in document order. -/
def Partition.ofSegment (size : String) (segment : List Node) : Partition where
  size := size
  children := annotated segment
  directives :=
    ((partitionBags segment).foldl PageDirectives.apply (PageDirectives.start Dict.empty)).resolved

/-! ## Uses -/

/-- The four kinds of root nodes, told apart as both passes do it. -/
theorem Node.use_cases (n : Node) :
    (∃ body marker, n = .comment body ∧ Marker.parse? body = some marker ∧
      n.use? = some (.marker marker)) ∨
    (∃ body bag, n = .comment body ∧ Marker.parse? body = none ∧
      Marker.directive? body = some bag ∧ n.use? = some (.partition bag)) ∨
    (∃ body, n = .comment body ∧ Marker.parse? body = none ∧ Marker.directive? body = none ∧
      n.use? = some (.page (Bag.parse body))) ∨
    (n.isComment = false ∧ n.use? = none) := by
  cases n with
  | comment body =>
      cases parsed : Marker.parse? body with
      | some marker => exact .inl ⟨body, marker, rfl, parsed, by simp [Node.use?, parsed]⟩
      | none =>
          refine .inr ?_
          cases read : Marker.directive? body with
          | some bag => exact .inl ⟨body, bag, rfl, parsed, read, by simp [Node.use?, parsed, read]⟩
          | none =>
              exact .inr (.inl ⟨body, rfl, parsed, read, by simp [Node.use?, parsed, read]⟩)
  | _ => exact .inr (.inr (.inr ⟨rfl, rfl⟩))

/-- A root node has a use exactly if it is a comment. -/
theorem isSome_use? (n : Node) : n.use?.isSome = n.isComment := by
  obtain ⟨body, marker, rfl, -, use⟩ | ⟨body, bag, rfl, -, -, use⟩ | ⟨body, rfl, -, -, use⟩ |
    ⟨other, use⟩ := n.use_cases
  · simp [use, Node.isComment]
  · simp [use, Node.isComment]
  · simp [use, Node.isComment]
  · simp [use, other]

/-- Annotating an element leaves an element, and all other nodes stay. -/
theorem use?_annotate (n : Node) : (annotate n).1.use? = n.use? := by
  cases n with
  | element tag attrs children transparent =>
      obtain ⟨merged, annotated⟩ := annotate_element tag attrs children transparent
      rw [annotated]
      rfl
  | _ => rfl

theorem isComment_annotate (n : Node) : (annotate n).1.isComment = n.isComment := by
  rw [← isSome_use?, use?_annotate, isSome_use?]

/-! ## Applying the comments of a page -/

theorem applyComments_cons (n : Node) (rest : List Node) (directives : PageDirectives) :
    applyComments (n :: rest) directives =
      match n.use? with
      | some (.page bag) => applyComments rest (directives.apply bag)
      | _ => ((annotate n).1 :: (applyComments rest directives).1,
          (applyComments rest directives).2) := by
  obtain ⟨body, marker, rfl, parsed, use⟩ | ⟨body, bag, rfl, parsed, read, use⟩ |
    ⟨body, rfl, parsed, read, use⟩ | ⟨other, use⟩ := n.use_cases
  · simp [use, applyComments, Marker.isLayout, parsed, annotate]
  · simp [use, applyComments, Marker.isLayout, parsed, read, annotate]
  · simp [use, applyComments, Marker.isLayout, parsed, read]
  · rw [use]
    cases n with
    | comment body => cases other
    | _ => rfl

/-- Applying the comments of a page takes those about the page in document order, and leaves the
other nodes, annotated. -/
theorem applyComments_eq (nodes : List Node) (directives : PageDirectives) :
    applyComments nodes directives =
      (afterComments nodes, (pageBags nodes).foldl PageDirectives.apply directives) := by
  induction nodes generalizing directives with
  | nil => rfl
  | cons n rest ih =>
      rw [applyComments_cons]
      cases use : n.use? with
      | none => simp [ih, use, afterComments, pageBags, Node.isPageComment]
      | some u =>
          cases u <;> simp [ih, use, afterComments, pageBags, Node.isPageComment, CommentUse.page?]

/-! ## Cutting at markers -/

/-- The nodes that a segment leaves to its partition, and the annotations of its directives. -/
def pieceOf (segment : List Node) : List Node × List Bag :=
  (segment.filter fun n => !n.isMarker && !n.isDirective, partitionBags segment)

/-- Nodes and annotations in front of those of a piece. -/
def extendPiece (current : List Node) (bags : List Bag) (piece : List Node × List Bag) :
    List Node × List Bag :=
  (current.reverse ++ piece.1, bags.reverse ++ piece.2)

/-- The partitions of pieces with the given sizes. -/
def closePieces (sizes : List String) (pieces : List (List Node × List Bag)) : List Partition :=
  List.zipWith (fun size piece => Partition.close size piece.1 piece.2) sizes pieces

theorem cut_cons (current : List Node) (bags : List Bag) (n : Node) (rest : List Node) :
    SplitLayout.cut current bags (n :: rest) =
      match n.use? with
      | some (.marker marker) =>
        { partitions := Partition.close marker.size current.reverse bags.reverse ::
            (SplitLayout.cut [] [] rest).partitions
          enabled := true
          vertical := marker.vertical || (SplitLayout.cut [] [] rest).vertical }
      | some (.partition bag) => SplitLayout.cut current (bag :: bags) rest
      | _ => SplitLayout.cut (n :: current) bags rest := by
  obtain ⟨body, marker, rfl, parsed, use⟩ | ⟨body, bag, rfl, parsed, read, use⟩ |
    ⟨body, rfl, parsed, read, use⟩ | ⟨other, use⟩ := n.use_cases
  · simp only [use, SplitLayout.cut, parsed]
  · simp only [use, SplitLayout.cut, parsed, read]
  · simp only [use, SplitLayout.cut, parsed, read]
  · rw [use]
    cases n with
    | comment body => cases other
    | _ => rfl

/-- Cutting nodes at their markers: what the open partition holds comes in front of the first
piece, and the piece behind the last marker has the default size. -/
theorem cut_eq (current : List Node) (bags : List Bag) (nodes : List Node) :
    SplitLayout.cut current bags nodes =
      { partitions :=
          closePieces ((markersOf nodes).map Marker.size ++ [defaultSize])
            (((nodes.splitOnP Node.isMarker).map pieceOf).modifyHead (extendPiece current bags))
        enabled := !(markersOf nodes).isEmpty
        vertical := (markersOf nodes).any Marker.vertical } := by
  -- a marker closes what is open; every other node goes into the first piece of the rest
  induction nodes generalizing current bags with
  | nil => simp [SplitLayout.cut, closePieces, extendPiece, pieceOf, markersOf, partitionBags]
  | cons n rest ih =>
      obtain ⟨first, others, parts⟩ := exists_splitOnP_eq Node.isMarker rest
      rw [cut_cons, splitOnP_cons_cases parts]
      cases use : n.use? with
      | none =>
          simp [ih, parts, use, Node.isMarker, Node.isDirective, markersOf, extendPiece, pieceOf,
            partitionBags]
      | some u =>
          cases u with
          | marker marker =>
              simp [ih, parts, use, Node.isMarker, markersOf, CommentUse.marker?, closePieces,
                extendPiece, pieceOf, partitionBags]
          | partition bag =>
              simp [ih, parts, use, Node.isMarker, Node.isDirective, markersOf, CommentUse.marker?,
                CommentUse.partition?, extendPiece, pieceOf, partitionBags]
          | page bag =>
              simp [ih, parts, use, Node.isMarker, Node.isDirective, markersOf, CommentUse.marker?,
                CommentUse.partition?, extendPiece, pieceOf, partitionBags]

theorem ofNodes_eq (nodes : List Node) :
    SplitLayout.ofNodes nodes =
      { partitions :=
          closePieces ((markersOf nodes).map Marker.size ++ [defaultSize])
            ((nodes.splitOnP Node.isMarker).map pieceOf)
        enabled := !(markersOf nodes).isEmpty
        vertical := (markersOf nodes).any Marker.vertical } := by
  have unextended : extendPiece [] [] = id := rfl
  rw [SplitLayout.ofNodes, cut_eq, unextended, List.modifyHead_id, id]

/-! ## Both passes together -/

theorem isMarker_annotate (n : Node) : (annotate n).1.isMarker = n.isMarker := by
  rw [Node.isMarker, use?_annotate, Node.isMarker]

theorem isDirective_annotate (n : Node) : (annotate n).1.isDirective = n.isDirective := by
  rw [Node.isDirective, use?_annotate, Node.isDirective]

/-- A root node that is no comment of either kind is no comment. -/
theorem isComment_eq (n : Node) :
    n.isComment = (n.isMarker || n.isDirective || n.isPageComment) := by
  rw [← isSome_use?, Node.isMarker, Node.isDirective, Node.isPageComment]
  cases n.use? with
  | none => rfl
  | some use => cases use <;> rfl

theorem not_isPageComment_of_isMarker (n : Node) (marker : n.isMarker = true) :
    (!n.isPageComment) = true := by
  unfold Node.isMarker at marker
  unfold Node.isPageComment
  cases use : n.use? with
  | none => rfl
  | some u =>
      cases u with
      | page bag => simp [use, CommentUse.marker?] at marker
      | _ => rfl

/-- What is read off the comments of the layout is read off them behind the first pass as well. -/
theorem filterMap_afterComments {α : Type} {read : CommentUse → Option α}
    (blind : ∀ bag, read (.page bag) = none) (nodes : List Node) :
    (afterComments nodes).filterMap (fun n => n.use?.bind read) =
      nodes.filterMap fun n => n.use?.bind read := by
  rw [afterComments, List.filterMap_map, List.filterMap_filter]
  refine List.filterMap_congr fun n _ => ?_
  simp only [Function.comp_apply, use?_annotate, Node.isPageComment]
  cases use : n.use? with
  | none => rfl
  | some u =>
      cases u with
      | page bag => simp [CommentUse.page?, blind]
      | _ => rfl

/-- The parts of the page behind the first pass are those of the page in front of it. -/
theorem splitOnP_afterComments (nodes : List Node) :
    (afterComments nodes).splitOnP Node.isMarker =
      (nodes.splitOnP Node.isMarker).map afterComments := by
  rw [afterComments, splitOnP_map isMarker_annotate, splitOnP_filter not_isPageComment_of_isMarker,
    List.map_map]
  rfl

/-- What is left for a partition is a segment without its comments. -/
theorem pieceOf_afterComments (segment : List Node) :
    pieceOf (afterComments segment) = (annotated segment, partitionBags segment) := by
  have bags : partitionBags (afterComments segment) = partitionBags segment :=
    filterMap_afterComments (fun _ => rfl) segment
  have kept : ∀ n : Node, (!n.isPageComment && (!n.isMarker && !n.isDirective)) = !n.isComment := by
    intro n
    rw [isComment_eq]
    cases n.isMarker <;> cases n.isDirective <;> cases n.isPageComment <;> rfl
  rw [pieceOf, bags, annotated, afterComments, List.filter_map, List.filter_filter]
  simp only [Function.comp_def, isMarker_annotate, isDirective_annotate]
  congr 3
  exact funext fun n => by rw [Bool.and_comm, kept]

/-- The layout of a page behind the first pass, read off the page in front of it. -/
theorem ofNodes_afterComments (nodes : List Node) :
    SplitLayout.ofNodes (afterComments nodes) =
      { partitions :=
          List.zipWith Partition.ofSegment ((markersOf nodes).map Marker.size ++ [defaultSize])
            (nodes.splitOnP Node.isMarker)
        enabled := !(markersOf nodes).isEmpty
        vertical := (markersOf nodes).any Marker.vertical } := by
  have markers : markersOf (afterComments nodes) = markersOf nodes :=
    filterMap_afterComments (fun _ => rfl) nodes
  have pieces : pieceOf ∘ afterComments =
      fun segment => (annotated segment, partitionBags segment) := funext pieceOf_afterComments
  rw [ofNodes_eq, markers, splitOnP_afterComments, List.map_map, pieces, closePieces,
    List.zipWith_map_right]
  rfl

theorem length_markersOf (nodes : List Node) :
    (markersOf nodes).length = nodes.countP Node.isMarker := by
  rw [markersOf, List.length_filterMap_eq_countP]
  rfl

/-! ## No comment is left -/

theorem mem_leaves_iff {leaf : Node} {nodes : List Node} :
    leaf ∈ leaves nodes ↔ ∃ n ∈ nodes, leaf ∈ leavesIn n := by
  induction nodes with
  | nil => simp [leaves]
  | cons n rest ih => simp [leaves, ih]

/-- Trimming changes a text at most. -/
theorem mem_of_mem_trimLastText {n : Node} {nodes : List Node} (member : n ∈ trimLastText nodes) :
    n ∈ nodes ∨ ∃ s, n = .text s := by
  obtain same | ⟨front, s, rfl, trimmed⟩ := trimLastText_cases nodes
  · rw [same] at member
    exact .inl member
  · rw [trimmed] at member
    split_ifs at member
    · exact .inl (List.mem_append_left _ member)
    · rcases List.mem_append.mp member with inside | last
      · exact .inl (List.mem_append_left _ inside)
      · exact .inr ⟨_, List.mem_singleton.mp last⟩

theorem mem_of_mem_takeTrailing {n : Node} {nodes : List Node}
    (member : n ∈ (takeTrailing nodes).2) : n ∈ nodes ∨ ∃ s, n = .text s := by
  obtain same | ⟨front, body, behind, rfl, -, taken⟩ := takeTrailing_cases nodes
  · rw [same] at member
    exact .inl member
  · rw [taken] at member
    exact (mem_of_mem_trimLastText member).imp_left (List.mem_append_left _)

/-- Annotating leaves no comment below a node that is none. -/
theorem comment_not_mem_annotateAll (nodes : List Node) (body : String) :
    ∀ n ∈ (annotateAll nodes).1, n.isComment = false → .comment body ∉ leavesIn n := by
  induction nodes using Node.forest_induction with
  | nil => simp [annotateAll]
  | element tag attrs children transparent rest inner outer =>
      obtain ⟨merged, annotated⟩ := annotate_element tag attrs children transparent
      have step : (annotateAll (.element tag attrs children transparent :: rest)).1 =
          (annotate (.element tag attrs children transparent)).1 :: (annotateAll rest).1 := rfl
      rw [step, annotated, List.forall_mem_cons]
      refine ⟨fun _ inside => ?_, outer⟩
      obtain ⟨child, member, leaf⟩ := mem_leaves_iff.mp inside
      obtain ⟨kept, no_comment⟩ := List.mem_filter.mp member
      have no_comment : child.isComment = false := by simpa using no_comment
      rcases mem_of_mem_takeTrailing kept with below | ⟨s, rfl⟩
      · exact inner child below no_comment leaf
      · simp [leavesIn] at leaf
  | comment other rest ih =>
      have step : (annotateAll (.comment other :: rest)).1 =
          .comment other :: (annotateAll rest).1 := rfl
      rw [step, List.forall_mem_cons]
      refine ⟨fun no_comment => ?_, ih⟩
      cases no_comment
  | _ n rest ih =>
      refine List.forall_mem_cons.mpr ⟨fun _ inside => ?_, ih⟩
      simp [leavesIn] at inside

theorem comment_not_mem_annotated (nodes : List Node) (body : String) :
    .comment body ∉ leaves (annotated nodes) := by
  intro inside
  obtain ⟨n, member, leaf⟩ := mem_leaves_iff.mp inside
  obtain ⟨m, kept, rfl⟩ := List.mem_map.mp member
  have no_comment : (annotate m).1.isComment = false := by
    rw [isComment_annotate]
    simpa using (List.mem_filter.mp kept).2
  exact comment_not_mem_annotateAll [m] body _ List.mem_cons_self no_comment leaf

theorem flatten_map_annotated (parts : List (List Node)) :
    (parts.map annotated).flatten = annotated parts.flatten := by
  simp only [annotated, List.filter_flatten, List.map_flatten, List.map_map]
  rfl

/-- The segments of a page hold its root nodes that are no comments, in their order. -/
theorem flatten_segments (nodes : List Node) :
    ((nodes.splitOnP Node.isMarker).map annotated).flatten = annotated nodes := by
  rw [flatten_map_annotated, flatten_splitOnP, annotated, annotated, List.filter_filter]
  have kept : ∀ n : Node, (!n.isComment && !n.isMarker) = !n.isComment := by
    intro n
    rw [isComment_eq]
    cases n.isMarker <;> simp
  simp only [kept]

/-- What the first pass leaves is the page without comments, and the comments of the layout. -/
theorem filter_afterComments (nodes : List Node) :
    (afterComments nodes).filter (fun n => !n.isComment) = annotated nodes := by
  have kept : ∀ n : Node, (!n.isComment && !n.isPageComment) = !n.isComment := by
    intro n
    rw [isComment_eq]
    cases n.isPageComment <;> simp
  rw [afterComments, List.filter_map, List.filter_filter, annotated]
  simp only [Function.comp_apply, isComment_annotate, kept]

/-- Each comment at the root has one of the three uses. -/
theorem length_uses (nodes : List Node) :
    (markersOf nodes).length + (partitionBags nodes).length + (pageBags nodes).length =
      nodes.countP Node.isComment := by
  induction nodes with
  | nil => rfl
  | cons n rest ih =>
      have comment := isSome_use? n
      cases use : n.use? with
      | none =>
          rw [use] at comment
          simpa [markersOf, partitionBags, pageBags, use, ← comment] using ih
      | some u =>
          rw [use] at comment
          cases u <;>
            simp [markersOf, partitionBags, pageBags, use, ← comment, CommentUse.marker?,
              CommentUse.partition?, CommentUse.page?] at ih ⊢ <;> omega

/-- The partition directives of the segments are those of the page, in order. -/
theorem flatMap_partitionBags (nodes : List Node) :
    (nodes.splitOnP Node.isMarker).flatMap partitionBags = partitionBags nodes := by
  have no_directive : ∀ n : Node,
      (if !n.isMarker then n.use?.bind CommentUse.partition? else none) =
        n.use?.bind CommentUse.partition? := by
    intro n
    rw [Node.isMarker]
    cases use : n.use? with
    | none => rfl
    | some u => cases u <;> simp [CommentUse.marker?, CommentUse.partition?]
  calc
    (nodes.splitOnP Node.isMarker).flatMap partitionBags
        = partitionBags (nodes.splitOnP Node.isMarker).flatten := by
          rw [partitionBags, List.filterMap_flatten, List.flatMap_def]
          rfl
    _ = partitionBags nodes := by
          rw [flatten_splitOnP, partitionBags, List.filterMap_filter, partitionBags]
          exact List.filterMap_congr fun n _ => no_directive n

/-! ## The layout -/

section

variable {α β γ : Type}

theorem zipWith_left {l : List α} {r : List β} (same : l.length = r.length) (f : α → γ) :
    List.zipWith (fun a _ => f a) l r = l.map f := by
  calc
    List.zipWith (fun a _ => f a) l r = (l.zip r).map fun e => f e.1 :=
      (List.map_uncurry_zip_eq_zipWith ..).symm
    _ = ((l.zip r).map Prod.fst).map f := by rw [List.map_map]; rfl
    _ = l.map f := by rw [List.map_fst_zip (Nat.le_of_eq same)]

theorem zipWith_right {l : List α} {r : List β} (same : l.length = r.length) (f : β → γ) :
    List.zipWith (fun _ b => f b) l r = r.map f := by
  calc
    List.zipWith (fun _ b => f b) l r = (l.zip r).map fun e => f e.2 :=
      (List.map_uncurry_zip_eq_zipWith ..).symm
    _ = ((l.zip r).map Prod.snd).map f := by rw [List.map_map]; rfl
    _ = r.map f := by rw [List.map_snd_zip (Nat.le_of_eq same.symm)]

end

section

variable {sizes : List String} {segments : List (List Node)}

theorem map_size_zipWith (same : sizes.length = segments.length) :
    (List.zipWith Partition.ofSegment sizes segments).map Partition.size = sizes := by
  rw [List.map_zipWith]
  exact (zipWith_left same id).trans (List.map_id sizes)

theorem map_children_zipWith (same : sizes.length = segments.length) :
    (List.zipWith Partition.ofSegment sizes segments).map Partition.children =
      segments.map annotated := by
  rw [List.map_zipWith]
  exact zipWith_right same annotated

end

end SlideDeck.Slide
