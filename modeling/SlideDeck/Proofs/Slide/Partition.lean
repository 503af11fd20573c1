import SlideDeck.Proofs.Directive.Spelling
import SlideDeck.Proofs.Slide.Comments

/-!
# The directives of a partition

A partition is styled by the directive comments written in it. Their annotations are applied one
after the other to a page of its own (`map_directives_ofNodes`); so a key written behind an
underscore wins over the same key written plainly, whichever comes later
(`directives_ofNodes_spelled`). With the directives every comment of a page is accounted for
(`layout_uses_comments`).
-/

namespace SlideDeck.Slide

open PageDirectives

/-- The annotation of a partition directive, as it is written behind the word `@split`. -/
def Marker.directiveText? (body : String) : Option String :=
  match Text.stripStart? "@split".toList (Text.trimStart body.toList) with
  | some [] => some ""
  | some (c :: rest) => if Text.isBlank c then some (String.ofList (c :: rest)) else none
  | none => none

/-- The annotation of a root node that is a partition directive. -/
def Node.directiveText? : Node → Option String
  | .comment body => if (Marker.parse? body).isSome then none else Marker.directiveText? body
  | _ => none

/-- The annotations of the partition directives among root nodes, as they are written. -/
def directiveTexts (nodes : List Node) : List String := nodes.filterMap Node.directiveText?

theorem Marker.directive?_eq (body : String) :
    Marker.directive? body = (Marker.directiveText? body).map Bag.parse := by
  unfold Marker.directive? Marker.directiveText?
  rcases Text.stripStart? "@split".toList (Text.trimStart body.toList) with _ | _ | ⟨c, rest⟩
  · rfl
  · rfl
  · dsimp only
    split_ifs <;> rfl

theorem Node.use?_partition (n : Node) :
    n.use?.bind CommentUse.partition? = n.directiveText?.map Bag.parse := by
  obtain ⟨body, marker, rfl, parsed, use⟩ | ⟨body, bag, rfl, parsed, read, use⟩ |
    ⟨body, rfl, parsed, read, use⟩ | ⟨other, use⟩ := n.use_cases
  · simp [use, CommentUse.partition?, Node.directiveText?, parsed]
  · simp [use, CommentUse.partition?, Node.directiveText?, parsed, ← Marker.directive?_eq, read]
  · simp [use, CommentUse.partition?, Node.directiveText?, parsed, ← Marker.directive?_eq, read]
  · rw [use]
    cases n with
    | comment body => cases other
    | _ => rfl

theorem partitionBags_eq (nodes : List Node) :
    partitionBags nodes = (directiveTexts nodes).map Bag.parse := by
  rw [partitionBags, directiveTexts, List.map_filterMap]
  exact List.filterMap_congr fun n _ => n.use?_partition

/-- Annotations are applied as they are written. -/
theorem foldl_apply_parse (texts : List String) :
    (texts.map Bag.parse).foldl PageDirectives.apply (start Dict.empty) =
      ofAnnotations Dict.empty texts := by
  rw [ofAnnotations, ofSteps, List.foldl_map, List.foldl_map]
  rfl

/-- The partition of a segment has the directives of the annotations written in it. -/
theorem directives_ofSegment (size : String) (segment : List Node) :
    (Partition.ofSegment size segment).directives =
      (ofAnnotations Dict.empty (directiveTexts segment)).resolved := by
  rw [Partition.ofSegment, partitionBags_eq, foldl_apply_parse]

/-- Each partition has the directives of the annotations written in its own segment. -/
theorem map_directives_ofNodes (nodes : List Node) :
    (SplitLayout.ofNodes nodes).partitions.map Partition.directives =
      (nodes.splitOnP Node.isMarker).map fun segment =>
        (ofAnnotations Dict.empty (directiveTexts segment)).resolved := by
  have same_length : ((markersOf nodes).map Marker.size ++ [defaultSize]).length =
      (nodes.splitOnP Node.isMarker).length := by
    simp [length_splitOnP, length_markersOf]
  rw [ofNodes_eq, closePieces, List.map_zipWith, List.zipWith_map_right]
  simp only [Partition.close, pieceOf, partitionBags_eq, foldl_apply_parse]
  exact zipWith_right same_length _

/-- Each comment of a page is used exactly once. The comments at its root are told apart by
`Node.use?`: those about the page are applied to its directives in document order, a split marker
closes a partition, and a partition directive is applied to its own partition. With `k` markers
there are `k + 1` partitions, one for each segment of the root nodes between markers, with the size
of the marker behind it, and `1fr` behind the last. A partition has the directives of the
annotations written in its segment, applied in document order. It holds the nodes of its segment
that are no comments, and none of them holds a comment at any depth. -/
theorem layout_uses_comments (nodes : List Node) (directives : PageDirectives) :
    let applied := applyComments nodes directives
    let layout := SplitLayout.ofNodes applied.1
    let segments := nodes.splitOnP Node.isMarker
    applied.2 = (pageBags nodes).foldl PageDirectives.apply directives ∧
    layout.partitions =
      List.zipWith Partition.ofSegment ((markersOf nodes).map Marker.size ++ ["1fr"]) segments ∧
    segments.length = (markersOf nodes).length + 1 ∧
    layout.partitions.length = (markersOf nodes).length + 1 ∧
    (layout.enabled = true ↔ 1 ≤ (markersOf nodes).length) ∧
    (layout.vertical = true ↔ ∃ marker ∈ markersOf nodes, marker.vertical = true) ∧
    layout.partitions.map Partition.size = (markersOf nodes).map Marker.size ++ ["1fr"] ∧
    layout.partitions.map Partition.directives = segments.map (fun segment =>
      (ofAnnotations Dict.empty (directiveTexts segment)).resolved) ∧
    layout.partitions.flatMap Partition.children = applied.1.filter (fun n => !n.isComment) ∧
    (∀ p ∈ layout.partitions, ∀ body, .comment body ∉ leaves p.children) ∧
    (markersOf nodes).length + (segments.flatMap partitionBags).length + (pageBags nodes).length =
      nodes.countP Node.isComment := by
  intro applied layout segments
  obtain ⟨nodes_eq, directives_eq⟩ :
      applied.1 = afterComments nodes ∧
        applied.2 = (pageBags nodes).foldl PageDirectives.apply directives :=
    Prod.ext_iff.mp (applyComments_eq nodes directives)
  have layout_eq := (congrArg SplitLayout.ofNodes nodes_eq).trans (ofNodes_afterComments nodes)
  have partitions_eq : layout.partitions = List.zipWith Partition.ofSegment
      ((markersOf nodes).map Marker.size ++ ["1fr"]) segments :=
    congrArg SplitLayout.partitions layout_eq
  have segments_length : segments.length = (markersOf nodes).length + 1 := by
    rw [length_splitOnP, length_markersOf]
  have same_length :
      ((markersOf nodes).map Marker.size ++ ["1fr"]).length = segments.length := by
    simp [segments_length]
  have sizes : layout.partitions.map Partition.size =
      (markersOf nodes).map Marker.size ++ ["1fr"] := by
    rw [partitions_eq, map_size_zipWith same_length]
  have children : layout.partitions.flatMap Partition.children = annotated nodes := by
    rw [List.flatMap_def, partitions_eq, map_children_zipWith same_length, flatten_segments]
  refine ⟨directives_eq, partitions_eq, segments_length, ?_, ?_, ?_, sizes, ?_, ?_, ?_, ?_⟩
  · simpa using congrArg List.length sizes
  · have enabled : layout.enabled = !(markersOf nodes).isEmpty :=
      congrArg SplitLayout.enabled layout_eq
    rw [enabled, Nat.one_le_iff_ne_zero]
    simp
  · have vertical : layout.vertical = (markersOf nodes).any Marker.vertical :=
      congrArg SplitLayout.vertical layout_eq
    rw [vertical, List.any_eq_true]
  · rw [partitions_eq, List.map_zipWith]
    simp only [directives_ofSegment]
    exact zipWith_right same_length _
  · rw [children, nodes_eq, filter_afterComments]
  · intro p member body leaf
    refine comment_not_mem_annotated nodes body ?_
    rw [← children, leaves_flatMap]
    exact List.mem_flatMap.mpr ⟨p, member, leaf⟩
  · rw [flatMap_partitionBags, length_uses]

example : (Node.comment "@split split:2fr").use? = some (.marker ⟨"2fr", false⟩) := by decide

/-- The directives of a partition at a key other than the class. Its directive comments assign the
key in the order in which they are written, plainly or behind an underscore. A key that is not for
one page only has the last value written behind an underscore, and the last one written plainly if
there is none; so the last assignment in either spelling counts unless it is plain and one behind
an underscore stands before it. For `note` and `splitSize` the last assignment in either spelling
counts if no comment mixes the spellings. -/
theorem directives_ofNodes_spelled (nodes : List Node) {i : Nat} {partition : Partition}
    (there : (SplitLayout.ofNodes nodes).partitions[i]? = some partition) {key : String}
    (key_ne : key ≠ "") (class_ne : key ≠ "class") (plain : key.toList.head? ≠ some '_') :
    ∃ segment made, (nodes.splitOnP Node.isMarker)[i]? = some segment ∧
      made = (directiveTexts segment).flatMap assignments ∧
      (key ∉ ["note", "splitSize"] →
        partition.directives.get? key =
            leftBy (leftBy none (valuesAt key made)) (valuesAt ("_" ++ key) made) ∧
        ((∀ last ∈ (spelled key made).getLast?,
            last.1 = key → valuesAt ("_" ++ key) made = []) →
          partition.directives.get? key = leftBy none ((spelled key made).map Prod.snd))) ∧
      (key ∈ ["note", "splitSize"] →
        (∀ text ∈ directiveTexts segment, OneSpelling key (assignments text)) →
        partition.directives.get? key = leftBy none ((spelled key made).map Prod.snd)) := by
  have directives_eq := congrArg (·[i]?) (map_directives_ofNodes nodes)
  simp only [List.getElem?_map, there, Option.map_some] at directives_eq
  obtain ⟨segment, part, directives_eq⟩ := Option.map_eq_some_iff.mp directives_eq.symm
  refine ⟨segment, _, part, rfl, fun free => ?_, fun only one => ?_⟩
  · have layered := get?_resolved_annotations Dict.empty (directiveTexts segment) key_ne class_ne
      plain free
    rw [directives_eq, Dict.get?_empty] at layered
    exact ⟨layered, fun agrees => layered.trans (leftBy_spelled none agrees)⟩
  · have ordered := get?_resolved_pageOnly Dict.empty (directiveTexts segment) key_ne class_ne
      plain only one
    rwa [directives_eq, Dict.get?_empty] at ordered

/-- A plain colour is followed by one behind an underscore, and a note by another one. -/
theorem directives_ofNodes_spelled_twoComments :
    let nodes : List Node :=
      [.comment "@split bgColor:red note:a", .comment " @split _bgColor:blue #left _note:b ",
        .comment "split:2fr"]
    ∃ partition, (SplitLayout.ofNodes nodes).partitions[0]? = some partition ∧
      ("bgColor" ≠ "" ∧ "bgColor" ≠ "class" ∧ "bgColor".toList.head? ≠ some '_') ∧
      partition.directives.get? "bgColor" = some (.text "blue") ∧
      partition.directives.get? "note" = some (.text "b") := by
  intro nodes
  obtain ⟨partition, there⟩ : ∃ p, (SplitLayout.ofNodes nodes).partitions[0]? = some p := by
    have count := congrArg List.length (map_directives_ofNodes nodes)
    rw [List.length_map, List.length_map, length_splitOnP] at count
    exact ⟨_, List.getElem?_eq_getElem (by omega)⟩
  have texts : (nodes.splitOnP Node.isMarker)[0]?.map directiveTexts =
      some [" bgColor:red note:a", " _bgColor:blue #left _note:b "] := by decide
  refine ⟨partition, there, by decide, ?_, ?_⟩
  · obtain ⟨segment, made, part, rfl, free, -⟩ :=
      directives_ofNodes_spelled nodes there (by decide : "bgColor" ≠ "") (by decide) (by decide)
    rw [part, Option.map_some, Option.some.injEq] at texts
    rw [(free (by decide)).1, texts]
    decide
  · obtain ⟨segment, made, part, rfl, -, only⟩ :=
      directives_ofNodes_spelled nodes there (by decide : "note" ≠ "") (by decide) (by decide)
    rw [part, Option.map_some, Option.some.injEq] at texts
    rw [only (by decide) (texts ▸ by decide), texts]
    decide

/-- A plain colour behind one with an underscore does not count. -/
theorem directives_ofNodes_underscoreFirst :
    let nodes : List Node :=
      [.comment "@split _bgColor:red", .comment "@split bgColor:blue", .comment "split"]
    (nodes.splitOnP Node.isMarker)[0]?.map directiveTexts = some [" _bgColor:red", " bgColor:blue"] ∧
      (SplitLayout.ofNodes nodes).partitions[0]?.map (fun p => p.directives.get? "bgColor") =
        some (some (.text "red")) := by
  decide

end SlideDeck.Slide
