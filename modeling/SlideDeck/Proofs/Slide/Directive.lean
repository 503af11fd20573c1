import Mathlib.Data.List.DropRight
import SlideDeck.Proofs.Attribute.Written
import SlideDeck.Proofs.Slide.Partition
import SlideDeck.Proofs.Text.Word

/-!
# Partition directives

A comment is a partition directive if `@split` is its first word. That word writes no token, so the
comment is a split marker exactly if the text behind the word is one; otherwise it styles the
partition that it stands in and opens no other one (`ofNodes_directive`). The text behind the word
may be a marker by itself, and then the comment is both (`marker_and_directive`).
-/

namespace SlideDeck.Slide

open PageDirectives

/-! ## The word -/

namespace Marker

theorem directiveText?_eq_some {body rest : String} :
    directiveText? body = some rest ↔
      Text.trimStart body.toList = "@split".toList ++ rest.toList ∧
        ∀ c ∈ rest.toList.head?, Text.isBlank c = true := by
  unfold directiveText?
  rw [← Text.stripStart?_eq_some]
  have made : ∀ tail : List Char, some tail = some rest.toList ↔ String.ofList tail = rest := by
    intro tail
    rw [Option.some.injEq, ← String.toList_inj, String.toList_ofList]
  match Text.stripStart? "@split".toList (Text.trimStart body.toList) with
  | none => simp
  | some [] =>
      rw [made, Option.some.injEq]
      constructor
      · rintro rfl
        exact ⟨rfl, nofun⟩
      · exact And.left
  | some (c :: tail) =>
      rw [made]
      dsimp only
      split_ifs with blank
      · rw [Option.some.injEq]
        constructor
        · rintro rfl
          refine ⟨rfl, fun first head => ?_⟩
          rw [String.toList_ofList] at head
          rwa [← Option.some.inj head]
        · exact And.left
      · constructor
        · exact nofun
        · rintro ⟨rfl, parted⟩
          rw [String.toList_ofList] at parted
          exact absurd (parted c rfl) blank

theorem plain_directiveWord : Token.Plain "@split".toList := by decide

/-- A comment is a directive if its first word says so. -/
theorem isSome_directive? (body : String) :
    (directive? body).isSome = true ↔
      (Text.words body.toList).head? = some "@split".toList := by
  rw [directive?_eq, Option.isSome_map, Option.isSome_iff_exists,
    Text.head?_words_eq_some (by decide) fun c inside => (plain_directiveWord c inside).1]
  simp only [directiveText?_eq_some]
  constructor
  · rintro ⟨rest, written⟩
    exact ⟨rest.toList, written⟩
  · rintro ⟨rest, written⟩
    exact ⟨String.ofList rest, by simpa only [String.toList_ofList] using written⟩

/-- The word writes no token, so the annotation behind it is read as if it stood alone. -/
theorem tokenize_of_directiveText? {body rest : String}
    (written : directiveText? body = some rest) : tokenize body = tokenize rest := by
  obtain ⟨trimmed, parted⟩ := directiveText?_eq_some.mp written
  have blank : ∀ c ∈ body.toList.takeWhile Text.isBlank, Text.isBlank c = true :=
    fun _ => List.mem_takeWhile_imp
  have pieces_eq : Token.pieces body.toList = "@split".toList :: Token.pieces rest.toList := by
    rw [← Token.pieces_append (by decide) plain_directiveWord.solid parted, ← trimmed,
      ← Token.pieces_blank_append blank (Text.trimStart _), Text.trimStart,
      List.takeWhile_append_dropWhile]
  have shut : Token.openKey? "@split".toList = none := by decide
  rw [tokenize, pieces_eq, Token.ofPieces_cons shut, tokenize]
  rfl

theorem parse?_of_directiveText? {body rest : String}
    (written : directiveText? body = some rest) : parse? body = parse? rest := by
  rw [parse?, tokenize_of_directiveText? written, parse?]

end Marker

/-! ## The layout -/

theorem closePieces_append {sizes more : List String} {pieces others : List (List Node × List Bag)}
    (same : sizes.length = pieces.length) :
    closePieces (sizes ++ more) (pieces ++ others) =
      closePieces sizes pieces ++ closePieces more others :=
  List.zipWith_append same

theorem partitionBags_append (left right : List Node) :
    partitionBags (left ++ right) = partitionBags left ++ partitionBags right :=
  List.filterMap_append

theorem markersOf_append (left right : List Node) :
    markersOf (left ++ right) = markersOf left ++ markersOf right :=
  List.filterMap_append

/-- The partitions above the last marker of a front do not depend on what stands behind it. -/
theorem exists_partitions_append (front : List Node) :
    ∃ before, before.length = (markersOf front).length ∧
      ∀ {back first : List Node} {others : List (List Node)} {size : String} {sizes : List String},
        back.splitOnP Node.isMarker = first :: others →
        (markersOf back).map Marker.size ++ [defaultSize] = size :: sizes →
          (SplitLayout.ofNodes (front ++ back)).partitions =
            before ++ closePieces (size :: sizes)
              (pieceOf ((front.rtakeWhile fun n => !n.isMarker) ++ first) ::
                others.map pieceOf) := by
  obtain ⟨init, separators, glue⟩ := exists_splitOnP_append Node.isMarker front
  have same : ((markersOf front).map Marker.size).length = (init.map pieceOf).length := by
    simp [separators, length_markersOf]
  refine ⟨closePieces ((markersOf front).map Marker.size) (init.map pieceOf),
    by simp [closePieces, separators, length_markersOf], fun parts sizes_eq => ?_⟩
  rw [ofNodes_eq, markersOf_append, List.map_append, List.append_assoc, sizes_eq, glue parts,
    List.map_append, List.map_cons, closePieces_append same]

/-- A directive is added to those of the partition that it stands in, and nothing else changes. -/
theorem ofNodes_append_directive {n : Node} {bag : Bag} (use : n.use? = some (.partition bag))
    (front back : List Node) :
    ∃ before partition behind,
      before.length = (markersOf front).length ∧
      (SplitLayout.ofNodes (front ++ back)).partitions = before ++ partition :: behind ∧
      SplitLayout.ofNodes (front ++ n :: back) =
        { SplitLayout.ofNodes (front ++ back) with
          partitions := before ++ Partition.close partition.size partition.children
            (partitionBags (front.rtakeWhile fun n => !n.isMarker) ++
              bag :: partitionBags (back.takeWhile fun n => !n.isMarker)) :: behind } := by
  have no_marker : n.isMarker = false := by simp [Node.isMarker, use, CommentUse.marker?]
  have directive : n.isDirective = true := by simp [Node.isDirective, use, CommentUse.partition?]
  have markers : markersOf (n :: back) = markersOf back := by
    simp [markersOf, use, CommentUse.marker?]
  have bags : ∀ nodes, partitionBags (n :: nodes) = bag :: partitionBags nodes := fun nodes => by
    simp [partitionBags, use, CommentUse.partition?]
  obtain ⟨before, above, partitions⟩ := exists_partitions_append front
  obtain ⟨others, parts⟩ := splitOnP_eq_takeWhile Node.isMarker back
  have parts_n := splitOnP_cons_cases parts n
  rw [if_neg (by simp [no_marker])] at parts_n
  obtain ⟨size, sizes, sizes_eq⟩ : ∃ size sizes,
      (markersOf back).map Marker.size ++ [defaultSize] = size :: sizes :=
    List.exists_cons_of_ne_nil (by simp)
  refine ⟨before, _, _, above, partitions parts sizes_eq, ?_⟩
  have same_markers : markersOf (front ++ n :: back) = markersOf (front ++ back) := by
    rw [markersOf_append, markers, markersOf_append]
  have with_n := partitions parts_n (by rwa [markers])
  let here := front.rtakeWhile fun n => !n.isMarker
  let there := back.takeWhile fun n => !n.isMarker
  have piece : pieceOf (here ++ n :: there) =
      ((pieceOf (here ++ there)).1, partitionBags here ++ bag :: partitionBags there) := by
    simp [pieceOf, partitionBags_append, bags, directive]
  rw [piece] at with_n
  calc
    SplitLayout.ofNodes (front ++ n :: back)
        = { SplitLayout.ofNodes (front ++ n :: back) with
            partitions := before ++ closePieces (size :: sizes)
              (((pieceOf (here ++ there)).1, partitionBags here ++ bag :: partitionBags there) ::
                others.map pieceOf) } := by rw [← with_n]
    _ = _ := by
      rw [ofNodes_eq, same_markers, ofNodes_eq]
      rfl

theorem use?_of_directiveText? {body rest : String}
    (written : Marker.directiveText? body = some rest) (unmarked : Marker.parse? body = none) :
    (Node.comment body).use? = some (.partition (Bag.parse rest)) := by
  simp [Node.use?, unmarked, Marker.directive?_eq, written]

/-- What a comment with the first word `@split` does. Such comments, and no others, are partition
directives. The word does not keep them from being split markers: a directive is one exactly if the
text behind the word is one. Any other directive, wherever it stands at the root of a page, is
applied to its own partition, between the directives in front of it and those behind it, and changes
nothing else of the layout. -/
theorem ofNodes_directive (body : String) :
    ((Marker.directive? body).isSome = true ↔
      (Text.words body.toList).head? = some "@split".toList) ∧
    ((Text.words body.toList).head? = some "@split".toList →
      ∃ rest : String, Text.trimStart body.toList = "@split".toList ++ rest.toList ∧
        Marker.directive? body = some (Bag.parse rest) ∧
        Marker.parse? body = Marker.parse? rest ∧
        (Marker.parse? rest = none → ∀ front back : List Node, ∃ before partition behind,
          before.length = (markersOf front).length ∧
          (SplitLayout.ofNodes (front ++ back)).partitions = before ++ partition :: behind ∧
          SplitLayout.ofNodes (front ++ .comment body :: back) =
            { SplitLayout.ofNodes (front ++ back) with
              partitions := before ++
                { partition with
                  directives := (ofAnnotations Dict.empty
                    (directiveTexts (front.rtakeWhile fun n => !n.isMarker) ++
                      rest :: directiveTexts (back.takeWhile fun n => !n.isMarker))).resolved } ::
                behind })) := by
  refine ⟨Marker.isSome_directive? body, fun first => ?_⟩
  obtain ⟨rest, written⟩ : ∃ rest, Marker.directiveText? body = some rest := by
    rwa [← Option.isSome_iff_exists, ← Option.isSome_map, ← Marker.directive?_eq,
      Marker.isSome_directive?]
  have read := Marker.parse?_of_directiveText? written
  obtain ⟨trimmed, -⟩ := Marker.directiveText?_eq_some.mp written
  refine ⟨rest, trimmed, ?_, read, fun unmarked front back => ?_⟩
  · rw [Marker.directive?_eq, written, Option.map_some]
  · obtain ⟨before, partition, behind, above, without, with_directive⟩ := ofNodes_append_directive
      (use?_of_directiveText? written (read.trans unmarked)) front back
    refine ⟨before, partition, behind, above, without, with_directive.trans ?_⟩
    rw [Partition.close, partitionBags_eq, partitionBags_eq, ← List.map_cons, ← List.map_append,
      foldl_apply_parse]

/-- A directive that speaks of a marker, but is none. -/
theorem ofNodes_directive_styled :
    let body := " @split bgColor:red split"
    let layout := SplitLayout.ofNodes [.text "a", .comment body, .text "b"]
    (Text.words body.toList).head? = some "@split".toList ∧ layout.enabled = false ∧
      layout.partitions.map (fun p => (p.size, p.directives.get? "bgColor")) =
        [("1fr", some (.text "red"))] := by
  intro body layout
  have first : (Text.words body.toList).head? = some "@split".toList := by decide
  obtain ⟨rest, trimmed, -, read, styles⟩ := (ofNodes_directive body).2 first
  have rest_eq : rest = " bgColor:red split" := by
    refine String.toList_inj.mp (List.append_cancel_left (trimmed.symm.trans ?_))
    decide
  subst rest_eq
  obtain ⟨before, partition, behind, above, without, layout_eq⟩ :=
    styles (by decide) [.text "a"] [.text "b"]
  obtain rfl : before = [] := List.length_eq_zero_iff.mp above
  have alone : [Partition.close "1fr" [.text "a", .text "b"] []] = partition :: behind := without
  obtain ⟨rfl, rfl⟩ := List.cons.inj alone
  have layout_eq : layout = _ := layout_eq
  rw [layout_eq]
  exact ⟨first, rfl, by decide⟩

/-- A comment that is a directive and a split marker. It closes the partition above it. -/
theorem marker_and_directive :
    let body := "@split split:2fr"
    (Text.words body.toList).head? = some "@split".toList ∧
      (Marker.directive? body).isSome = true ∧ Marker.parse? body = some ⟨"2fr", false⟩ ∧
      (SplitLayout.ofNodes [.text "a", .comment body, .text "b"]).partitions.map Partition.size =
        ["2fr", "1fr"] := by
  decide

end SlideDeck.Slide
