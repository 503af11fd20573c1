import SlideDeck.Proofs.Slide.Forest
import SlideDeck.Slide.Partition

/-!
# The nodes of a layout

A layout gives back the nodes of its partitions, within sections if the page is split. The sections
add no leaf.
-/

namespace SlideDeck.Slide

/-- A partition with its nodes replaced. -/
def Partition.mapNodes (f : List Node → List Node) (p : Partition) : Partition :=
  { p with children := f p.children }

/-- A layout with the nodes of each partition replaced. -/
def SplitLayout.mapNodes (f : List Node → List Node) (layout : SplitLayout) : SplitLayout :=
  { layout with partitions := layout.partitions.map (Partition.mapNodes f) }

/-- The section of a partition is an element around its nodes. -/
theorem Partition.exists_toSection_eq (p : Partition) :
    ∃ attrs, p.toSection = .element "section" attrs p.children false := ⟨_, rfl⟩

theorem leaves_map_toSection (partitions : List Partition) :
    leaves (partitions.map Partition.toSection) =
      leaves (partitions.flatMap Partition.children) := by
  induction partitions with
  | nil => rfl
  | cons p partitions ih =>
      obtain ⟨attrs, wrapped⟩ := p.exists_toSection_eq
      rw [List.map_cons, wrapped, List.flatMap_cons, leaves_append, ← ih]
      rfl

/-- The leaves of a page are those of its partitions. -/
theorem leaves_toNodes (layout : SplitLayout) :
    leaves layout.toNodes = leaves (layout.partitions.flatMap Partition.children) := by
  unfold SplitLayout.toNodes
  split_ifs
  · exact leaves_map_toSection layout.partitions
  · rfl

end SlideDeck.Slide
