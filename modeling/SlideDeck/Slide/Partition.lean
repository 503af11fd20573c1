import SlideDeck.Slide.Frame
import SlideDeck.Slide.Marker

/-!
# Partitions

The root nodes of a page cut at its split markers. Each marker gives its size to the partition above
it; what stands behind the last one is a partition of size `1fr`. The directives of a partition come
from the partition directives written in it and reach no other partition.
-/

namespace SlideDeck.Slide

/-- The content between two split markers. -/
structure Partition where
  /-- The size in the grid of the page. -/
  size : String
  /-- The root nodes. -/
  children : List Node
  /-- The directives written in the partition. -/
  directives : DirectiveMap
deriving Repr

namespace Partition

/-- A partition from its content and its partition directives. -/
def close (size : String) (children : List Node) (bags : List Bag) : Partition :=
  { size, children
    directives := (bags.foldl PageDirectives.apply (PageDirectives.start Dict.empty)).resolved }

/-- The section of a partition. -/
def toSection (p : Partition) : Node :=
  (Frame.ofPartition p.directives).section_ "data-size" p.size p.children

end Partition

/-- The partitions of a page. -/
structure SplitLayout where
  /-- The partitions in order, at least one. -/
  partitions : List Partition
  /-- True when the page has a split marker. -/
  enabled : Bool
  /-- True when a marker asks for vertical stacking. -/
  vertical : Bool
deriving Repr

namespace SplitLayout

/-- Cuts nodes at split markers. `current` holds the nodes of the open partition, the last one
first, and `bags` its directives, the last one first. -/
def cut (current : List Node) (bags : List Bag) : List Node → SplitLayout
  | [] =>
    { partitions := [Partition.close defaultSize current.reverse bags.reverse]
      enabled := false
      vertical := false }
  | .comment body :: rest =>
    match Marker.parse? body with
    | some marker =>
      let layout := cut [] [] rest
      { partitions :=
          Partition.close marker.size current.reverse bags.reverse :: layout.partitions
        enabled := true
        vertical := marker.vertical || layout.vertical }
    | none =>
      match Marker.directive? body with
      | some bag => cut current (bag :: bags) rest
      | none => cut (.comment body :: current) bags rest
  | n :: rest => cut (n :: current) bags rest

/-- The layout of root nodes. -/
def ofNodes (nodes : List Node) : SplitLayout := cut [] [] nodes

/-- The sizes of the partitions, one after the other. -/
def sizeText (layout : SplitLayout) : String :=
  " ".intercalate (layout.partitions.map Partition.size)

/-- The nodes of the page: a section for each partition, or the bare content when the page is not
split. -/
def toNodes (layout : SplitLayout) : List Node :=
  if layout.enabled then layout.partitions.map Partition.toSection
  else layout.partitions.flatMap Partition.children

/-- What the record of the page says about its split. -/
def info (layout : SplitLayout) : SplitInfo :=
  { enabled := layout.enabled
    size := if layout.enabled then some layout.sizeText else none
    vertical := layout.vertical }

end SplitLayout

end SlideDeck.Slide
