import SlideDeck.Markdown.Block.Basic

/-!
# Lists

Items that follow each other with nothing but gaps between them make one list when their marks
agree. Items with nothing at all between them, not even the end of a line, stay apart: each of them
starts a list of its own, and that list reaches to the last of them. Ends of lists are paired with
starts from the inside, so that the lists of such items stand in each other.
-/

namespace SlideDeck.Markdown

/-- A member of a sequence of blocks that is not grouped to lists yet. -/
inductive Part where
  /-- A mark. -/
  | token (t : Token)
  /-- An item: its mark, and whether it hides a blank line behind it from its list. -/
  | item (mark : ItemMark) (hidesGap : Bool) (b : Block)
  /-- Any other block. -/
  | block (b : Block)

namespace Part

/-- True of items. -/
def isItem : Part → Bool
  | item .. => true
  | _ => false

/-- True of parts that may stand between the items of a list. -/
def isGap : Part → Bool
  | token t => t.isGap
  | _ => false

/-- The number of a numbered item. -/
def number? : Part → Option Nat
  | item mark _ _ => mark.number?
  | _ => none

/-- The block of a part. -/
def block? : Part → Option Block
  | token _ => none
  | item _ _ b | block b => some b

end Part

/-- The first and the last item of a list, by their places in the sequence. -/
structure ListSpan where
  /-- The mark of the first item. -/
  mark : ItemMark
  /-- The place of the first item. -/
  first : Nat
  /-- The place of the last item. -/
  last : Nat

namespace ListSpan

/-- Adds an item to the spans of lists, the one that started last coming first: the item extends the
first span whose mark agrees and that ends at the last part in front of the item which is no gap. -/
def addItem? (solid : Option Nat) (item : ListSpan) : List ListSpan → Option (List ListSpan)
  | [] => none
  | span :: spans =>
    if item.mark.continues span.mark && some span.last = solid then
      some ({ span with last := item.last } :: spans)
    else (addItem? solid item spans).map (span :: ·)

/-- The spans of the lists of a sequence. `place` is the place of its first part, `solid` that of
the last part in front of it which is no gap, `spans` holds the lists that may go on, the one that
started last coming first, and `done` those that may not. -/
def collect (place : Nat) (solid : Option Nat) (spans done : List ListSpan) :
    List Part → List ListSpan
  | [] => spans ++ done
  | .item mark _ _ :: rest =>
    let item : ListSpan := ⟨mark, place, place + (rest.takeWhile Part.isItem).length⟩
    let spans := (addItem? solid item spans).getD (item :: spans)
    let (reaching, ended) := spans.partition fun span => place ≤ span.last
    collect (place + 1) (some place) reaching (ended ++ done) rest
  | p :: rest => collect (place + 1) (if p.isGap then solid else some place) spans done rest

/-- The spans of the lists of a sequence in the order of their first items. -/
def ofParts (parts : List Part) : List ListSpan :=
  (collect 0 none [] [] parts).mergeSort fun a b => a.first ≤ b.first

end ListSpan

/-- True of the parts of a list with a blank line between its items, which the item in front does
not hide. -/
def isSpreadList (hidden : Bool) : List Part → Bool
  | [] => false
  | .token .blankEnd :: rest => !hidden || isSpreadList false rest
  | .item _ hidesGap _ :: rest => isSpreadList hidesGap rest
  | _ :: rest => isSpreadList false rest

/-- A list that is not closed yet, with the parts in front of it, the last one first. -/
structure OpenedList where
  /-- The mark of its first item. -/
  mark : ItemMark
  /-- The parts in front of it. -/
  before : List Part

/-- Closes the given number of open lists, the innermost ones first. `inside` holds the parts of the
innermost one, the last one first. -/
def closeLists : Nat → List OpenedList → List Part → List OpenedList × List Part
  | n + 1, o :: opened, inside =>
    let parts := inside.reverse
    let b := Block.list o.mark.number?.isSome (parts.findSome? Part.number?)
      (isSpreadList false parts) (parts.filterMap Part.block?)
    closeLists n opened (.block b :: o.before)
  | _, opened, inside => (opened, inside)

/-- Groups the items of a sequence to lists. `spans` holds the lists that start at `place` or behind
it in their order, `lasts` the places of the last items of those that started in front, `opened` the
open lists, and `inside` the parts of the innermost one, the last one first. -/
def groupFrom (spans : List ListSpan) (lasts : List Nat) (place : Nat) (opened : List OpenedList)
    (inside : List Part) : List Part → List Part
  | [] => (closeLists opened.length opened inside).2.reverse
  | p :: rest =>
    let starting := spans.head?.filter fun span => span.first = place
    let spans := if starting.isSome then spans.tail else spans
    let lasts := (starting.map ListSpan.last).toList ++ lasts
    let (opened, inside) := match starting with
      | some span => ((⟨span.mark, inside⟩ : OpenedList) :: opened, [p])
      | none => (opened, p :: inside)
    let (ending, lasts) := lasts.partition fun last => last = place
    let (opened, inside) := closeLists ending.length opened inside
    groupFrom spans lasts (place + 1) opened inside rest

/-- Groups the items of a sequence to lists. -/
def groupItems (parts : List Part) : List Part :=
  groupFrom (ListSpan.ofParts parts) [] 0 [] [] parts

end SlideDeck.Markdown
