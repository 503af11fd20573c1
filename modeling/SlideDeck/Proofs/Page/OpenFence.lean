import Mathlib.Data.List.Induction
import SlideDeck.Proofs.Header.Fences
import SlideDeck.Proofs.Page.Append

/-!
# The fence that stays open

Of the fences of a text at most the last one stays open: its opening line lies outside every earlier
fence, and no line below closes it (`OpenFence`). `settled_or_openFence` says that without such a
line all fences are closed. The splitter warns exactly of a fence that stays open, and the warning
points at its opening line in the whole deck (`warnings_splitPages_openFence`).
-/

namespace SlideDeck

namespace Page

/-- Lines behind which no fence is open: each of them opens none, or lies in a fence that one of
them closes. -/
inductive Settled : List (List Char) → Prop
  | nil : Settled []
  | outside {line : List Char} {lines : List (List Char)} :
      (∀ marker length, ¬ Opens line marker length) → Settled lines → Settled (line :: lines)
  | closed {opener closer : List Char} {inside lines : List (List Char)} {marker : Char}
      {length : Nat} :
      Opens opener marker length → (∀ line ∈ inside, ¬ Closes line marker length) →
      Closes closer marker length → Settled lines →
      Settled (opener :: (inside ++ closer :: lines))

/-- A fence that stays open up to the end of the lines. -/
structure OpenFence (lines : List (List Char)) where
  /-- The lines above its opening line. -/
  above : List (List Char)
  /-- The line that opens it. -/
  opener : List Char
  /-- The lines below its opening line. -/
  below : List (List Char)
  /-- The columns of indentation in front of its marks. -/
  indent : Nat
  /-- The mark it is made of. -/
  marker : Char
  /-- The number of marks. -/
  length : Nat
  /-- What stands behind the marks. -/
  info : List Char
  lines_eq : lines = above ++ opener :: below
  outside : Settled above
  marks : MarkLine opener indent marker length info
  clear : marker = '\x60' → '\x60' ∉ info
  stays : ∀ line ∈ below, ¬ Closes line marker length

/-! ## Every text is settled or leaves a fence open -/

theorem Settled.append {front lines : List (List Char)} (front_settled : Settled front)
    (settled : Settled lines) : Settled (front ++ lines) := by
  induction front_settled with
  | nil => exact settled
  | outside plain _ ih => exact .outside plain ih
  | closed opens stays closes _ ih =>
      rw [List.cons_append, List.append_assoc, List.cons_append]
      exact .closed opens stays closes ih

/-- A line behind settled lines leaves them settled unless it opens a fence. -/
theorem Settled.snoc {lines : List (List Char)} (settled : Settled lines) (line : List Char) :
    Settled (lines ++ [line]) ∨ Nonempty (OpenFence (lines ++ [line])) := by
  by_cases opening : ∃ marker length, Opens line marker length
  · obtain ⟨marker, length, indent, info, marks, clear⟩ := opening
    exact .inr ⟨{
      above := lines
      opener := line
      below := []
      indent, marker, length, info
      lines_eq := rfl
      outside := settled
      marks, clear
      stays := by simp }⟩
  · have plain : ∀ marker length, ¬ Opens line marker length :=
      fun marker length opens => opening ⟨marker, length, opens⟩
    exact .inl (settled.append (.outside plain .nil))

/-- A line behind an open fence leaves it open unless it closes the fence. -/
theorem OpenFence.snoc {lines : List (List Char)} (fence : OpenFence lines) (line : List Char) :
    Settled (lines ++ [line]) ∨ Nonempty (OpenFence (lines ++ [line])) := by
  by_cases closes : Closes line fence.marker fence.length
  · left
    rw [fence.lines_eq, List.append_assoc]
    have opens : Opens fence.opener fence.marker fence.length :=
      ⟨fence.indent, fence.info, fence.marks, fence.clear⟩
    exact fence.outside.append (.closed opens fence.stays closes .nil)
  · refine .inr ⟨{ fence with
      below := fence.below ++ [line]
      lines_eq := (congrArg (· ++ [line]) fence.lines_eq).trans (by simp)
      stays := List.forall_mem_append.mpr ⟨fence.stays, List.forall_mem_singleton.mpr closes⟩ }⟩

theorem settled_or_openFence (lines : List (List Char)) :
    Settled lines ∨ Nonempty (OpenFence lines) := by
  induction lines using List.reverseRecOn with
  | nil => exact .inl .nil
  | append_singleton lines line ih =>
      cases ih with
      | inl settled => exact settled.snoc line
      | inr nonempty =>
          obtain ⟨fence⟩ := nonempty
          exact fence.snoc line

/-! ## The scan of the splitter -/

/-- Behind the opening line of a fence that stays open nothing is cut. -/
theorem segments_inside {fence : Fence} {lines : List (List Char)}
    (stays : ∀ line ∈ lines, ¬ Closes line fence.marker fence.length) (number : Nat) :
    segments (some fence) number lines = { first := lines, others := [], fence := some fence } := by
  induction lines generalizing number with
  | nil => rfl
  | cons line rest ih =>
      obtain ⟨here, behind⟩ := List.forall_mem_cons.mp stays
      simp [segments, observe_inside here, ih behind, Segments.push]

theorem fence_segments_inside {fence : Fence} {inside : List (List Char)}
    (stays : ∀ line ∈ inside, ¬ Closes line fence.marker fence.length) (number : Nat)
    (rest : List (List Char)) :
    (segments (some fence) number (inside ++ rest)).fence =
      (segments (some fence) (number + inside.length) rest).fence := by
  induction inside generalizing number with
  | nil => rfl
  | cons line inside ih =>
      obtain ⟨here, behind⟩ := List.forall_mem_cons.mp stays
      rw [List.cons_append, fence_segments_cons, observe_inside here, ih behind]
      simp only [List.length_cons]
      rw [Nat.add_right_comm, Nat.add_assoc]

/-- The scan leaves no fence open behind settled lines. -/
theorem Settled.fence_segments {lines : List (List Char)} (settled : Settled lines) (number : Nat) :
    (segments none number lines).fence = none := by
  induction settled generalizing number with
  | nil => rfl
  | outside plain _ ih => rw [fence_segments_cons, observe_outside plain, ih]
  | closed opens stays closes _ ih =>
      obtain ⟨fence, rfl, rfl, -, opened⟩ := observe_opener opens number
      rw [fence_segments_cons, opened, fence_segments_inside stays, fence_segments_cons,
        observe_closer closes, ih]

/-- Segments start at most one line below the lines that are scanned. -/
theorem le_of_mem_all_segments {fence : Option Fence} {number start bound : Nat}
    {lines : List (List Char)} (start_le : start ≤ bound)
    (lines_le : number + lines.length ≤ bound) :
    ∀ segment ∈ (segments fence number lines).all start, segment.1 ≤ bound := by
  induction lines generalizing fence number start with
  | nil =>
      intro segment member
      obtain rfl := List.mem_singleton.mp member
      exact start_le
  | cons line rest ih =>
      have rest_le : number + 1 + rest.length ≤ bound := by
        rw [List.length_cons] at lines_le
        omega
      simp only [segments]
      split_ifs
      · have next_le : number + 1 ≤ bound := by omega
        exact List.forall_mem_cons.mpr ⟨start_le, ih next_le rest_le⟩
      · exact List.forall_mem_cons.mpr ⟨start_le, (List.forall_mem_cons.mp (ih start_le rest_le)).2⟩

namespace OpenFence

variable {lines : List (List Char)} (fence : OpenFence lines)

theorem flatten_eq :
    lines.flatten = fence.above.flatten ++ (fence.opener ++ fence.below.flatten) :=
  (congrArg List.flatten fence.lines_eq).trans (by simp)

theorem getElem?_eq : lines[fence.above.length]? = some fence.opener := by
  have there := congrArg (·[fence.above.length]?) fence.lines_eq
  simpa using there

/-- The fence as the scan keeps it when the lines start on line `start`. -/
def toFence (start : Nat) : Fence where
  marker := fence.marker
  length := fence.length
  indent := fence.indent
  line := start + fence.above.length

theorem observe_opener (start : Nat) :
    observe none (content fence.opener) (start + fence.above.length) =
      (some (fence.toFence start), true) := by
  have clear : fence.marker = '\x60' → '\x60' ∉ content fence.info := by
    intro tick member
    obtain ⟨tail, split, -⟩ := exists_content_append fence.info
    exact fence.clear tick (split ▸ List.mem_append_left tail member)
  have found : opener? (content fence.opener) (start + fence.above.length) =
      some (fence.toFence start) :=
    opener?_eq_some_iff.mpr ⟨rfl, content fence.info, fence.marks.content, clear⟩
  simp only [observe, found]

/-- From the opening line on everything is one segment, and the fence stays open. -/
theorem segments_opener (start : Nat) :
    segments none (start + fence.above.length) (fence.opener :: fence.below) =
      { first := fence.opener :: fence.below
        others := []
        fence := some (fence.toFence start) } := by
  have stays : ∀ line ∈ fence.below,
      ¬ Closes line (fence.toFence start).marker (fence.toFence start).length := fence.stays
  have behind := segments_inside stays (start + fence.above.length + 1)
  simp only [segments, fence.observe_opener, behind, Bool.not_true, Bool.false_and,
    Bool.false_eq_true, if_false, Segments.push]

/-- The last segment of the text ends with the fence, and it does not start below its opening
line. -/
theorem exists_all_segments (start : Nat) :
    (segments none start lines).fence = some (fence.toFence start) ∧
    ∃ front first lead, (segments none start lines).all start =
        front ++ [(first, lead ++ fence.opener :: fence.below)] ∧
      first ≤ start + fence.above.length := by
  obtain ⟨front, last, all_eq, -, all_append, fence_eq⟩ :=
    all_segments_append (fence.outside.fence_segments start) start (fence.opener :: fence.below)
  rw [fence.segments_opener, ← fence.lines_eq] at all_append fence_eq
  have member : last ∈ (segments none start fence.above).all start := by
    rw [all_eq]
    exact List.mem_append_right front (List.mem_singleton_self last)
  exact ⟨fence_eq, front, last.1, last.2, all_append,
    le_of_mem_all_segments (Nat.le_add_right start _) (Nat.le_refl _) last member⟩

end OpenFence

end Page

open Page

/-- A fence that stays open is warned of, and the last page ends with it. -/
theorem Page.OpenFence.splitPages_eq {body : List Char} (fence : OpenFence (Text.lines body))
    (firstLine : Nat) :
    let split := splitPages body firstLine
    split.warnings =
      [.unclosedFence
        { page := some split.pages.length
          line := firstLine + fence.above.length
          column := fence.indent + 1 }
        fence.marker] ∧
    ∃ page lead, split.pages.getLast? = some page ∧ page.index = split.pages.length ∧
      page.firstLine ≤ firstLine + fence.above.length ∧
      WithoutFinalBreak (lead ++ (fence.opener ++ fence.below.flatten)) page.text := by
  intro split
  obtain ⟨fence_eq, front, first, lead, all_eq, first_le⟩ := fence.exists_all_segments firstLine
  have pages_eq : split.pages = number 1 front ++
      [{ index := 1 + front.length
         text := textOfLines (lead ++ fence.opener :: fence.below)
         firstLine := first }] := by
    have numbered := congrArg (number 1) all_eq
    rwa [number_append] at numbered
  have length_eq : split.pages.length = 1 + front.length := by
    rw [pages_eq, List.length_append, length_number, List.length_singleton, Nat.add_comm]
  constructor
  · simp [split, splitPages, fence_eq, OpenFence.toFence]
  · refine ⟨_, lead.flatten, by rw [pages_eq, List.getLast?_concat], length_eq.symm, first_le, ?_⟩
    simpa using textOfLines_spec (lead ++ fence.opener :: fence.below)

/-- Where the opening line stands in the whole deck. -/
theorem Page.OpenFence.place {yaml : String → Except String Json} {source : List Char}
    {header : Header} (read : readHeader yaml source = .ok header)
    (fence : OpenFence (Text.lines header.body)) :
    let front := header.front ++ fence.above.flatten
    source = front ++ (fence.opener ++ fence.below.flatten) ∧
      (Text.lines source)[Text.countBreaks front]? = some fence.opener ∧
      header.bodyLine + fence.above.length = Text.countBreaks front + 1 := by
  intro front
  have body_eq : header.body = fence.above.flatten ++ (fence.opener ++ fence.below.flatten) :=
    (Text.flatten_lines header.body).symm.trans fence.flatten_eq
  have body_ne : header.body ≠ [] := by
    intro empty
    have first := fence.getElem?_eq
    simp [empty, Text.lines] at first
  obtain ⟨source_lines, front_length⟩ := lines_source read body_ne
  have breaks_eq :
      Text.countBreaks front = Text.countBreaks header.front + fence.above.length := by
    rw [← countBreaks_flatten (isLine_of_lines_eq fence.lines_eq).1]
    exact List.count_append ..
  refine ⟨?_, ?_, by rw [breaks_eq, Header.bodyLine, Nat.add_right_comm]⟩
  · calc source = header.front ++ header.body := readHeader_split read
      _ = header.front ++ (fence.above.flatten ++ (fence.opener ++ fence.below.flatten)) :=
          congrArg (header.front ++ ·) body_eq
      _ = front ++ (fence.opener ++ fence.below.flatten) := (List.append_assoc ..).symm
  · rw [source_lines, breaks_eq, ← front_length,
      List.getElem?_append_right (Nat.le_add_right _ _), Nat.add_sub_cancel_left,
      fence.getElem?_eq]

/-- The warning of an unclosed fence points at the fence. Splitting the body of a deck warns at most
once, and it does exactly if a fence stays open. Then the place is on the last page, which ends with
the fence and does not start below its opening line; it is in the column of the first mark, and on
the line of the deck that opens the fence, with as many line feeds of the deck in front of it as its
number says. -/
theorem warnings_splitPages_openFence {yaml : String → Except String Json} {source : List Char}
    {header : Header} (read : readHeader yaml source = .ok header) :
    let split := splitPages header.body header.bodyLine
    split.warnings.length ≤ 1 ∧
    (split.warnings ≠ [] ↔ Nonempty (OpenFence (Text.lines header.body))) ∧
    ∀ fence : OpenFence (Text.lines header.body),
      let front := header.front ++ fence.above.flatten
      source = front ++ (fence.opener ++ fence.below.flatten) ∧
      (Text.lines source)[Text.countBreaks front]? = some fence.opener ∧
      (indentOf fence.opener).1 = fence.indent ∧
      split.warnings =
        [.unclosedFence
          { page := some split.pages.length
            line := Text.countBreaks front + 1
            column := fence.indent + 1 }
          fence.marker] ∧
      ∃ page lead, split.pages.getLast? = some page ∧ page.index = split.pages.length ∧
        page.firstLine ≤ Text.countBreaks front + 1 ∧
        WithoutFinalBreak (lead ++ (fence.opener ++ fence.below.flatten)) page.text := by
  intro split
  refine ⟨?_, ?_, fun fence => ?_⟩
  · simp only [split, splitPages]
    split <;> simp
  · rw [← not_iff_not, not_not, warnings_splitPages_eq_nil_iff]
    constructor
    · rintro closed ⟨fence⟩
      rw [(fence.exists_all_segments header.bodyLine).1] at closed
      cases closed
    · intro none_open
      exact ((settled_or_openFence _).resolve_right none_open).fence_segments header.bodyLine
  · intro front
    obtain ⟨source_eq, opener_eq, line_eq⟩ := fence.place read
    obtain ⟨warnings_eq, page⟩ := fence.splitPages_eq header.bodyLine
    rw [line_eq] at warnings_eq page
    exact ⟨source_eq, opener_eq, (markLine_iff.mp fence.marks).1, warnings_eq, page⟩

theorem warnings_splitPages_openFence_secondPage :
    let source := "---\ntitle: x\n---\nA\n---\nB\n  ~~~~ sh\n---\n~~~\n".toList
    ∃ header, readHeader Yaml.wordless source = .ok header ∧
      (splitPages header.body header.bodyLine).warnings =
        [.unclosedFence { page := some 2, line := 7, column := 3 } '~'] ∧
      ∃ fence : OpenFence (Text.lines header.body),
        (Text.lines source)[6]? = some fence.opener ∧ fence.indent = 2 ∧ fence.marker = '~' := by
  intro source
  obtain ⟨header, read, body_eq, line_eq⟩ := exists_readHeader Yaml.wordless source
    "A\n---\nB\n  ~~~~ sh\n---\n~~~\n".toList 4 (by decide +kernel)
  have warned : (splitPages header.body header.bodyLine).warnings =
      [.unclosedFence { page := some 2, line := 7, column := 3 } '~'] := by
    rw [body_eq, line_eq]
    decide
  obtain ⟨-, warns_iff, place⟩ := warnings_splitPages_openFence read
  obtain ⟨fence⟩ := warns_iff.mp (by simp [warned])
  obtain ⟨-, opener_eq, -, same, -⟩ := place fence
  simp only [warned, List.cons.injEq, Warning.unclosedFence.injEq, Location.mk.injEq] at same
  obtain ⟨⟨⟨-, line, column⟩, marker⟩, -⟩ := same
  refine ⟨header, read, warned, fence, ?_, by omega, marker.symm⟩
  rwa [show Text.countBreaks (header.front ++ fence.above.flatten) = 6 by omega] at opener_eq

end SlideDeck
