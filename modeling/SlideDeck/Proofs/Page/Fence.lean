import Mathlib.Tactic.Common
import SlideDeck.Page.Split

/-!
# Fences of a text, line by line

A line of marks is at most three spaces, at least three equal marks and a rest. Some lines of marks
open a fence, and the first later line that closes it ends it. `FenceMarks` says of every line of a
text whether it lies in a fence, with no state carried along, and `fenceMarks_iff` says that the
scan of the splitter marks the same lines.
-/

namespace SlideDeck.Page

/-- A line of at least three equal marks behind at most three columns of indentation. A tab reaches
to the fourth column, so the indentation is made of spaces. -/
structure MarkLine (line : List Char) (indent : Nat) (marker : Char) (length : Nat)
    (rest : List Char) : Prop where
  /-- The parts make up the line. -/
  shape : line = List.replicate indent ' ' ++ (List.replicate length marker ++ rest)
  /-- The marks are backticks or tildes. -/
  marker_eq : marker = '\x60' ∨ marker = '~'
  /-- There are at least three marks. -/
  three_le : 3 ≤ length
  /-- There are at most three columns in front of them. -/
  indent_le : indent ≤ 3
  /-- The run of marks is as long as it can be. -/
  maximal : rest.head? ≠ some marker

/-- The line opens a fence: a line of marks, with no backtick behind backticks. -/
def Opens (line : List Char) (marker : Char) (length : Nat) : Prop :=
  ∃ indent info, MarkLine line indent marker length info ∧ (marker = '\x60' → '\x60' ∉ info)

/-- The line closes a fence of the given marks: at least as many of them and nothing but white space
behind. -/
def Closes (line : List Char) (marker : Char) (length : Nat) : Prop :=
  ∃ indent count rest, MarkLine line indent marker count rest ∧ length ≤ count ∧
    ∀ c ∈ rest, Text.isBlank c

/-- Marks each line of a text with whether it lies in a fence. A fence reaches from its opening line
to the first later line that closes it, or to the end of the text. -/
inductive FenceMarks : List (List Char) → List (Bool × List Char) → Prop
  | nil : FenceMarks [] []
  | outside {line : List Char} {lines : List (List Char)} {marks : List (Bool × List Char)} :
      (∀ marker length, ¬ Opens line marker length) → FenceMarks lines marks →
      FenceMarks (line :: lines) ((false, line) :: marks)
  | closed {opener closer : List Char} {inside lines : List (List Char)}
      {marks : List (Bool × List Char)} {marker : Char} {length : Nat} :
      Opens opener marker length → (∀ line ∈ inside, ¬ Closes line marker length) →
      Closes closer marker length → FenceMarks lines marks →
      FenceMarks (opener :: (inside ++ closer :: lines))
        ((opener :: (inside ++ [closer])).map (true, ·) ++ marks)
  | unclosed {opener : List Char} {inside : List (List Char)} {marker : Char} {length : Nat} :
      Opens opener marker length → (∀ line ∈ inside, ¬ Closes line marker length) →
      FenceMarks (opener :: inside) ((opener :: inside).map (true, ·))

/-! ## Lines of marks -/

/-- The columns counted at the start of a text and the text behind them. -/
theorem indentFrom_spec (columns : Nat) (s : List Char) :
    ∃ front, s = front ++ (indentFrom columns s).2 ∧
      columns ≤ (indentFrom columns s).1 ∧
      ((indentFrom columns s).1 ≤ 3 →
        front = List.replicate ((indentFrom columns s).1 - columns) ' ') := by
  induction s generalizing columns with
  | nil => exact ⟨[], rfl, Nat.le_refl _, fun _ => by simp [indentFrom]⟩
  | cons c rest ih =>
      unfold indentFrom
      split
      case h_1 tail equal =>
        obtain ⟨rfl, rfl⟩ := List.cons.inj equal
        obtain ⟨front, made, le, spaces⟩ := ih (columns + 1)
        refine ⟨' ' :: front, congrArg (' ' :: ·) made, by omega, fun few => ?_⟩
        rw [spaces few, ← List.replicate_succ]
        congr 1
        omega
      case h_2 tail equal =>
        -- a tab always reaches at least the fourth column
        obtain ⟨rfl, rfl⟩ := List.cons.inj equal
        obtain ⟨front, made, le, -⟩ := ih (columns + (4 - columns % 4))
        exact ⟨'\t' :: front, congrArg ('\t' :: ·) made, by omega, fun few => by omega⟩
      case h_3 => exact ⟨[], rfl, Nat.le_refl _, fun _ => by simp⟩

theorem indentFrom_replicate (columns count : Nat) (rest : List Char)
    (no_space : rest.head? ≠ some ' ') (no_tab : rest.head? ≠ some '\t') :
    indentFrom columns (List.replicate count ' ' ++ rest) = (columns + count, rest) := by
  induction count generalizing columns with
  | zero =>
      cases rest with
      | nil => rfl
      | cons c rest =>
          have c_ne : c ≠ ' ' ∧ c ≠ '\t' := by simpa using And.intro no_space no_tab
          rw [List.replicate_zero, List.nil_append, indentFrom.eq_3]
          · rfl
          · intro tail equal
            exact c_ne.1 (List.cons.inj equal).1
          · intro tail equal
            exact c_ne.2 (List.cons.inj equal).1
  | succ count ih =>
      rw [List.replicate_succ, List.cons_append, indentFrom, ih]
      congr 1
      omega

theorem takeWhile_replicate {marker : Char} (length : Nat) {rest : List Char}
    (maximal : rest.head? ≠ some marker) :
    (List.replicate length marker ++ rest).takeWhile (· = marker) =
      List.replicate length marker := by
  rw [List.takeWhile_append_of_pos (by simp)]
  cases rest with
  | nil => simp
  | cons c rest => simp_all

/-- The marks that a text starts with. -/
theorem run?_eq_some_iff {s rest : List Char} {marker : Char} {length : Nat} :
    run? s = some (marker, length, rest) ↔
      s = List.replicate length marker ++ rest ∧ (marker = '\x60' ∨ marker = '~') ∧
        3 ≤ length ∧ rest.head? ≠ some marker := by
  constructor
  · intro found
    cases s with
    | nil => simp [run?] at found
    | cons c s =>
        obtain ⟨marks, marks_eq⟩ : ∃ marks, (c :: s).takeWhile (· = c) = marks := ⟨_, rfl⟩
        obtain ⟨tail, tail_eq⟩ : ∃ tail, (c :: s).dropWhile (· = c) = tail := ⟨_, rfl⟩
        have parts : marks ++ tail = c :: s := by
          rw [← marks_eq, ← tail_eq, List.takeWhile_append_dropWhile]
        have run : marks = List.replicate marks.length c := by
          apply List.eq_replicate_of_mem
          intro d member
          have every := List.all_takeWhile (p := (· = c)) (l := c :: s)
          simpa using List.all_eq_true.mp every d (marks_eq ▸ member)
        have stop : tail.head? ≠ some c := by
          intro same
          have boundary := List.head?_dropWhile_not (· = c) (c :: s)
          simp [tail_eq, same] at boundary
        have rest_eq : (c :: s).drop marks.length = tail := by rw [← parts, List.drop_left]
        simp only [run?, marks_eq, rest_eq] at found
        split_ifs at found with valid
        simp only [Bool.and_eq_true, Bool.or_eq_true, decide_eq_true_eq] at valid
        obtain ⟨rfl, rfl, rfl⟩ : c = marker ∧ marks.length = length ∧ tail = rest := by
          simpa using found
        exact ⟨by rw [← run, parts], valid.1, valid.2, stop⟩
  · rintro ⟨rfl, valid, three_le, maximal⟩
    obtain ⟨length, rfl⟩ : ∃ n, length = n + 1 := ⟨length - 1, by omega⟩
    have run := takeWhile_replicate (length + 1) maximal
    rw [List.replicate_succ, List.cons_append] at run ⊢
    simp only [run?, run]
    simp [valid, three_le]

/-- A line of marks is one whose indentation is small and followed by a run of marks. -/
theorem markLine_iff {line rest : List Char} {indent length : Nat} {marker : Char} :
    MarkLine line indent marker length rest ↔
      (indentOf line).1 = indent ∧ indent ≤ 3 ∧
        run? (indentOf line).2 = some (marker, length, rest) := by
  constructor
  · rintro ⟨rfl, marker_eq, three_le, indent_le, maximal⟩
    obtain ⟨more, rfl⟩ : ∃ n, length = n + 1 := ⟨length - 1, by omega⟩
    have counted : indentOf (List.replicate indent ' ' ++
        (List.replicate (more + 1) marker ++ rest)) =
          (indent, List.replicate (more + 1) marker ++ rest) := by
      have found := indentFrom_replicate 0 indent (List.replicate (more + 1) marker ++ rest)
      rw [Nat.zero_add] at found
      apply found <;> rcases marker_eq with rfl | rfl <;> simp [List.replicate_succ]
    rw [counted]
    exact ⟨rfl, indent_le, run?_eq_some_iff.mpr ⟨rfl, marker_eq, three_le, maximal⟩⟩
  · rintro ⟨indent_eq, indent_le, found⟩
    obtain ⟨run, marker_eq, three_le, maximal⟩ := run?_eq_some_iff.mp found
    obtain ⟨front, split, -, spaces⟩ := indentFrom_spec 0 line
    rw [← indentOf, indent_eq, Nat.sub_zero] at spaces
    rw [← indentOf, run, spaces indent_le] at split
    exact ⟨split, marker_eq, three_le, indent_le, maximal⟩

theorem opener?_eq_some_iff {line : List Char} {number : Nat} {fence : Fence} :
    opener? line number = some fence ↔
      fence.line = number ∧ ∃ info, MarkLine line fence.indent fence.marker fence.length info ∧
        (fence.marker = '\x60' → '\x60' ∉ info) := by
  obtain ⟨marker, length, indent, place⟩ := fence
  simp only [markLine_iff, opener?]
  by_cases far : (indentOf line).1 > 3
  · rw [if_pos far]
    constructor
    · simp
    · rintro ⟨-, info, ⟨rfl, near, -⟩, -⟩
      omega
  · rw [if_neg far]
    cases found : run? (indentOf line).2 with
    | none => simp
    | some run =>
        obtain ⟨c, count, info⟩ := run
        by_cases hidden : c = '\x60' ∧ '\x60' ∈ info
        · obtain ⟨rfl, ticks⟩ := hidden
          have contained : info.contains '\x60' = true := List.contains_iff_mem.mpr ticks
          simp only [contained, decide_true, Bool.and_true, if_true, reduceCtorEq, false_iff]
          rintro ⟨-, rest, ⟨-, -, run⟩, clear⟩
          simp only [Option.some.injEq, Prod.mk.injEq] at run
          obtain ⟨rfl, -, rfl⟩ := run
          exact clear rfl ticks
        · have shown : ¬ ((decide (c = '\x60') && info.contains '\x60') = true) := by
            simpa using hidden
          simp only [shown, Bool.false_eq_true, if_false, Option.some.injEq, Fence.mk.injEq,
            Prod.mk.injEq]
          constructor
          · rintro ⟨rfl, rfl, rfl, rfl⟩
            exact ⟨rfl, info, ⟨rfl, by omega, rfl, rfl, rfl⟩,
              fun tick ticks => hidden ⟨tick, ticks⟩⟩
          · rintro ⟨rfl, rest, ⟨rfl, -, rfl, rfl, -⟩, -⟩
            exact ⟨rfl, rfl, rfl, rfl⟩

theorem Fence.isClosedBy_iff {fence : Fence} {line : List Char} :
    fence.isClosedBy line = true ↔ Closes line fence.marker fence.length := by
  simp only [Fence.isClosedBy, Closes, markLine_iff, Bool.and_eq_true, decide_eq_true_eq]
  cases found : run? (indentOf line).2 with
  | none => simp
  | some run =>
      obtain ⟨marker, count, rest⟩ := run
      simp only [Bool.and_eq_true, decide_eq_true_eq, Text.isBlankText, List.all_eq_true,
        Option.some.injEq, Prod.mk.injEq]
      constructor
      · rintro ⟨near, ⟨rfl, enough⟩, blank⟩
        exact ⟨_, count, rest, ⟨rfl, near, rfl, rfl, rfl⟩, enough, blank⟩
      · rintro ⟨_, _, _, ⟨rfl, near, rfl, rfl, rfl⟩, enough, blank⟩
        exact ⟨near, ⟨rfl, enough⟩, blank⟩

/-! ## Line ends -/

theorem exists_content_append (line : List Char) :
    ∃ tail, line = content line ++ tail ∧ ∀ c ∈ tail, c = '\n' ∨ c = '\r' := by
  obtain ⟨tail, split, ends⟩ :=
    Text.exists_dropEndWhile_append (fun c => decide (c = '\n') || decide (c = '\r')) line
  exact ⟨tail, split, fun c member => by simpa using ends c member⟩

/-- The end of a line is white space. -/
theorem trimEnd_content (line : List Char) : Text.trimEnd (content line) = Text.trimEnd line := by
  obtain ⟨tail, split, ends⟩ := exists_content_append line
  have blank : ∀ c ∈ tail, Text.isBlank c = true := by
    intro c member
    rcases ends c member with rfl | rfl <;> decide
  conv_rhs => rw [split]
  exact (Text.dropEndWhile_append_of_forall (content line) blank).symm

theorem marker_ne_end {marker c : Char} (marker_eq : marker = '\x60' ∨ marker = '~')
    (ends : c = '\n' ∨ c = '\r') : c ≠ marker := by
  rcases marker_eq with rfl | rfl <;> rcases ends with rfl | rfl <;> decide

/-- A line of marks stays one when its end is added. -/
theorem MarkLine.of_content {line rest : List Char} {indent length : Nat} {marker : Char}
    (marks : MarkLine (content line) indent marker length rest) :
    ∃ tail, MarkLine line indent marker length (rest ++ tail) ∧
      ∀ c ∈ tail, c = '\n' ∨ c = '\r' := by
  obtain ⟨tail, split, ends⟩ := exists_content_append line
  refine ⟨tail, ⟨?_, marks.marker_eq, marks.three_le, marks.indent_le, ?_⟩, ends⟩
  · rw [split, marks.shape]
    simp
  · cases rest with
    | cons c rest => exact marks.maximal
    | nil =>
        intro first
        have member : marker ∈ tail := List.mem_of_mem_head? first
        exact marker_ne_end marks.marker_eq (ends marker member) rfl

/-- A line of marks stays one without its end. -/
theorem MarkLine.content {line rest : List Char} {indent length : Nat} {marker : Char}
    (marks : MarkLine line indent marker length rest) :
    MarkLine (content line) indent marker length (content rest) := by
  obtain ⟨rfl, marker_eq, three_le, indent_le, maximal⟩ := marks
  refine ⟨?_, marker_eq, three_le, indent_le, ?_⟩
  · obtain ⟨more, rfl⟩ : ∃ n, length = n + 1 := ⟨length - 1, by omega⟩
    have kept : (decide (marker = '\n') || decide (marker = '\r')) = false := by
      rcases marker_eq with rfl | rfl <;> decide
    have cut := Text.dropEndWhile_append
      (p := fun c => decide (c = '\n') || decide (c = '\r')) kept
      (List.replicate indent ' ' ++ List.replicate more marker) rest
    simpa [Page.content, List.replicate_succ'] using cut
  · obtain ⟨tail, split, -⟩ := exists_content_append rest
    intro first
    apply maximal
    rw [split, List.head?_append, first]
    rfl

theorem opens_content_iff {line : List Char} {marker : Char} {length : Nat} :
    Opens (content line) marker length ↔ Opens line marker length := by
  constructor
  · rintro ⟨indent, info, marks, clear⟩
    obtain ⟨tail, marks, ends⟩ := marks.of_content
    refine ⟨indent, info ++ tail, marks, fun tick member => ?_⟩
    rcases List.mem_append.mp member with member | member
    · exact clear tick member
    · exact marker_ne_end (.inl rfl) (ends _ member) rfl
  · rintro ⟨indent, info, marks, clear⟩
    refine ⟨indent, content info, marks.content, fun tick member => clear tick ?_⟩
    obtain ⟨tail, split, -⟩ := exists_content_append info
    exact split ▸ List.mem_append_left tail member

theorem closes_content_iff {line : List Char} {marker : Char} {length : Nat} :
    Closes (content line) marker length ↔ Closes line marker length := by
  constructor
  · rintro ⟨indent, count, rest, marks, enough, blank⟩
    obtain ⟨tail, marks, ends⟩ := marks.of_content
    refine ⟨indent, count, rest ++ tail, marks, enough, fun c member => ?_⟩
    rcases List.mem_append.mp member with member | member
    · exact blank c member
    · rcases ends c member with rfl | rfl <;> decide
  · rintro ⟨indent, count, rest, marks, enough, blank⟩
    refine ⟨indent, count, content rest, marks.content, enough, fun c member => blank c ?_⟩
    obtain ⟨tail, split, -⟩ := exists_content_append rest
    exact split ▸ List.mem_append_left tail member

/-! ## The scan of the splitter -/

/-- The marks that the scan gives to lines, from the fence that is open before them. -/
def scanMarks (fence : Option Fence) (number : Nat) : List (List Char) → List (Bool × List Char)
  | [] => []
  | line :: rest =>
    ((observe fence (content line) number).2, line) ::
      scanMarks (observe fence (content line) number).1 (number + 1) rest

theorem map_snd_scanMarks (fence : Option Fence) (number : Nat) (lines : List (List Char)) :
    (scanMarks fence number lines).map Prod.snd = lines := by
  induction lines generalizing fence number with
  | nil => rfl
  | cons line rest ih => simp [scanMarks, ih]

theorem observe_outside {line : List Char} (plain : ∀ marker length, ¬ Opens line marker length)
    (number : Nat) : observe none (content line) number = (none, false) := by
  simp only [observe]
  cases found : opener? (content line) number with
  | none => rfl
  | some fence =>
      obtain ⟨-, info, marks, clear⟩ := opener?_eq_some_iff.mp found
      exact absurd (opens_content_iff.mp ⟨_, info, marks, clear⟩) (plain _ _)

theorem observe_opener {line : List Char} {marker : Char} {length : Nat}
    (opens : Opens line marker length) (number : Nat) :
    ∃ fence : Fence, fence.marker = marker ∧ fence.length = length ∧ fence.line = number ∧
      observe none (content line) number = (some fence, true) := by
  obtain ⟨indent, info, marks, clear⟩ := opens_content_iff.mpr opens
  have found : opener? (content line) number = some { marker, length, indent, line := number } :=
    opener?_eq_some_iff.mpr ⟨rfl, info, marks, clear⟩
  exact ⟨{ marker, length, indent, line := number }, rfl, rfl, rfl, by simp only [observe, found]⟩

theorem observe_inside {fence : Fence} {line : List Char}
    (inside : ¬ Closes line fence.marker fence.length) (number : Nat) :
    observe (some fence) (content line) number = (some fence, true) := by
  have stays : ¬ fence.isClosedBy (content line) = true := fun closed =>
    inside (closes_content_iff.mp (Fence.isClosedBy_iff.mp closed))
  simp only [observe, stays, Bool.false_eq_true, if_false]

theorem observe_closer {fence : Fence} {line : List Char}
    (closes : Closes line fence.marker fence.length) (number : Nat) :
    observe (some fence) (content line) number = (none, true) := by
  have closed : fence.isClosedBy (content line) = true :=
    Fence.isClosedBy_iff.mpr (closes_content_iff.mpr closes)
  simp only [observe, closed, if_true]

/-- Lines that do not close the open fence lie in it. -/
theorem scanMarks_inside {fence : Fence} {inside : List (List Char)}
    (stays : ∀ line ∈ inside, ¬ Closes line fence.marker fence.length) (number : Nat)
    (rest : List (List Char)) :
    scanMarks (some fence) number (inside ++ rest) =
      inside.map (true, ·) ++ scanMarks (some fence) (number + inside.length) rest := by
  induction inside generalizing number with
  | nil => rfl
  | cons line inside ih =>
      have here := observe_inside (stays line List.mem_cons_self) number
      have later := ih (fun l member => stays l (List.mem_cons_of_mem line member)) (number + 1)
      simp only [List.cons_append, scanMarks, here, later, List.map_cons, List.length_cons]
      rw [Nat.add_right_comm, Nat.add_assoc]

theorem FenceMarks.eq_scanMarks {lines : List (List Char)} {marks : List (Bool × List Char)}
    (marked : FenceMarks lines marks) (number : Nat) : marks = scanMarks none number lines := by
  induction marked generalizing number with
  | nil => rfl
  | outside plain _ ih =>
      simp only [scanMarks, observe_outside plain]
      rw [← ih]
  | closed opens stays closes _ ih =>
      obtain ⟨fence, rfl, rfl, -, opened⟩ := observe_opener opens number
      simp only [scanMarks, opened, scanMarks_inside stays, observe_closer closes]
      rw [← ih]
      simp
  | unclosed opens stays =>
      obtain ⟨fence, rfl, rfl, -, opened⟩ := observe_opener opens number
      have within := scanMarks_inside stays (number + 1) []
      rw [List.append_nil] at within
      simp [scanMarks, opened, within]

theorem fenceMarks_scanMarks (number : Nat) (lines : List (List Char)) :
    FenceMarks lines (scanMarks none number lines) := by
  induction lines_length : lines.length using Nat.strongRecOn generalizing lines number with
  | _ size ih =>
      cases lines with
      | nil => exact .nil
      | cons line rest =>
          by_cases opening : ∃ marker length, Opens line marker length
          · obtain ⟨marker, length, opens⟩ := opening
            obtain ⟨fence, rfl, rfl, -, opened⟩ := observe_opener opens number
            simp only [scanMarks, opened]
            -- the fence ends at the first later line that closes it, if there is one
            cases found : rest.find? fun l => fence.isClosedBy (content l) with
            | none =>
                have stays : ∀ l ∈ rest, ¬ Closes l fence.marker fence.length :=
                  fun l member closes => List.find?_eq_none.mp found l member
                    (Fence.isClosedBy_iff.mpr (closes_content_iff.mpr closes))
                have within := scanMarks_inside stays (number + 1) []
                rw [List.append_nil] at within
                rw [within]
                simpa [scanMarks] using FenceMarks.unclosed opens stays
            | some closer =>
                obtain ⟨closed, inside, later, rfl, before⟩ :=
                  List.find?_eq_some_iff_append.mp found
                have closes : Closes closer fence.marker fence.length :=
                  closes_content_iff.mp (Fence.isClosedBy_iff.mp closed)
                have stays : ∀ l ∈ inside, ¬ Closes l fence.marker fence.length := by
                  intro l member closes
                  have still := before l member
                  rw [Fence.isClosedBy_iff.mpr (closes_content_iff.mpr closes)] at still
                  exact absurd still (by decide)
                rw [scanMarks_inside stays]
                simp only [scanMarks, observe_closer closes]
                have shorter : later.length < size := by
                  rw [← lines_length]
                  simp
                  omega
                simpa using FenceMarks.closed opens stays closes (ih _ shorter _ later rfl)
          · have plain : ∀ marker length, ¬ Opens line marker length :=
              fun marker length opens => opening ⟨marker, length, opens⟩
            simp only [scanMarks, observe_outside plain]
            exact .outside plain (ih rest.length (by simp [← lines_length]) (number + 1) rest rfl)

/-- The scan marks exactly the lines that lie in fences. -/
theorem fenceMarks_iff {lines : List (List Char)} {marks : List (Bool × List Char)}
    (number : Nat) : FenceMarks lines marks ↔ marks = scanMarks none number lines :=
  ⟨fun marked => marked.eq_scanMarks number, fun equal => equal ▸ fenceMarks_scanMarks number lines⟩

end SlideDeck.Page
