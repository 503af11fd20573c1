import SlideDeck.Proofs.Page.Append
import SlideDeck.Proofs.Text.Line

/-!
# Code blocks in list items

The scan of the splitter knows no containers. Of a code block that makes up a list item it does not
see the opening line, which stands behind the marker of the item, and the closing line stands behind
as many spaces as the marker and its space have columns. From four columns on the scan does not see
that line either, and the pages are cut as if the item were text; up to three columns it takes the
line for one that opens a fence, and the page goes on behind the next separator
(`splitPages_itemBlock`).
-/

namespace SlideDeck

namespace Page

/-! ## Line breaks at the end -/

/-- The line break at the end of a text, if there is one. -/
def finalBreak (text : List Char) : List Char :=
  match text.reverse with
  | '\n' :: '\r' :: _ => ['\r', '\n']
  | '\n' :: _ => ['\n']
  | _ => []

theorem textOfLines_append_finalBreak (lines : List (List Char)) :
    textOfLines lines ++ finalBreak lines.flatten = lines.flatten := by
  simp only [textOfLines, finalBreak]
  obtain ⟨s, s_eq⟩ : ∃ s, lines.flatten.reverse = s := ⟨_, rfl⟩
  have text_eq : lines.flatten = s.reverse := by rw [← s_eq, List.reverse_reverse]
  rw [s_eq, text_eq]
  split <;> simp

/-- Only the last two characters decide the line break. -/
theorem finalBreak_append {front s : List Char} (s_ne : s ≠ [])
    (front_last : front.getLast? ≠ some '\r') : finalBreak (front ++ s) = finalBreak s := by
  have front_head : front.reverse.head? ≠ some '\r' := by rwa [List.head?_reverse]
  have s_reverse_ne : s.reverse ≠ [] := mt List.reverse_eq_nil_iff.mp s_ne
  simp only [finalBreak, List.reverse_append]
  generalize s.reverse = r at s_reverse_ne ⊢
  generalize front.reverse = f at front_head ⊢
  rcases r with _ | ⟨last, _ | ⟨second, t⟩⟩
  · exact absurd rfl s_reverse_ne
  · by_cases feed : last = '\n'
    · subst feed
      rcases f with _ | ⟨c, f⟩
      · rfl
      · have c_ne : c ≠ '\r' := fun same => front_head (congrArg some same)
        simp only [List.cons_append, List.nil_append]
        split <;> simp_all
    · simp [feed]
  · by_cases feed : last = '\n'
    · subst feed
      by_cases carriage : second = '\r'
      · subst carriage
        rfl
      · simp [carriage]
    · simp [feed]

/-- A text that is empty or ends in a blank line. -/
def EndsBlank (text : List Char) : Prop :=
  text = [] ∨ ∃ front line, text = front ++ line ∧ (∀ c ∈ front.getLast?, c = '\n') ∧
    IsLine line ∧ Text.isBlankText line = true

/-! ## A code block as a list item -/

/-- The marker of a list item: a bullet, or a number and its delimiter. -/
def IsListMarker (marker : List Char) : Prop :=
  marker ∈ [['-'], ['*'], ['+']] ∨
    ∃ digits delimiter, marker = digits ++ [delimiter] ∧ digits ≠ [] ∧
      (∀ c ∈ digits, c.isDigit = true) ∧ (delimiter = '.' ∨ delimiter = ')')

/-- A code block that makes up a list item. The line that opens its fence stands behind the marker
and one space, and every later line behind as many columns of spaces. -/
structure ItemBlock where
  /-- The marker of the item. -/
  marker : List Char
  /-- The mark that the fence is made of. -/
  mark : Char
  /-- The number of marks that open the fence. -/
  length : Nat
  /-- The line that opens the fence, without the marker and its space. -/
  opener : List Char
  /-- The lines of code, without their indentation. -/
  code : List (List Char)
  /-- The line that closes the fence, without its indentation. -/
  closer : List Char
  isListMarker : IsListMarker marker
  whole : ∀ line ∈ opener :: closer :: code, IsLine line
  opens : ∃ info, MarkLine opener 0 mark length info ∧ (mark = '\x60' → '\x60' ∉ info)
  stays : ∀ line ∈ code, ¬ Closes line mark length
  plain : ∀ line ∈ code, ∀ marker count, ¬ Opens line marker count
  closes : ∃ count rest, MarkLine closer 0 mark count rest ∧ length ≤ count ∧
    ∀ c ∈ rest, Text.isBlank c

namespace ItemBlock

/-- The column in which the content of the item stands. -/
def column (block : ItemBlock) : Nat := block.marker.length + 1

/-- A line of the item behind its first one. -/
def indented (block : ItemBlock) (line : List Char) : List Char :=
  List.replicate block.column ' ' ++ line

/-- The lines of the item above its last one. -/
def above (block : ItemBlock) : List (List Char) :=
  (block.marker ++ ' ' :: block.opener) :: block.code.map block.indented

/-- The lines of the item. -/
def lines (block : ItemBlock) : List (List Char) := block.above ++ [block.indented block.closer]

/-- The text of the item. -/
def text (block : ItemBlock) : List Char := block.lines.flatten

end ItemBlock

/-! ## The lines of an item -/

theorem IsLine.behind {line : List Char} (whole : IsLine line) {front : List Char}
    (free : '\n' ∉ front) : IsLine (front ++ line) := by
  obtain ⟨content, rfl, content_free⟩ := whole
  exact ⟨front ++ content, (List.append_assoc ..).symm,
    fun member => (List.mem_append.mp member).elim free content_free⟩

/-- A marker starts with no space and no mark of a fence, and a hyphen makes it up alone. -/
theorem IsListMarker.exists_head {marker : List Char} (isMarker : IsListMarker marker) :
    ∃ c tail, marker = c :: tail ∧ (c ≠ ' ' ∧ c ≠ '\x60' ∧ c ≠ '~') ∧ (c = '-' → tail = []) := by
  rcases isMarker with bullet | ⟨digits, delimiter, rfl, digits_ne, digit, -⟩
  · simp only [List.mem_cons, List.not_mem_nil, or_false] at bullet
    rcases bullet with rfl | rfl | rfl <;> exact ⟨_, [], rfl, by decide⟩
  · obtain ⟨c, rest, rfl⟩ := List.exists_cons_of_ne_nil digits_ne
    have c_digit := digit c List.mem_cons_self
    have c_ne : ∀ d : Char, d.isDigit = false → c ≠ d := by
      rintro d other rfl
      rw [c_digit] at other
      cases other
    exact ⟨c, rest ++ [delimiter], rfl,
      ⟨c_ne _ (by decide), c_ne _ (by decide), c_ne _ (by decide)⟩,
      fun hyphen => absurd hyphen (c_ne _ (by decide))⟩

theorem IsListMarker.one_line {marker : List Char} (isMarker : IsListMarker marker) :
    '\n' ∉ marker := by
  rcases isMarker with bullet | ⟨digits, delimiter, rfl, -, digit, delimiter_eq⟩
  · simp only [List.mem_cons, List.not_mem_nil, or_false] at bullet
    rcases bullet with rfl | rfl | rfl <;> decide
  · intro member
    rcases List.mem_append.mp member with member | member
    · exact absurd (digit _ member) (by decide)
    · rw [List.mem_singleton] at member
      rcases delimiter_eq with rfl | rfl <;> cases member

theorem ItemBlock.isLine_of_mem_lines (block : ItemBlock) : ∀ line ∈ block.lines, IsLine line := by
  obtain ⟨opener, rest⟩ := List.forall_mem_cons.mp block.whole
  obtain ⟨closer, code⟩ := List.forall_mem_cons.mp rest
  have indented : ∀ line, IsLine line → IsLine (block.indented line) :=
    fun line whole => whole.behind (by simp [List.mem_replicate])
  have first : IsLine (block.marker ++ ' ' :: block.opener) := by
    rw [List.append_cons]
    exact opener.behind (by simpa using block.isListMarker.one_line)
  refine List.forall_mem_append.mpr ⟨List.forall_mem_cons.mpr ⟨first, fun line member => ?_⟩,
    List.forall_mem_singleton.mpr (indented _ closer)⟩
  obtain ⟨inner, held, rfl⟩ := List.mem_map.mp member
  exact indented inner (code inner held)

theorem ItemBlock.getLast?_text (block : ItemBlock) : block.text.getLast? = some '\n' := by
  have last : block.closer.getLast? = some '\n' := (block.whole block.closer (by simp)).getLast?_eq
  simp [ItemBlock.text, ItemBlock.lines, ItemBlock.indented, List.getLast?_append, last]

theorem ItemBlock.text_ne_nil (block : ItemBlock) : block.text ≠ [] := by
  intro empty
  simpa [empty] using block.getLast?_text

/-- Spaces in front of a line make it open no fence, and at least four of them hide one. -/
theorem opens_of_indented {k : Nat} {line : List Char} {marker : Char} {length : Nat}
    (opens : Opens (List.replicate k ' ' ++ line) marker length) :
    k ≤ 3 ∧ Opens line marker length := by
  obtain ⟨indent, info, ⟨shape, marker_eq, three_le, indent_le, maximal⟩, clear⟩ := opens
  have enough : k ≤ indent := by
    by_contra short
    have there := congrArg (·[indent]?) shape
    have in_spaces : indent < k := by omega
    have in_marks : 0 < length := by omega
    simp [List.getElem?_append, in_spaces, in_marks] at there
    rcases marker_eq with rfl | rfl <;> simp at there
  obtain ⟨more, rfl⟩ := Nat.exists_eq_add_of_le enough
  rw [← List.replicate_append_replicate, List.append_assoc, List.append_cancel_left_eq] at shape
  exact ⟨by omega, more, info, ⟨shape, marker_eq, three_le, by omega, maximal⟩, clear⟩

theorem MarkLine.indented {k : Nat} {line rest : List Char} {marker : Char} {length : Nat}
    (marks : MarkLine line 0 marker length rest) (narrow : k ≤ 3) :
    MarkLine (List.replicate k ' ' ++ line) k marker length rest := by
  obtain ⟨rfl, marker_eq, three_le, -, maximal⟩ := marks
  exact ⟨rfl, marker_eq, three_le, narrow, maximal⟩

theorem isSeparator_indented {k : Nat} (positive : 0 < k) (line : List Char) :
    isSeparator (List.replicate k ' ' ++ line) = false := by
  obtain ⟨k, rfl⟩ : ∃ n, k = n + 1 := ⟨k - 1, by omega⟩
  refine Bool.eq_false_iff.mpr fun separator => ?_
  obtain ⟨tail, split⟩ := exists_of_isSeparator separator
  simp [List.replicate_succ] at split

theorem IsListMarker.isPlain {marker : List Char} (isMarker : IsListMarker marker)
    (line : List Char) : IsPlain (marker ++ ' ' :: line) := by
  obtain ⟨c, tail, rfl, other, alone⟩ := isMarker.exists_head
  refine ⟨?_, Bool.eq_false_iff.mpr fun separator => ?_⟩
  · rintro mark length ⟨indent, info, marks, -⟩
    exact not_markLine_cons other _ _ _ _ _ marks
  · obtain ⟨rest, split⟩ := exists_of_isSeparator separator
    obtain ⟨rfl, split⟩ := List.cons.inj split
    simp [alone rfl] at split

namespace ItemBlock

variable (block : ItemBlock) {separator : List Char} (number : Nat) (behind : List (List Char))

theorem isPlain_of_mem_above : ∀ line ∈ block.above, IsPlain line := by
  refine List.forall_mem_cons.mpr ⟨block.isListMarker.isPlain _, fun line member => ?_⟩
  obtain ⟨inner, held, rfl⟩ := List.mem_map.mp member
  exact ⟨fun mark length opens => block.plain inner held _ _ (opens_of_indented opens).2,
    isSeparator_indented (Nat.succ_pos _) inner⟩

/-- A wide item is text to the scan. -/
theorem segments_wide (wide : 4 ≤ block.column) (separates : isSeparator separator = true) :
    segments none number (block.lines ++ separator :: behind) =
      { first := block.lines
        others := (segments none (number + block.lines.length + 1) behind).all
          (number + block.lines.length + 1)
        fence := (segments none (number + block.lines.length + 1) behind).fence } := by
  have closer_plain : IsPlain (block.indented block.closer) := by
    refine ⟨fun mark length opens => ?_, isSeparator_indented (Nat.succ_pos _) _⟩
    have narrow := (opens_of_indented opens).1
    omega
  have plain : ∀ line ∈ block.lines, IsPlain line :=
    List.forall_mem_append.mpr
      ⟨block.isPlain_of_mem_above, List.forall_mem_singleton.mpr closer_plain⟩
  rw [segments_plain plain, segments_separator separates]
  simp

/-- The line that closes a narrow item opens a fence for the scan, and the separator lies in it. -/
theorem segments_narrow (narrow : block.column ≤ 3) (separates : isSeparator separator = true) :
    ∃ more, (segments none number (block.lines ++ separator :: behind)).first =
      block.lines ++ separator :: more := by
  obtain ⟨count, rest, marks, -, blank⟩ := block.closes
  have opens : Opens (block.indented block.closer) block.mark count := by
    refine ⟨block.column, rest, marks.indented narrow, fun tick member => ?_⟩
    exact absurd (blank _ member) (by decide)
  obtain ⟨fence, -, -, -, opened⟩ := observe_opener opens (number + block.above.length)
  have stays := observe_inside (not_closes_of_isSeparator separates fence.marker fence.length)
  rw [lines, List.append_assoc, segments_plain block.isPlain_of_mem_above]
  simp only [List.singleton_append, segments, opened, stays, Bool.not_true, Bool.false_and,
    Bool.false_eq_true, if_false, Segments.push]
  exact ⟨_, List.append_cons ..⟩

end ItemBlock

/-! ## The page that an item stands on -/

theorem textOfLines_append {front lines : List (List Char)} (lines_ne : lines.flatten ≠ [])
    (front_last : front.flatten.getLast? ≠ some '\r') :
    textOfLines (front ++ lines) = front.flatten ++ textOfLines lines := by
  have joined := textOfLines_append_finalBreak (front ++ lines)
  rw [List.flatten_append, finalBreak_append lines_ne front_last] at joined
  have same : textOfLines (front ++ lines) ++ finalBreak lines.flatten =
      front.flatten ++ textOfLines lines ++ finalBreak lines.flatten := by
    rw [joined, List.append_assoc, textOfLines_append_finalBreak]
  exact List.append_cancel_right same

theorem EndsBlank.ends {text : List Char} (blank : EndsBlank text) :
    ∀ c ∈ text.getLast?, c = '\n' := by
  rcases blank with rfl | ⟨front, line, rfl, -, whole, -⟩
  · simp
  · intro c last
    rw [List.getLast?_append, whole.getLast?_eq] at last
    exact (Option.some.inj last).symm

theorem not_isSeparator_of_blank {line : List Char} (blank : Text.isBlankText line = true) :
    isSeparator line = false := by
  refine Bool.eq_false_iff.mpr fun separator => ?_
  obtain ⟨tail, rfl⟩ := exists_of_isSeparator separator
  exact absurd (List.all_eq_true.mp blank '-' List.mem_cons_self) (by decide)

/-- The last segment of a text that ends in a blank line has the line break of the text. -/
theorem EndsBlank.last_segment {text : List Char} (blank : EndsBlank text) {fence : Option Fence}
    {start number : Nat} {front : List (Nat × List (List Char))} {last : Nat × List (List Char)}
    (all_eq : (segments fence number (Text.lines text)).all start = front ++ [last]) :
    last.2.flatten = textOfLines last.2 ++ finalBreak text ∧
      last.2.flatten.getLast? ≠ some '\r' := by
  rcases blank with rfl | ⟨before, line, rfl, ends, whole, blank⟩
  · have last_eq : last = (start, []) := by
      have tail := congrArg List.getLast? all_eq
      simpa [Segments.all, Text.lines, segments, eq_comm] using tail
    simp [last_eq, textOfLines, finalBreak]
  · -- the blank line stands at the end of the last segment, behind other lines of the text
    have lines_eq : Text.lines (before ++ line) = Text.lines before ++ [line] := by
      have alone := lines_line_append whole []
      rw [List.append_nil] at alone
      rw [Text.lines_append ends, alone]
      rfl
    obtain ⟨front', last', -, held, all_append, -⟩ := all_segments_append rfl start [line]
    rw [lines_eq, all_append] at all_eq
    simp only [segments, not_isSeparator_of_blank blank, Bool.and_false, Bool.false_eq_true,
      if_false, Segments.push] at all_eq
    obtain ⟨-, last_eq⟩ := List.append_inj' all_eq rfl
    obtain rfl := List.singleton_inj.mp last_eq
    have flatten_ends : ∀ c ∈ last'.2.flatten.getLast?, c = '\n' :=
      getLast?_flatten_of_forall fun l member => getLast?_of_mem_lines ends l (held l member)
    have no_return : ∀ {s : List Char}, (∀ c ∈ s.getLast?, c = '\n') → s.getLast? ≠ some '\r' :=
      fun all last => absurd (all _ last) (by decide)
    have line_ne : line ≠ [] := by
      rintro rfl
      cases whole.getLast?_eq
    have flatten_eq : (last'.2 ++ [line]).flatten = last'.2.flatten ++ line := by simp
    have breaks : finalBreak (before ++ line) = finalBreak (last'.2 ++ [line]).flatten := by
      rw [flatten_eq, finalBreak_append line_ne (no_return ends),
        finalBreak_append line_ne (no_return flatten_ends)]
    refine ⟨?_, ?_⟩
    · rw [breaks]
      exact (textOfLines_append_finalBreak _).symm
    · simp [flatten_eq, List.getLast?_append, whole.getLast?_eq]

/-- Text behind a blank line goes on with the page of that line. -/
theorem exists_pages_append {before more : List Char} {firstLine : Nat} (blank : EndsBlank before)
    (closed : (splitPages before firstLine).warnings = []) {scan : Segments}
    (scan_eq : segments none (firstLine + (Text.lines before).length) (Text.lines more) = scan)
    (first_ne : scan.first.flatten ≠ []) :
    ∃ front last,
      (splitPages before firstLine).pages = front ++ [last] ∧
      (splitPages (before ++ more) firstLine).pages =
        front ++ { last with text := last.text ++ finalBreak before ++ textOfLines scan.first } ::
          number (front.length + 2) scan.others ∧
      ((splitPages (before ++ more) firstLine).warnings = [] ↔ scan.fence = none) := by
  obtain ⟨front, last, all_eq, -, all_append, fence_eq⟩ := all_segments_append
    (warnings_splitPages_eq_nil_iff.mp closed) firstLine (Text.lines more)
  obtain ⟨last_eq, no_return⟩ := blank.last_segment all_eq
  rw [← Text.lines_append blank.ends, scan_eq] at all_append fence_eq
  have before_pages : (splitPages before firstLine).pages = number 1 (front ++ [last]) :=
    congrArg (number 1) all_eq
  have whole_pages : (splitPages (before ++ more) firstLine).pages =
      number 1 (front ++ (last.1, last.2 ++ scan.first) :: scan.others) :=
    congrArg (number 1) all_append
  refine ⟨number 1 front, _, before_pages.trans (number_append 1 front [last]), ?_, ?_⟩
  · rw [whole_pages, number_append, length_number, ← last_eq]
    simp only [number, textOfLines_append first_ne no_return]
    rw [Nat.add_comm 1, Nat.add_assoc]
  · rw [warnings_splitPages_eq_nil_iff, fence_eq]

/-- The text without its final break keeps the hyphens of a separator. -/
theorem separator_prefix_textOfLines {separator : List Char}
    (separates : isSeparator separator = true) (more : List (List Char)) :
    ['-', '-', '-'] <+: textOfLines (separator :: more) := by
  obtain ⟨tail, rfl⟩ := exists_of_isSeparator separates
  have cut : textOfLines (('-' :: '-' :: '-' :: tail) :: more) =
      textOfLines ([['-', '-', '-']] ++ tail :: more) := by simp [textOfLines]
  by_cases rest_eq : (tail :: more).flatten = []
  · rw [List.flatten_cons] at rest_eq
    simp only [textOfLines, List.flatten_cons, List.cons_append, rest_eq]
    decide
  · rw [cut, textOfLines_append rest_eq (by decide)]
    exact List.prefix_append ..

theorem ItemBlock.text_append_prefix (block : ItemBlock) {separator : List Char}
    (separates : isSeparator separator = true) (more : List (List Char)) :
    block.text ++ ['-', '-', '-'] <+: textOfLines (block.lines ++ separator :: more) := by
  have separator_ne : (separator :: more).flatten ≠ [] := by
    obtain ⟨tail, rfl⟩ := exists_of_isSeparator separates
    simp
  have last_ne : block.lines.flatten.getLast? ≠ some '\r' := by
    rw [← ItemBlock.text, block.getLast?_text]
    decide
  rw [textOfLines_append separator_ne last_ne]
  exact (List.prefix_append_right_inj _).mpr (separator_prefix_textOfLines separates more)

end Page

open Page

/-- What becomes of the text `before`, a code block as a list item, a separator and the text
`behind`. The page that `before` ends with goes on with the item. If the item is wide, its code
block ends there: the page ends with the item, the pages of `behind` follow, and there is a warning
exactly if `behind` has one. If it is narrow, its last line opens a fence, and the separator stands
on the same page. -/
theorem splitPages_itemBlock (block : ItemBlock) {before separator : List Char} {firstLine : Nat}
    (blank : EndsBlank before) (closed : (splitPages before firstLine).warnings = [])
    (whole : IsLine separator) (separates : isSeparator separator = true) (behind : List Char) :
    let deck := splitPages (before ++ (block.text ++ (separator ++ behind))) firstLine
    let alone := splitPages behind
      (firstLine + (Text.lines before).length + block.lines.length + 1)
    ∃ front last text rest,
      (splitPages before firstLine).pages = front ++ [last] ∧
      deck.pages = front ++ { last with text := last.text ++ finalBreak before ++ text } :: rest ∧
      (4 ≤ block.column →
        WithoutFinalBreak block.text text ∧
        rest = alone.pages.map (RawPage.reindex (front.length + 1)) ∧
        (deck.warnings = [] ↔ alone.warnings = [])) ∧
      (block.column ≤ 3 → block.text ++ ['-', '-', '-'] <+: text) := by
  intro deck alone
  have lines_eq : Text.lines (block.text ++ (separator ++ behind)) =
      block.lines ++ separator :: Text.lines behind := by
    rw [ItemBlock.text, lines_flatten_append block.isLine_of_mem_lines, lines_line_append whole]
  rcases Nat.lt_or_ge 3 block.column with wide | narrow
  · have scan := block.segments_wide (firstLine + (Text.lines before).length)
      (Text.lines behind) wide separates
    rw [← lines_eq] at scan
    obtain ⟨front, last, before_pages, pages, warnings⟩ :=
      exists_pages_append blank closed scan block.text_ne_nil
    refine ⟨front, last, _, _, before_pages, pages, fun _ => ⟨textOfLines_spec block.lines, ?_, ?_⟩,
      fun narrow => by omega⟩
    · exact Nat.add_comm 1 _ ▸ number_reindex 1 (front.length + 1) _
    · exact warnings.trans warnings_splitPages_eq_nil_iff.symm
  · obtain ⟨more, scan⟩ := block.segments_narrow (firstLine + (Text.lines before).length)
      (Text.lines behind) narrow separates
    rw [← lines_eq] at scan
    have first_ne : (segments none (firstLine + (Text.lines before).length)
        (Text.lines (block.text ++ (separator ++ behind)))).first.flatten ≠ [] := by
      rw [scan, List.flatten_append]
      exact List.append_ne_nil_of_left_ne_nil block.text_ne_nil _
    obtain ⟨front, last, before_pages, pages, -⟩ := exists_pages_append blank closed rfl first_ne
    refine ⟨front, last, _, _, before_pages, pages, fun wide => by omega, fun _ => ?_⟩
    exact scan ▸ block.text_append_prefix separates more

/-- A code block of one line behind the marker. -/
def Page.ItemBlock.short (marker : List Char) (isListMarker : IsListMarker marker) : ItemBlock where
  marker
  mark := '\x60'
  length := 3
  opener := "```\n".toList
  code := ["x\n".toList]
  closer := "```\n".toList
  isListMarker
  whole := by
    have ticks : IsLine "```\n".toList := ⟨"```".toList, by decide, by decide⟩
    have letter : IsLine "x\n".toList := ⟨['x'], by decide, by decide⟩
    intro line member
    rcases List.mem_cons.mp member with rfl | member
    · exact ticks
    · rcases List.mem_cons.mp member with rfl | member
      · exact ticks
      · exact List.mem_singleton.mp member ▸ letter
  opens := ⟨['\n'], ⟨by decide, .inl rfl, by decide, by decide, by decide⟩, by decide⟩
  stays := by
    rintro line member ⟨indent, count, rest, marks, -⟩
    obtain rfl := List.mem_singleton.mp member
    exact not_markLine_cons (by decide) _ _ _ _ _ marks
  plain := by
    rintro line member marker count ⟨indent, info, marks, -⟩
    obtain rfl := List.mem_singleton.mp member
    exact not_markLine_cons (by decide) _ _ _ _ _ marks
  closes := ⟨3, ['\n'], ⟨by decide, .inl rfl, by decide, by decide, by decide⟩, by decide,
    List.forall_mem_singleton.mpr (by decide)⟩

theorem splitPages_itemBlock_numbered :
    let before := "A\n\n".toList
    let block := ItemBlock.short "10.".toList
      (.inr ⟨['1', '0'], '.', rfl, by simp, by simp, .inl rfl⟩)
    let deck := splitPages (before ++ (block.text ++ ("---\n".toList ++ "B\n".toList))) 1
    EndsBlank before ∧ (splitPages before 1).warnings = [] ∧ IsLine "---\n".toList ∧
      isSeparator "---\n".toList = true ∧ 4 ≤ block.column ∧
      deck.pages.length = 2 ∧ deck.warnings = [] := by
  intro before block deck
  have blank : EndsBlank before :=
    .inr ⟨"A\n".toList, ['\n'], by decide, by simp, ⟨[], rfl, by simp⟩, by decide⟩
  have line : IsLine "---\n".toList := ⟨"---".toList, by decide, by decide⟩
  obtain ⟨front, last, text, rest, before_pages, pages, wide, -⟩ :=
    splitPages_itemBlock block blank (by decide : (splitPages before 1).warnings = []) line
      (by decide) "B\n".toList
  obtain ⟨-, rest_eq, warnings⟩ := wide (by decide)
  refine ⟨blank, by decide, line, by decide, by decide, ?_, warnings.mpr (by decide)⟩
  have one : (front ++ [last]).length = 1 := before_pages ▸ by decide
  rw [List.length_append, List.length_singleton] at one
  rw [show deck.pages = _ from pages, List.length_append, List.length_cons, rest_eq,
    List.length_map]
  have behind_one : (splitPages "B\n".toList
      (1 + (Text.lines before).length + block.lines.length + 1)).pages.length = 1 := by decide
  omega

/-- The page goes on behind the separator, and a fence is open that nobody wrote. -/
theorem splitPages_itemBlock_bullet :
    let block := ItemBlock.short ['-'] (.inl (by decide))
    let deck := splitPages (block.text ++ ("---\n".toList ++ "B\n".toList)) 1
    block.text = "- ```\n  x\n  ```\n".toList ∧
      deck.pages.map RawPage.text = ["- ```\n  x\n  ```\n---\nB".toList] ∧ deck.warnings ≠ [] := by
  decide

end SlideDeck
