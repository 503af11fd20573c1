import Mathlib.Tactic.Common
import SlideDeck.Header

/-!
# How the header stands in a text

The search for the two fences of a header reads lines from the left and stops at the closing one, or
at the first line that is neither blank nor an opening fence. Text behind the place where it stops
only adds to the body (`readHeader_append`).
-/

namespace SlideDeck

/-- A text without the byte order mark at its start. -/
def withoutMark : List Char → List Char
  | '\uFEFF' :: rest => rest
  | source => source

/-- The line that a byte order mark makes in front of the text. -/
def markLine : List Char → List (List Char)
  | '\uFEFF' :: _ => [['\uFEFF']]
  | _ => []

theorem frame_eq (source : List Char) :
    frame source = frameOpening (markLine source) (Text.lines (withoutMark source)) := by
  cases source with
  | nil => rfl
  | cons c rest => by_cases mark : c = '\uFEFF' <;> simp [frame, markLine, withoutMark, mark]

theorem markLine_append {source : List Char} (source_ne : source ≠ []) (more : List Char) :
    markLine (source ++ more) = markLine source := by
  obtain ⟨c, rest, rfl⟩ := List.exists_cons_of_ne_nil source_ne
  unfold markLine
  by_cases mark : c = '\uFEFF' <;> simp [mark]

theorem withoutMark_append {source : List Char} (source_ne : source ≠ []) (more : List Char) :
    withoutMark (source ++ more) = withoutMark source ++ more := by
  obtain ⟨c, rest, rfl⟩ := List.exists_cons_of_ne_nil source_ne
  unfold withoutMark
  by_cases mark : c = '\uFEFF' <;> simp [mark]

theorem reverse_markLine (source : List Char) : (markLine source).reverse = markLine source := by
  unfold markLine
  split <;> rfl

/-- The byte order mark and the rest make up the text. -/
theorem flatten_markLine_append (source : List Char) :
    (markLine source).flatten ++ withoutMark source = source := by
  unfold markLine withoutMark
  split <;> rfl

/-- A text that ends in a line feed still does without its byte order mark. -/
theorem ends_withoutMark {source : List Char} (ends : ∀ c ∈ source.getLast?, c = '\n') :
    ∀ c ∈ (withoutMark source).getLast?, c = '\n' := by
  intro c last
  apply ends c
  rw [← flatten_markLine_append source, List.getLast?_append]
  simp_all

theorem frameClosing_append {block header : List (List Char)} {lines : List (List Char)}
    {text front body : List Char} (found : frameClosing block header lines = .found text front body)
    (more : List (List Char)) :
    frameClosing block header (lines ++ more) = .found text front (body ++ more.flatten) := by
  induction lines generalizing block header with
  | nil => simp [frameClosing] at found
  | cons line rest ih =>
      simp only [List.cons_append, frameClosing] at found ⊢
      split_ifs at found ⊢ with fence
      · simp only [Framing.found.injEq] at found
        obtain ⟨rfl, rfl, rfl⟩ := found
        simp
      · exact ih found

theorem frameClosing_ne_absent (block header lines : List (List Char)) :
    frameClosing block header lines ≠ .absent := by
  induction lines generalizing block header with
  | nil => simp [frameClosing]
  | cons line rest ih =>
      simp only [frameClosing]
      split_ifs
      · simp
      · exact ih _ _

theorem frameOpening_append_found {header : List (List Char)} {lines : List (List Char)}
    {text front body : List Char} (found : frameOpening header lines = .found text front body)
    (more : List (List Char)) :
    frameOpening header (lines ++ more) = .found text front (body ++ more.flatten) := by
  induction lines generalizing header with
  | nil => simp [frameOpening] at found
  | cons line rest ih =>
      simp only [List.cons_append, frameOpening] at found ⊢
      split_ifs at found ⊢ with blank fence
      · exact ih found
      · exact frameClosing_append found more

/-- The search for a header stops at a line that is not blank, whatever stands behind it. -/
theorem frameOpening_append_absent {header : List (List Char)} {lines : List (List Char)}
    (absent : frameOpening header lines = .absent)
    (written : ∃ line ∈ lines, Text.isBlankText line = false) (more : List (List Char)) :
    frameOpening header (lines ++ more) = .absent := by
  induction lines generalizing header with
  | nil => simp at written
  | cons line rest ih =>
      simp only [List.cons_append, frameOpening] at absent ⊢
      split_ifs at absent ⊢ with blank fence
      · apply ih absent
        obtain ⟨other, member, other_written⟩ := written
        rcases List.mem_cons.mp member with rfl | member
        · rw [blank] at other_written
          cases other_written
        · exact ⟨other, member, other_written⟩
      · exact absurd absent (frameClosing_ne_absent _ _ rest)
      · rfl

theorem frameClosing_split {block header lines : List (List Char)} {text front body : List Char}
    (found : frameClosing block header lines = .found text front body) :
    header.reverse.flatten ++ lines.flatten = front ++ body := by
  induction lines generalizing block header with
  | nil => simp [frameClosing] at found
  | cons line rest ih =>
      simp only [frameClosing] at found
      split_ifs at found with fence
      · simp only [Framing.found.injEq] at found
        obtain ⟨-, rfl, rfl⟩ := found
        simp
      · simpa using ih found

theorem frameOpening_split {header lines : List (List Char)} {text front body : List Char}
    (found : frameOpening header lines = .found text front body) :
    header.reverse.flatten ++ lines.flatten = front ++ body := by
  induction lines generalizing header with
  | nil => simp [frameOpening] at found
  | cons line rest ih =>
      simp only [frameOpening] at found
      split_ifs at found with blank fence
      · simpa using ih found
      · simpa using frameClosing_split found

/-- The header and the body make up the text. -/
theorem frame_split {source text front body : List Char}
    (found : frame source = .found text front body) : source = front ++ body := by
  rw [frame_eq] at found
  have parts := frameOpening_split found
  rwa [reverse_markLine, Text.flatten_lines, flatten_markLine_append] at parts

/-- The text has a header, or a line that is not blank. -/
def Headed (source : List Char) : Prop :=
  (∃ text front body, frame source = .found text front body) ∨
    ∃ line ∈ Text.lines (withoutMark source), Text.isBlankText line = false

theorem Headed.ne_nil {source : List Char} (headed : Headed source) : source ≠ [] := by
  rintro rfl
  rcases headed with ⟨text, front, body, found⟩ | ⟨line, member, -⟩
  · simp [frame, Text.lines, frameOpening] at found
  · simp [withoutMark, Text.lines] at member

variable {yaml : String → Except String Json}

/-- A header is read where none stands, or where one is framed and says something. -/
theorem readHeader_eq_ok_iff {source : List Char} {header : Header} :
    readHeader yaml source = .ok header ↔
      frame source = .absent ∧ header = { body := source } ∨
        ∃ text front body metadata, frame source = .found text front body ∧
          readHeaderBlock yaml text = .ok metadata ∧ header = { metadata, front, body } := by
  unfold readHeader
  cases frame source with
  | absent => simp [eq_comm]
  | unterminated => simp
  | found text front body =>
      cases said : readHeaderBlock yaml text with
      | error cause => simp [bind, Except.bind, said]
      | ok metadata =>
          simp only [bind, Except.bind, said, Except.ok.injEq, reduceCtorEq, false_and, false_or,
            Framing.found.injEq]
          constructor
          · rintro rfl
            exact ⟨text, front, body, metadata, ⟨rfl, rfl, rfl⟩, said, rfl⟩
          · rintro ⟨_, _, _, _, ⟨rfl, rfl, rfl⟩, same, rfl⟩
            rw [said, Except.ok.injEq] at same
            rw [same]

/-- The header of a text stays when text is added behind its last line, and the body grows. -/
theorem readHeader_append {source : List Char} (ends : ∀ c ∈ source.getLast?, c = '\n')
    (headed : Headed source) {header : Header} (read : readHeader yaml source = .ok header)
    (more : List Char) :
    readHeader yaml (source ++ more) = .ok { header with body := header.body ++ more } := by
  have framed : frame (source ++ more) =
      frameOpening (markLine source) (Text.lines (withoutMark source) ++ Text.lines more) := by
    rw [frame_eq, markLine_append headed.ne_nil, withoutMark_append headed.ne_nil,
      Text.lines_append (ends_withoutMark ends)]
  rw [readHeader_eq_ok_iff, framed]
  rcases readHeader_eq_ok_iff.mp read with
    ⟨absent, rfl⟩ | ⟨text, front, body, metadata, found, said, rfl⟩
  · have written : ∃ line ∈ Text.lines (withoutMark source), Text.isBlankText line = false := by
      rcases headed with ⟨text, front, body, found⟩ | written
      · simp [absent] at found
      · exact written
    exact .inl ⟨frameOpening_append_absent (frame_eq source ▸ absent) written _, rfl⟩
  · refine .inr ⟨text, front, body ++ more, metadata, ?_, said, rfl⟩
    rw [frameOpening_append_found (frame_eq source ▸ found), Text.flatten_lines]

/-- The body of a text that ends in a line feed is empty or ends in one. -/
theorem ends_body {source : List Char} (ends : ∀ c ∈ source.getLast?, c = '\n') {header : Header}
    (read : readHeader yaml source = .ok header) : ∀ c ∈ header.body.getLast?, c = '\n' := by
  rcases readHeader_eq_ok_iff.mp read with ⟨-, rfl⟩ | ⟨text, front, body, metadata, found, -, rfl⟩
  · exact ends
  · intro c last
    apply ends c
    rw [frame_split found, List.getLast?_append]
    simp_all

end SlideDeck
