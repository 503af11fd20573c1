import SlideDeck.Proofs.Header.Fences
import SlideDeck.Proofs.Page.Append

/-!
# Byte order marks

The search for a header passes over a byte order mark, so a mark in front of a deck with a header
stands in the text of the header and changes nothing. Without a header it stays in the body, where
the scan of the splitter takes it for text: behind it the first line neither opens a fence nor
separates pages, whatever it does without the mark (`segments_marked`). A deck with a mark is paged
as the deck itself, unless it has no header and its first line is a fence or a separator
(`paged_marked`).
-/

namespace SlideDeck

/-- What the header of a deck says, and the pages of its body. -/
def paged (yaml : String → Except String Json) (source : List Char) :
    Except HeaderError (Metadata × PageSplit) :=
  (readHeader yaml source).map fun header =>
    (header.metadata, splitPages header.body header.bodyLine)

/-! ## The header -/

/-- The framing with text in front of the header. -/
def Framing.behind (front : List Char) : Framing → Framing
  | .found block header body => .found block (front ++ header) body
  | framing => framing

theorem frameClosing_concat (front : List Char) (block header lines : List (List Char)) :
    frameClosing block (header ++ [front]) lines =
      (frameClosing block header lines).behind front := by
  induction lines generalizing block header with
  | nil => rfl
  | cons line rest ih =>
      simp only [frameClosing]
      split_ifs
      · simp [Framing.behind]
      · exact ih (line :: block) (line :: header)

theorem frameOpening_concat (front : List Char) (header lines : List (List Char)) :
    frameOpening (header ++ [front]) lines = (frameOpening header lines).behind front := by
  induction lines generalizing header with
  | nil => rfl
  | cons line rest ih =>
      simp only [frameOpening]
      split_ifs
      · exact ih (line :: header)
      · exact frameClosing_concat front [] (line :: header) rest
      · rfl

theorem frame_marked {source : List Char} (unmarked : source.head? ≠ some '\uFEFF') :
    frame ('\uFEFF' :: source) = (frame source).behind ['\uFEFF'] := by
  have no_mark : markLine source = [] := by
    unfold markLine
    split
    · exact absurd rfl unmarked
    · rfl
  rw [frame_eq source, no_mark, withoutMark_of_head? unmarked]
  exact frameOpening_concat ['\uFEFF'] [] (Text.lines source)

section

variable (yaml : String → Except String Json)

theorem paged_of_absent {source : List Char} (absent : frame source = .absent) :
    paged yaml source = .ok ([], splitPages source 1) := by
  rw [paged, readHeader, absent]
  rfl

/-- A mark in front of a header that is opened changes nothing. -/
theorem paged_marked_of_ne_absent {source : List Char}
    (unmarked : source.head? ≠ some '\uFEFF') (opened : frame source ≠ .absent) :
    paged yaml ('\uFEFF' :: source) = paged yaml source := by
  have framed := frame_marked unmarked
  cases framing : frame source with
  | absent => exact absurd framing opened
  | unterminated =>
      rw [framing] at framed
      rw [paged, paged, readHeader_eq_unterminated_iff.mpr framing,
        readHeader_eq_unterminated_iff.mpr framed]
  | found block front body =>
      rw [framing] at framed
      rw [paged, paged, readHeader_of_found framing, readHeader_of_found framed]
      cases readHeaderBlock yaml block with
      | error cause => rfl
      | ok metadata => simp [Except.map, Header.bodyLine, Text.countBreaks]

end

/-! ## The pages -/

namespace Page

/-- A line that starts with a character that is no space, no mark and no hyphen is plain. -/
theorem isPlain_cons {c : Char} (other : c ≠ ' ' ∧ c ≠ '\x60' ∧ c ≠ '~') (no_hyphen : c ≠ '-')
    (line : List Char) : IsPlain (c :: line) := by
  refine ⟨?_, Bool.eq_false_iff.mpr fun separator => ?_⟩
  · rintro mark length ⟨indent, info, marks, -⟩
    exact not_markLine_cons other line indent mark length info marks
  · obtain ⟨tail, split⟩ := exists_of_isSeparator separator
    exact no_hyphen (List.cons.inj split).1

/-- The final break of a text is that of the text behind its first character. -/
theorem textOfLines_cons {c : Char} (no_return : c ≠ '\r') (no_feed : c ≠ '\n')
    (line : List Char) (lines : List (List Char)) :
    textOfLines ((c :: line) :: lines) = c :: textOfLines (line :: lines) := by
  have last_ne : ∀ {d : Char} {text : List Char}, c ≠ d → text.getLast? ≠ some d →
      (c :: text).getLast? ≠ some d := by
    intro d text c_ne text_last
    cases text with
    | nil => simpa using c_ne
    | cons first text => rwa [List.getLast?_cons_cons]
  apply textOfLines_eq
  rw [List.flatten_cons, List.cons_append, ← List.flatten_cons]
  rcases textOfLines_spec (line :: lines) with cut | ⟨cut, last⟩ | ⟨cut, last⟩
  · exact .inl (congrArg (c :: ·) cut)
  · exact .inr (.inl ⟨congrArg (c :: ·) cut, last_ne no_return last⟩)
  · exact .inr (.inr ⟨congrArg (c :: ·) cut, last_ne no_feed last⟩)

theorem lines_marked {source line : List Char} {rest : List (List Char)}
    (lines_eq : Text.lines source = line :: rest) :
    Text.lines ('\uFEFF' :: source) = ('\uFEFF' :: line) :: rest := by
  simp [Text.lines, lines_eq]

theorem segments_plain_cons {line : List Char} (plain : IsPlain line) (number : Nat)
    (rest : List (List Char)) :
    segments none number (line :: rest) = (segments none (number + 1) rest).push line :=
  segments_plain (List.forall_mem_singleton.mpr plain) number rest

/-- Behind a mark the first line is text. -/
theorem segments_marked {source line : List Char} {rest : List (List Char)}
    (lines_eq : Text.lines source = line :: rest) (number : Nat) :
    segments none number (Text.lines ('\uFEFF' :: source)) =
      (segments none (number + 1) rest).push ('\uFEFF' :: line) := by
  rw [lines_marked lines_eq]
  exact segments_plain_cons (isPlain_cons (by decide) (by decide) line) number rest

end Page

open Page

/-- The pages with a mark in front of the text of the first one. -/
def PageSplit.marked (split : PageSplit) : PageSplit :=
  { split with
    pages := split.pages.modifyHead fun page => { page with text := '\uFEFF' :: page.text } }

theorem splitPages_marked {source : List Char}
    (plain : ∀ line ∈ (Text.lines source).head?, IsPlain line) (firstLine : Nat) :
    splitPages ('\uFEFF' :: source) firstLine = (splitPages source firstLine).marked := by
  cases lines_eq : Text.lines source with
  | nil =>
      have source_nil : source = [] := by
        by_contra source_ne
        exact Text.lines_ne_nil source_ne lines_eq
      subst source_nil
      rfl
  | cons line rest =>
      have line_plain : IsPlain line := plain line (by rw [lines_eq]; rfl)
      have scan := segments_marked lines_eq firstLine
      simp only [splitPages, scan, lines_eq, segments_plain_cons line_plain, PageSplit.marked,
        Segments.push, number, List.modifyHead_cons, List.length_cons,
        textOfLines_cons (c := '\uFEFF') (by decide) (by decide)]

/-- A byte order mark changes how a deck is paged only by making text of the first line. A deck with
a header, and one whose header is not closed or not read, is paged with a mark as without it. A deck
without a header is paged in the same way apart from the mark in the text of the first page, if the
first line neither opens a fence nor separates pages. Whatever that line is, the scan takes it for
text behind the mark; if it separates pages, the mark joins the two. -/
theorem paged_marked (yaml : String → Except String Json) {source : List Char}
    (unmarked : source.head? ≠ some '\uFEFF') :
    (frame source ≠ .absent → paged yaml ('\uFEFF' :: source) = paged yaml source) ∧
    (frame source = .absent →
      paged yaml source = .ok ([], splitPages source 1) ∧
      paged yaml ('\uFEFF' :: source) = .ok ([], splitPages ('\uFEFF' :: source) 1) ∧
      ((∀ line ∈ (Text.lines source).head?, IsPlain line) →
        splitPages ('\uFEFF' :: source) 1 = (splitPages source 1).marked) ∧
      ∀ line rest, Text.lines source = line :: rest →
        segments none 1 (Text.lines ('\uFEFF' :: source)) =
          (segments none 2 rest).push ('\uFEFF' :: line) ∧
        (isSeparator line = true →
          (splitPages source 1).pages.length =
            (splitPages ('\uFEFF' :: source) 1).pages.length + 1)) := by
  refine ⟨paged_marked_of_ne_absent yaml unmarked, fun absent => ⟨paged_of_absent yaml absent, ?_,
    fun plain => splitPages_marked plain 1, fun line rest lines_eq => ?_⟩⟩
  · apply paged_of_absent
    rw [frame_marked unmarked, absent]
    rfl
  · have scan := segments_marked lines_eq 1
    refine ⟨scan, fun separates => ?_⟩
    simp only [splitPages, scan, lines_eq, segments_separator separates, length_number,
      Segments.push, Segments.all, List.length_cons]

theorem paged_marked_title :
    let deck := "---\ntitle: A\n---\n---\nB\n".toList
    let page := "# A\n---\nB\n".toList
    paged Yaml.wordless ('\uFEFF' :: deck) = paged Yaml.wordless deck ∧
      paged Yaml.wordless ('\uFEFF' :: page) = .ok ([],
        { pages :=
            [{ index := 1, text := '\uFEFF' :: "# A".toList, firstLine := 1 },
              { index := 2, text := "B".toList, firstLine := 3 }]
          warnings := [] }) := by
  intro deck page
  have deck_opened : frame deck ≠ .absent := by decide +kernel
  have page_absent : frame page = .absent := by decide
  obtain ⟨-, page_marked, pages_marked, -⟩ :=
    (paged_marked Yaml.wordless (show page.head? ≠ some '\uFEFF' by decide)).2 page_absent
  have plain : ∀ line ∈ (Text.lines page).head?, IsPlain line := by
    rintro line ⟨⟩
    exact isPlain_cons (by decide) (by decide) _
  have deck_marked := paged_marked Yaml.wordless (show deck.head? ≠ some '\uFEFF' by decide)
  refine ⟨deck_marked.1 deck_opened, ?_⟩
  rw [page_marked, pages_marked plain]
  rfl

/-- A mark in front of a code block that opens on the first line: the separator in the block cuts
it, and its closing line is taken for the opening line of another. -/
theorem paged_marked_codeBlock :
    let source := "```\n---\n```\n".toList
    source.head? ≠ some '\uFEFF' ∧ frame source = .absent ∧
      paged Yaml.wordless source = .ok ([],
        { pages := [{ index := 1, text := "```\n---\n```".toList, firstLine := 1 }]
          warnings := [] }) ∧
      paged Yaml.wordless ('\uFEFF' :: source) = .ok ([],
        { pages :=
            [{ index := 1, text := '\uFEFF' :: "```".toList, firstLine := 1 },
              { index := 2, text := "```".toList, firstLine := 3 }]
          warnings := [.unclosedFence { page := some 2, line := 3, column := 1 } '\x60'] }) := by
  intro source
  have absent : frame source = .absent := by decide
  have absent_marked : frame ('\uFEFF' :: source) = .absent := by decide
  refine ⟨by decide, absent, ?_, ?_⟩
  · rw [paged_of_absent _ absent]
    rfl
  · rw [paged_of_absent _ absent_marked]
    rfl

end SlideDeck
