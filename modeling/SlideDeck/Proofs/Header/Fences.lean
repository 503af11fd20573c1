import SlideDeck.Proofs.Header.Framing
import SlideDeck.Proofs.Text.Line
import SlideDeck.Yaml.Resolve

/-!
# The fences of a header

`Framed` says how a header stands in a text, read off the lines of the text alone: the first line
that is not blank opens it if it is a fence, and the next fence closes it. The search for the header
finds exactly this (`framed_iff`). The text up to the end of the closing fence and the body behind
it meet at an offset of the text in UTF-8 (`exists_splits_bodyStart`), and a text that is written
with a header is framed as it was written (`HeadedText.framed`).
-/

namespace SlideDeck

/-- A line `---`, perhaps with carriage returns behind it. -/
def IsHeaderFence (line : List Char) : Prop :=
  ∃ returns ending, line = '-' :: '-' :: '-' :: (List.replicate returns '\r' ++ ending) ∧
    (ending = ['\n'] ∨ ending = [])

/-- The text is another one without all line breaks at its end. -/
def WithoutEndBreaks (text block : List Char) : Prop :=
  (∃ breaks, text = block ++ breaks ∧ ∀ c ∈ breaks, c = '\r' ∨ c = '\n') ∧
    ∀ c ∈ block.getLast?, c ≠ '\r' ∧ c ≠ '\n'

/-- How a header stands in a text, with one byte order mark at the start passed over. -/
inductive Framed (source : List Char) : Framing → Prop
  | absent :
      (∀ line ∈ (Text.lines (withoutMark source)).find? fun line => !Text.isBlankText line,
        ¬ IsHeaderFence line) →
      Framed source .absent
  | unterminated {blanks rest : List (List Char)} {opener : List Char} :
      Text.lines (withoutMark source) = blanks ++ opener :: rest →
      (∀ line ∈ blanks, Text.isBlankText line = true) → IsHeaderFence opener →
      (∀ line ∈ rest, ¬ IsHeaderFence line) →
      Framed source .unterminated
  | found {blanks inside behind : List (List Char)} {opener closer block : List Char} :
      Text.lines (withoutMark source) = blanks ++ opener :: (inside ++ closer :: behind) →
      (∀ line ∈ blanks, Text.isBlankText line = true) → IsHeaderFence opener →
      (∀ line ∈ inside, ¬ IsHeaderFence line) → IsHeaderFence closer →
      WithoutEndBreaks inside.flatten block →
      Framed source
        (.found block ((markLine source ++ blanks ++ opener :: (inside ++ [closer])).flatten)
          behind.flatten)

/-! ## Lines that are fences -/

theorem filter_words_append {words ending : List Char} (free : '\n' ∉ words)
    (ending_eq : ending = ['\n'] ∨ ending = []) :
    (words ++ ending).filter (fun c => c ≠ '\n') = words := by
  have all_kept : words.filter (fun c => c ≠ '\n') = words :=
    List.filter_eq_self.mpr fun c member => by
      have c_ne : c ≠ '\n' := fun same => free (same ▸ member)
      simpa using c_ne
  rcases ending_eq with rfl | rfl <;> simpa using all_kept

theorem isHeaderFence_iff {source line : List Char} (member : line ∈ Text.lines source) :
    isHeaderFence line = true ↔ IsHeaderFence line := by
  obtain ⟨words, ending, rfl, free, ending_eq⟩ := Page.exists_of_mem_lines member
  rw [isHeaderFence, filter_words_append free ending_eq, beq_iff_eq, Text.dropEndWhile_eq_iff]
  constructor
  · rintro ⟨⟨tail, rfl, returns⟩, -⟩
    have tail_eq : tail = List.replicate tail.length '\r' :=
      List.eq_replicate_of_mem fun c held => by simpa using returns c held
    exact ⟨tail.length, ending, by rw [← tail_eq]; simp, ending_eq⟩
  · rintro ⟨returns, other, shape, other_eq⟩
    have fence_free : '\n' ∉ '-' :: '-' :: '-' :: List.replicate returns '\r' := by simp
    have words_eq : words = '-' :: '-' :: '-' :: List.replicate returns '\r' := by
      rw [← filter_words_append free ending_eq, shape]
      exact filter_words_append fence_free other_eq
    exact ⟨⟨List.replicate returns '\r', words_eq, by simp⟩, by simp⟩

theorem IsHeaderFence.isBlankText_eq {line : List Char} (fence : IsHeaderFence line) :
    Text.isBlankText line = false := by
  obtain ⟨returns, ending, rfl, -⟩ := fence
  rfl

/-! ## The search for the fences -/

theorem frameOpening_blanks {blanks : List (List Char)}
    (blank : ∀ line ∈ blanks, Text.isBlankText line = true) (header rest : List (List Char)) :
    frameOpening header (blanks ++ rest) = frameOpening (blanks.reverse ++ header) rest := by
  induction blanks generalizing header with
  | nil => rfl
  | cons line blanks ih =>
      obtain ⟨here, behind⟩ := List.forall_mem_cons.mp blank
      simp [frameOpening, here, ih behind]

theorem frameClosing_inside {inside : List (List Char)}
    (plain : ∀ line ∈ inside, isHeaderFence line = false) (block header rest : List (List Char)) :
    frameClosing block header (inside ++ rest) =
      frameClosing (inside.reverse ++ block) (inside.reverse ++ header) rest := by
  induction inside generalizing block header with
  | nil => rfl
  | cons line inside ih =>
      obtain ⟨here, behind⟩ := List.forall_mem_cons.mp plain
      simp [frameClosing, here, ih behind]

theorem withoutEndBreaks_iff {text block : List Char} :
    WithoutEndBreaks text block ↔
      Text.dropEndWhile (fun c => c = '\r' || c = '\n') text = block := by
  simp [WithoutEndBreaks, Text.dropEndWhile_eq_iff]

/-- The search in a text without a line that is written. -/
theorem frame_blank {source : List Char}
    (blank : ∀ line ∈ Text.lines (withoutMark source), Text.isBlankText line = true) :
    frame source = .absent := by
  have scan := frameOpening_blanks blank (markLine source) []
  rw [List.append_nil] at scan
  rw [frame_eq, scan, frameOpening]

section Search

variable {source opener : List Char} {blanks rest : List (List Char)}
  (lines_eq : Text.lines (withoutMark source) = blanks ++ opener :: rest)

include lines_eq

theorem isHeaderFence_opener : isHeaderFence opener = true ↔ IsHeaderFence opener := by
  have member : opener ∈ Text.lines (withoutMark source) := by simp [lines_eq]
  exact isHeaderFence_iff member

theorem isHeaderFence_rest {line : List Char} (member : line ∈ rest) :
    isHeaderFence line = true ↔ IsHeaderFence line := by
  have in_lines : line ∈ Text.lines (withoutMark source) := by simp [lines_eq, member]
  exact isHeaderFence_iff in_lines

variable (blank : ∀ line ∈ blanks, Text.isBlankText line = true)

include blank

theorem frame_plain (written : Text.isBlankText opener = false) (plain : ¬ IsHeaderFence opener) :
    frame source = .absent := by
  have no_fence : isHeaderFence opener = false :=
    Bool.eq_false_iff.mpr (mt (isHeaderFence_opener lines_eq).mp plain)
  rw [frame_eq, lines_eq, frameOpening_blanks blank]
  simp [frameOpening, written, no_fence]

/-- Behind the opening fence the search goes on with the closing one. -/
theorem frame_opener (opens : IsHeaderFence opener) :
    frame source = frameClosing [] (opener :: (blanks.reverse ++ markLine source)) rest := by
  have fence : isHeaderFence opener = true := (isHeaderFence_opener lines_eq).mpr opens
  rw [frame_eq, lines_eq, frameOpening_blanks blank]
  simp [frameOpening, opens.isBlankText_eq, fence]

theorem frame_unterminated (opens : IsHeaderFence opener)
    (plain : ∀ line ∈ rest, ¬ IsHeaderFence line) : frame source = .unterminated := by
  have no_fence : ∀ line ∈ rest, isHeaderFence line = false := fun line member =>
    Bool.eq_false_iff.mpr (mt (isHeaderFence_rest lines_eq member).mp (plain line member))
  have scan := frameClosing_inside no_fence [] (opener :: (blanks.reverse ++ markLine source)) []
  rw [List.append_nil] at scan
  rw [frame_opener lines_eq blank opens, scan, frameClosing]

theorem frame_found {inside behind : List (List Char)} {closer block : List Char}
    (opens : IsHeaderFence opener) (rest_eq : rest = inside ++ closer :: behind)
    (plain : ∀ line ∈ inside, ¬ IsHeaderFence line) (closes : IsHeaderFence closer)
    (trimmed : WithoutEndBreaks inside.flatten block) :
    frame source =
      .found block (markLine source ++ blanks ++ opener :: (inside ++ [closer])).flatten
        behind.flatten := by
  have no_fence : ∀ line ∈ inside, isHeaderFence line = false := fun line member =>
    Bool.eq_false_iff.mpr
      (mt (isHeaderFence_rest lines_eq (by simp [rest_eq, member])).mp (plain line member))
  have fence : isHeaderFence closer = true :=
    (isHeaderFence_rest lines_eq (by simp [rest_eq])).mpr closes
  rw [frame_opener lines_eq blank opens, rest_eq, frameClosing_inside no_fence, frameClosing,
    if_pos fence]
  simp [← withoutEndBreaks_iff.mp trimmed, reverse_markLine]

end Search

theorem Framed.eq_frame {source : List Char} {framing : Framing} (framed : Framed source framing) :
    framing = frame source := by
  symm
  cases framed with
  | absent plain =>
      cases first : (Text.lines (withoutMark source)).find? fun line => !Text.isBlankText line with
      | none =>
          exact frame_blank fun line member => by
            simpa using List.find?_eq_none.mp first line member
      | some line =>
          obtain ⟨written, blanks, rest, lines_eq, blank⟩ :=
            List.find?_eq_some_iff_append.mp first
          exact frame_plain lines_eq (by simpa using blank) (by simpa using written)
            (plain line first)
  | unterminated lines_eq blank opens plain => exact frame_unterminated lines_eq blank opens plain
  | found lines_eq blank opens plain closes trimmed =>
      exact frame_found lines_eq blank opens rfl plain closes trimmed

/-- In every text the header stands in one of the three ways. -/
theorem exists_framed (source : List Char) : ∃ framing, Framed source framing := by
  cases first : (Text.lines (withoutMark source)).find? fun line => !Text.isBlankText line with
  | none => exact ⟨_, .absent (by simp [first])⟩
  | some opener =>
      obtain ⟨-, blanks, rest, lines_eq, blank⟩ := List.find?_eq_some_iff_append.mp first
      replace blank : ∀ line ∈ blanks, Text.isBlankText line = true := by simpa using blank
      by_cases opens : IsHeaderFence opener
      · cases next : rest.find? isHeaderFence with
        | none =>
            refine ⟨_, .unterminated lines_eq blank opens fun line member fence => ?_⟩
            exact List.find?_eq_none.mp next line member
              ((isHeaderFence_rest lines_eq member).mpr fence)
        | some closer =>
            obtain ⟨fence, inside, behind, rfl, before⟩ := List.find?_eq_some_iff_append.mp next
            have closes : IsHeaderFence closer :=
              (isHeaderFence_rest lines_eq (by simp)).mp fence
            refine ⟨_, .found lines_eq blank opens (fun line member inner => ?_) closes
              (withoutEndBreaks_iff.mpr rfl)⟩
            have still := before line member
            rw [(isHeaderFence_rest lines_eq (by simp [member])).mpr inner] at still
            exact absurd still (by decide)
      · refine ⟨_, .absent fun line found => ?_⟩
        rw [first] at found
        exact Option.some.inj found ▸ opens

/-- The search finds how the header stands. -/
theorem framed_iff {source : List Char} {framing : Framing} :
    Framed source framing ↔ framing = frame source := by
  refine ⟨Framed.eq_frame, fun equal => ?_⟩
  obtain ⟨other, framed⟩ := exists_framed source
  rw [equal, ← framed.eq_frame]
  exact framed

/-! ## Where the body starts -/

theorem byteSize_eq (s : List Char) : Text.byteSize s = (String.ofList s).utf8ByteSize := by
  have sum : ∀ (t : List Char) (size : Nat),
      t.foldl (fun size c => size + c.utf8Size) size = size + (String.ofList t).utf8ByteSize := by
    intro t
    induction t with
    | nil => simp
    | cons c t ih =>
        intro size
        rw [List.foldl_cons, ih, String.ofList_cons, String.utf8ByteSize_append,
          String.utf8ByteSize_singleton, Nat.add_assoc]
  simpa [Text.byteSize] using sum s 0

section

variable {yaml : String → Except String Json}

theorem readHeader_split {source : List Char} {header : Header}
    (read : readHeader yaml source = .ok header) : source = header.front ++ header.body := by
  rcases readHeader_eq_ok_iff.mp read with ⟨-, rfl⟩ | ⟨text, front, body, metadata, found, -, rfl⟩
  · rfl
  · exact frame_split found

/-- What a header that is read says about the body. -/
theorem exists_readHeader (yaml : String → Except String Json) (source body : List Char)
    (bodyLine : Nat)
    (parts : (readHeader yaml source).toOption.map (fun header => (header.body, header.bodyLine)) =
      some (body, bodyLine)) :
    ∃ header, readHeader yaml source = .ok header ∧ header.body = body ∧
      header.bodyLine = bodyLine := by
  cases read : readHeader yaml source with
  | error cause => simp [read, Except.toOption] at parts
  | ok header => exact ⟨header, rfl, by simpa [read, Except.toOption] using parts⟩

/-- The header and the body meet between two characters of the text in UTF-8. -/
theorem exists_splits_bodyStart {source : List Char} {header : Header}
    (read : readHeader yaml source = .ok header) :
    ∃ position : (String.ofList source).Pos,
      position.offset.byteIdx = header.bodyStart ∧
      position.Splits (String.ofList header.front) (String.ofList header.body) := by
  have joined : String.ofList source = String.ofList header.front ++ String.ofList header.body := by
    rw [← String.ofList_append, ← readHeader_split read]
  have valid : (String.ofList header.front).rawEndPos.IsValid (String.ofList source) :=
    String.Pos.Raw.isValid_iff_exists_append.mpr ⟨_, _, joined, rfl⟩
  exact ⟨⟨_, valid⟩, (byteSize_eq header.front).symm, ⟨joined, rfl⟩⟩

/-- The header of a deck ends in a line feed, unless nothing stands behind it. -/
theorem ends_front {source : List Char} {header : Header}
    (read : readHeader yaml source = .ok header) (body_ne : header.body ≠ []) :
    ∀ c ∈ header.front.getLast?, c = '\n' := by
  rcases readHeader_eq_ok_iff.mp read with ⟨-, rfl⟩ | ⟨text, front, body, metadata, found, -, rfl⟩
  · simp
  · cases framed_iff.mpr found.symm with
    | @found blanks inside behind opener closer block lines_eq =>
        have behind_ne : behind ≠ [] := fun none_left => body_ne (by rw [none_left]; rfl)
        obtain ⟨next, behind, rfl⟩ := List.exists_cons_of_ne_nil behind_ne
        have lines_eq' : Text.lines (withoutMark source) =
            (blanks ++ opener :: (inside ++ [closer])) ++ next :: behind := by
          rw [lines_eq]
          simp
        have whole : Page.IsLine closer := (Page.isLine_of_lines_eq lines_eq').1 closer (by simp)
        intro c last
        simpa [List.getLast?_append, whole.getLast?_eq, eq_comm] using last

theorem lines_source {source : List Char} {header : Header}
    (read : readHeader yaml source = .ok header) (body_ne : header.body ≠ []) :
    Text.lines source = Text.lines header.front ++ Text.lines header.body ∧
      (Text.lines header.front).length = Text.countBreaks header.front := by
  have ends := ends_front read body_ne
  exact ⟨by rw [← Text.lines_append ends, ← readHeader_split read], Page.length_lines ends⟩

end

/-! ## Texts that are written with a header -/

/-- A text that is written with a header. -/
structure HeadedText where
  /-- A byte order mark, or nothing. -/
  mark : List Char
  /-- Blank lines. -/
  blanks : List Char
  /-- The line that opens the header. -/
  opener : List Char
  /-- What the header says. -/
  yaml : List Char
  /-- The line break behind it. -/
  gap : List Char
  /-- The line that closes the header. -/
  closer : List Char
  /-- What stands behind the header. -/
  body : List Char
  mark_eq : mark = ['\uFEFF'] ∨ mark = []
  blank : Text.isBlankText blanks = true
  blanks_end : ∀ c ∈ blanks.getLast?, c = '\n'
  opens : IsHeaderFence opener
  opener_end : opener.getLast? = some '\n'
  plain : ∀ line ∈ Text.lines yaml, ¬ IsHeaderFence line
  gap_eq : gap = ['\n'] ∨ gap = ['\r', '\n'] ∨ gap = []
  gap_end : ∀ c ∈ (yaml ++ gap).getLast?, c = '\n'
  closes : IsHeaderFence closer
  closer_end : closer.getLast? = some '\n' ∨ body = []

namespace HeadedText

variable (written : HeadedText)

/-- The text up to the end of the header. -/
def front : List Char :=
  written.mark ++ (written.blanks ++
    (written.opener ++ (written.yaml ++ written.gap ++ written.closer)))

/-- The whole text. -/
def text : List Char := written.front ++ written.body

end HeadedText

theorem IsHeaderFence.isLine {line : List Char} (fence : IsHeaderFence line)
    (ends : line.getLast? = some '\n') : Page.IsLine line := by
  obtain ⟨returns, ending, rfl, rfl | rfl⟩ := fence
  · exact ⟨'-' :: '-' :: '-' :: List.replicate returns '\r', by simp, by simp⟩
  · rw [List.append_nil] at ends
    have member := List.mem_of_getLast? ends
    simp at member

theorem IsHeaderFence.lines_append {line body : List Char} (fence : IsHeaderFence line)
    (ends : line.getLast? = some '\n' ∨ body = []) :
    Text.lines (line ++ body) = line :: Text.lines body := by
  rcases ends with ends | rfl
  · exact Page.lines_line_append (fence.isLine ends) body
  · obtain ⟨returns, ending, rfl, rfl | rfl⟩ := fence
    · have whole : Page.IsLine ('-' :: '-' :: '-' :: (List.replicate returns '\r' ++ ['\n'])) :=
        ⟨'-' :: '-' :: '-' :: List.replicate returns '\r', by simp, by simp⟩
      exact Page.lines_line_append whole []
    · rw [List.append_nil]
      exact Text.lines_of_free (by simp) (by simp)

/-- A line break at its end makes no fence of a line. -/
theorem isHeaderFence_of_append_break {line gap : List Char}
    (gap_eq : gap = ['\n'] ∨ gap = ['\r', '\n']) (fence : IsHeaderFence (line ++ gap)) :
    IsHeaderFence line := by
  obtain ⟨returns, ending, shape, ending_eq⟩ := fence
  obtain ⟨front, rfl, front_returns⟩ :
      ∃ front, gap = front ++ ['\n'] ∧ (front = [] ∨ front = ['\r']) := by
    rcases gap_eq with rfl | rfl
    · exact ⟨[], rfl, .inl rfl⟩
    · exact ⟨['\r'], rfl, .inr rfl⟩
  have words_eq : line ++ front = '-' :: '-' :: '-' :: List.replicate returns '\r' := by
    rcases ending_eq with rfl | rfl
    · have shape' : (line ++ front) ++ ['\n'] =
          ('-' :: '-' :: '-' :: List.replicate returns '\r') ++ ['\n'] := by simpa using shape
      exact List.append_cancel_right shape'
    · have member : '\n' ∈ line ++ (front ++ ['\n']) := by simp
      rw [shape] at member
      simp at member
  rcases front_returns with rfl | rfl
  · exact ⟨returns, [], by simpa using words_eq, .inr rfl⟩
  · cases returns with
    | zero =>
        have last := congrArg List.getLast? words_eq
        simp at last
    | succ returns =>
        have words_eq' : line ++ ['\r'] =
            ('-' :: '-' :: '-' :: List.replicate returns '\r') ++ ['\r'] := by
          simpa [List.replicate_succ'] using words_eq
        exact ⟨returns, [], by simpa using List.append_cancel_right words_eq', .inr rfl⟩

theorem withoutMark_of_head? {source : List Char} (unmarked : source.head? ≠ some '\uFEFF') :
    withoutMark source = source := by
  unfold withoutMark
  split
  · exact absurd rfl unmarked
  · rfl

namespace HeadedText

variable (written : HeadedText)

theorem plain_gap : ∀ line ∈ Text.lines (written.yaml ++ written.gap), ¬ IsHeaderFence line := by
  rcases or_assoc.mpr written.gap_eq with gap_eq | gap_nil
  · obtain ⟨front, last, yaml_eq, ends, free⟩ := Text.exists_last_line written.yaml
    have whole : Page.IsLine (last ++ written.gap) := by
      rcases gap_eq with gap_eq | gap_eq
      · exact ⟨last, by rw [gap_eq], free⟩
      · exact ⟨last ++ ['\r'], by simp [gap_eq], by simp [free]⟩
    have lines_eq : Text.lines (written.yaml ++ written.gap) =
        Text.lines front ++ [last ++ written.gap] := by
      have alone := Page.lines_line_append whole []
      rw [List.append_nil] at alone
      rw [yaml_eq, List.append_assoc, Text.lines_append ends, alone]
      rfl
    have plain := written.plain
    rw [yaml_eq, Text.lines_append ends] at plain
    rw [lines_eq]
    refine List.forall_mem_append.mpr ⟨fun line member => ?_, ?_⟩
    · exact plain line (List.mem_append_left _ member)
    · -- the last line is a fence only if it is one without its break
      refine List.forall_mem_singleton.mpr fun fence => ?_
      have inner := isHeaderFence_of_append_break gap_eq fence
      have last_ne : last ≠ [] := by
        rintro rfl
        obtain ⟨returns, ending, shape, -⟩ := inner
        cases shape
      refine plain last (List.mem_append_right _ ?_) inner
      rw [Text.lines_of_free free last_ne]
      exact List.mem_singleton_self last
  · rw [gap_nil, List.append_nil]
    exact written.plain

theorem withoutMark_text :
    withoutMark written.text = written.blanks ++ (written.opener ++
      ((written.yaml ++ written.gap) ++ (written.closer ++ written.body))) := by
  have text_eq : written.text = written.mark ++ (written.blanks ++ (written.opener ++
      ((written.yaml ++ written.gap) ++ (written.closer ++ written.body)))) := by
    simp [text, front]
  rw [text_eq]
  rcases written.mark_eq with mark | mark
  · rw [mark]
    rfl
  · rw [mark, List.nil_append]
    apply withoutMark_of_head?
    obtain ⟨returns, ending, opener_eq, -⟩ := written.opens
    cases found : written.blanks with
    | nil => simp [opener_eq]
    | cons c rest =>
        have blank := written.blank
        rw [found] at blank
        rintro same
        obtain rfl : c = '\uFEFF' := by simpa using same
        exact absurd (List.all_eq_true.mp blank _ List.mem_cons_self) (by decide)

theorem lines_text :
    Text.lines (withoutMark written.text) = Text.lines written.blanks ++ written.opener ::
      (Text.lines (written.yaml ++ written.gap) ++ written.closer :: Text.lines written.body) := by
  rw [written.withoutMark_text, Text.lines_append written.blanks_end,
    written.opens.lines_append (.inl written.opener_end), Text.lines_append written.gap_end,
    written.closes.lines_append written.closer_end]

/-- What is written between the fences is what the search finds, and all that is written behind them
is the body. -/
theorem framed : ∃ block, WithoutEndBreaks written.yaml block ∧
    frame written.text = .found block written.front written.body := by
  have blank : ∀ line ∈ Text.lines written.blanks, Text.isBlankText line = true := by
    intro line member
    refine List.all_eq_true.mpr fun c held => List.all_eq_true.mp written.blank c ?_
    rw [← Text.flatten_lines written.blanks]
    exact List.mem_flatten_of_mem member held
  have breaks : ∀ c ∈ written.gap, (decide (c = '\r') || decide (c = '\n')) = true := by
    rcases written.gap_eq with gap_eq | gap_eq | gap_eq <;> simp [gap_eq]
  obtain ⟨block, trimmed⟩ : ∃ block, WithoutEndBreaks written.yaml block :=
    ⟨_, withoutEndBreaks_iff.mpr rfl⟩
  have trimmed_gap : WithoutEndBreaks
      (Text.lines (written.yaml ++ written.gap)).flatten block := by
    rw [withoutEndBreaks_iff] at trimmed ⊢
    rw [Text.flatten_lines, Text.dropEndWhile_append_of_forall written.yaml breaks, trimmed]
  have found := frame_found written.lines_text blank written.opens rfl written.plain_gap
    written.closes trimmed_gap
  rw [Text.flatten_lines] at found
  have parts : written.front ++ written.body = _ ++ written.body := frame_split found
  exact ⟨block, trimmed, by rw [found, List.append_cancel_right parts]⟩

end HeadedText

section

variable {yaml : String → Except String Json}

theorem readHeaderBlock_ne_unterminated (block : List Char) :
    readHeaderBlock yaml block ≠ .error .unterminated := by
  unfold readHeaderBlock
  split_ifs
  · simp
  · split <;> simp

theorem readHeader_of_found {source block front body : List Char}
    (found : frame source = .found block front body) :
    readHeader yaml source =
      (readHeaderBlock yaml block).map fun metadata => { metadata, front, body } := by
  simp only [readHeader, found]
  cases readHeaderBlock yaml block <;> rfl

theorem readHeader_eq_unterminated_iff {source : List Char} :
    readHeader yaml source = .error .unterminated ↔ frame source = .unterminated := by
  cases framing : frame source with
  | absent => simp [readHeader, framing]
  | unterminated => simp [readHeader, framing]
  | found block front body =>
      rw [readHeader_of_found framing]
      cases said : readHeaderBlock yaml block with
      | ok metadata => simp [Except.map]
      | error cause =>
          have other : cause ≠ .unterminated := fun same =>
            readHeaderBlock_ne_unterminated block (same ▸ said)
          simpa [Except.map] using other

end

/-- The framing of a header is exact. It stands in a text as `Framed` says, and in one way only.
Without a header the whole text is the body; the reading fails with `unterminated` exactly if the
header is not closed; otherwise it reads the text between the fences. Where the body starts is a
place between two characters of the text in UTF-8, the header and the body are the text in front of
it and behind it, and the number of the body's first line counts the line feeds in front of it. A
text written with a header gives what was written, apart from line breaks at the end of the header,
and exactly the body. -/
theorem readHeader_framed (yaml : String → Except String Json) (source : List Char) :
    (∀ framing, Framed source framing ↔ framing = frame source) ∧
    (frame source = .absent → ∃ header, readHeader yaml source = .ok header ∧
      header.metadata = [] ∧ header.bodyStart = 0 ∧ header.bodyLine = 1 ∧ header.body = source) ∧
    (readHeader yaml source = .error .unterminated ↔ frame source = .unterminated) ∧
    (∀ block front body, frame source = .found block front body → readHeader yaml source =
      (readHeaderBlock yaml block).map fun metadata => { metadata, front, body }) ∧
    (∀ header, readHeader yaml source = .ok header →
      (∃ position : (String.ofList source).Pos,
        position.offset.byteIdx = header.bodyStart ∧
        position.Splits (String.ofList header.front) (String.ofList header.body)) ∧
      header.bodyLine = 1 + header.front.count '\n') ∧
    ∀ written : HeadedText, ∃ block, WithoutEndBreaks written.yaml block ∧
      frame written.text = .found block written.front written.body := by
  refine ⟨fun framing => framed_iff, fun absent => ?_, readHeader_eq_unterminated_iff,
    fun block front body => readHeader_of_found, fun header read => ?_, HeadedText.framed⟩
  · exact ⟨{ body := source }, by rw [readHeader, absent], rfl, rfl, rfl, rfl⟩
  · exact ⟨exists_splits_bodyStart read, Nat.add_comm _ 1⟩

/-- A byte order mark and a blank line in front of a header with Windows line ends, and a separator
in the body. -/
def HeadedText.windows : HeadedText where
  mark := ['\uFEFF']
  blanks := " \n".toList
  opener := "---\r\n".toList
  yaml := "title: é\r\n\r\n".toList
  gap := []
  closer := "---\r\n".toList
  body := "A\n---\nB".toList
  mark_eq := .inl rfl
  blank := rfl
  blanks_end := by simp
  opens := ⟨1, ['\n'], rfl, .inl rfl⟩
  opener_end := rfl
  plain := fun line member => mt (isHeaderFence_iff member).mpr (by revert line; decide)
  gap_eq := .inr (.inr rfl)
  gap_end := by simp
  closes := ⟨1, ['\n'], rfl, .inl rfl⟩
  closer_end := .inl rfl

theorem readHeader_framed_windows :
    ∃ header, readHeader Yaml.wordless HeadedText.windows.text = .ok header ∧
      header.body = "A\n---\nB".toList ∧ header.bodyLine = 6 ∧
      ∃ position : (String.ofList HeadedText.windows.text).Pos,
        position.offset.byteIdx = 28 ∧
        position.Splits (String.ofList header.front) (String.ofList header.body) := by
  obtain ⟨-, -, -, reads, starts, writes⟩ :=
    readHeader_framed Yaml.wordless HeadedText.windows.text
  obtain ⟨header, read, -, -⟩ := exists_readHeader Yaml.wordless HeadedText.windows.text
    "A\n---\nB".toList 6 (by decide +kernel)
  obtain ⟨block, -, found⟩ := writes HeadedText.windows
  have parts : header.front = HeadedText.windows.front ∧ header.body = HeadedText.windows.body := by
    have equal := reads _ _ _ found
    rw [read] at equal
    cases said : readHeaderBlock Yaml.wordless block with
    | error cause => simp [said, Except.map] at equal
    | ok metadata =>
        simp only [said, Except.map, Except.ok.injEq] at equal
        exact equal ▸ ⟨rfl, rfl⟩
  obtain ⟨⟨position, start, splits⟩, line⟩ := starts header read
  refine ⟨header, read, parts.2, ?_, position, ?_, splits⟩
  · rw [line, parts.1]
    decide
  · rw [start, Header.bodyStart, parts.1]
    decide

end SlideDeck
