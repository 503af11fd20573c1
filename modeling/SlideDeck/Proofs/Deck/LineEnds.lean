import SlideDeck.Proofs.Header.Fences
import SlideDeck.Proofs.Page.Append

/-!
# Windows line ends

A deck whose line feeds are written as carriage returns and line feeds has the same header and the
same pages, each text written in the same way. The two scans look at a line without its end, so any
change of the lines that keeps what they look at is a change of their results alone
(`frameOpening_map`, `segments_map`), and only the end of a page needs that the deck had no carriage
returns before (`lineEnds_agree`).
-/

namespace SlideDeck

namespace Text

/-- The text with every line feed written as a carriage return and a line feed. -/
def crlf (s : List Char) : List Char := s.flatMap fun c => if c = '\n' then ['\r', '\n'] else [c]

theorem crlf_append (s t : List Char) : crlf (s ++ t) = crlf s ++ crlf t := List.flatMap_append

theorem crlf_feed (s : List Char) : crlf ('\n' :: s) = '\r' :: '\n' :: crlf s := rfl

theorem crlf_cons {c : Char} (c_ne : c ≠ '\n') (s : List Char) : crlf (c :: s) = c :: crlf s := by
  simp [crlf, c_ne]

theorem crlf_flatten (lines : List (List Char)) :
    crlf lines.flatten = (lines.map crlf).flatten := by
  induction lines with
  | nil => rfl
  | cons line rest ih => rw [List.flatten_cons, crlf_append, ih, List.map_cons, List.flatten_cons]

theorem crlf_of_free {s : List Char} (free : '\n' ∉ s) : crlf s = s := by
  induction s with
  | nil => rfl
  | cons c s ih =>
      obtain ⟨c_ne, free⟩ := not_or.mp (mt List.mem_cons.mpr free)
      rw [crlf_cons (Ne.symm c_ne), ih free]

theorem mem_crlf {s : List Char} {c : Char} (member : c ∈ crlf s) : c = '\r' ∨ c ∈ s := by
  obtain ⟨d, held, shown⟩ := List.mem_flatMap.mp member
  split_ifs at shown with feed
  · rcases List.mem_cons.mp shown with rfl | shown
    · exact .inl rfl
    · obtain rfl := List.mem_singleton.mp shown
      exact .inr (feed ▸ held)
  · exact .inr (List.mem_singleton.mp shown ▸ held)

theorem countBreaks_crlf (s : List Char) : countBreaks (crlf s) = countBreaks s := by
  induction s with
  | nil => rfl
  | cons c s ih =>
      simp only [countBreaks] at ih ⊢
      by_cases feed : c = '\n'
      · subst feed
        simp [crlf_feed, ih]
      · simp [crlf_cons feed, List.count_cons, ih]

/-- The lines of the text are written one by one. -/
theorem lines_crlf (s : List Char) : lines (crlf s) = (lines s).map crlf := by
  induction s with
  | nil => rfl
  | cons c s ih =>
      by_cases feed : c = '\n'
      · subst feed
        have feed_eq : crlf ['\n'] = ['\r', '\n'] := rfl
        simp [crlf_feed, lines, ih, feed_eq]
      · rw [crlf_cons feed, lines, if_neg feed, ih, lines, if_neg feed]
        cases lines s with
        | nil => simp [crlf, feed]
        | cons line others => simp [crlf_cons feed]

theorem isBlankText_crlf (s : List Char) : isBlankText (crlf s) = isBlankText s := by
  rw [Bool.eq_iff_iff, isBlankText, isBlankText, List.all_eq_true, List.all_eq_true]
  constructor
  · intro blank c member
    by_cases feed : c = '\n'
    · exact feed ▸ rfl
    · exact blank c (List.mem_flatMap.mpr ⟨c, member, by simp [feed]⟩)
  · intro blank c member
    rcases mem_crlf member with rfl | member
    · rfl
    · exact blank c member

theorem getLast?_crlf {s : List Char} (last : s.getLast? ≠ some '\n') :
    (crlf s).getLast? = s.getLast? := by
  cases last_eq : s.getLast? with
  | none =>
      rw [List.getLast?_eq_none_iff.mp last_eq]
      rfl
  | some c =>
      obtain ⟨front, rfl⟩ := List.getLast?_eq_some_iff.mp last_eq
      have c_ne : c ≠ '\n' := fun feed => last (feed ▸ last_eq)
      rw [crlf_append, crlf_cons c_ne]
      exact List.getLast?_concat

/-- Characters at the end may be dropped before or after, if those of line ends are among them. -/
theorem dropEndWhile_crlf {p : Char → Bool} (carriage : p '\r' = true) (feed : p '\n' = true)
    (s : List Char) : dropEndWhile p (crlf s) = crlf (dropEndWhile p s) := by
  obtain ⟨⟨tail, split, dropped⟩, kept⟩ := dropEndWhile_eq_iff.mp (rfl : dropEndWhile p s = _)
  refine dropEndWhile_eq_iff.mpr ⟨⟨crlf tail, ?_, fun c member => ?_⟩, ?_⟩
  · rw [← crlf_append, ← split]
  · rcases mem_crlf member with rfl | member
    · exact carriage
    · exact dropped c member
  · have last : (dropEndWhile p s).getLast? ≠ some '\n' := fun last => by
      have stop := kept '\n' last
      rw [feed] at stop
      cases stop
    rwa [getLast?_crlf last]

end Text

/-! ## The header -/

/-- The framing with each of its texts changed. -/
def Framing.map (f : List Char → List Char) : Framing → Framing
  | .absent => .absent
  | .unterminated => .unterminated
  | .found block header body => .found (f block) (f header) (f body)

section Frame

variable {f : List Char → List Char}
  (flatten : ∀ lines : List (List Char), f lines.flatten = (lines.map f).flatten)
  (trim : ∀ s, Text.dropEndWhile (fun c => c = '\r' || c = '\n') (f s) =
    f (Text.dropEndWhile (fun c => c = '\r' || c = '\n') s))

include flatten trim

theorem frameClosing_map {lines : List (List Char)}
    (fence : ∀ line ∈ lines, isHeaderFence (f line) = isHeaderFence line)
    (block header : List (List Char)) :
    frameClosing (block.map f) (header.map f) (lines.map f) =
      (frameClosing block header lines).map f := by
  induction lines generalizing block header with
  | nil => rfl
  | cons line rest ih =>
      obtain ⟨here, behind⟩ := List.forall_mem_cons.mp fence
      have later := ih behind (line :: block) (line :: header)
      simp only [List.map_cons] at later
      simp only [List.map_cons, frameClosing, here]
      split_ifs
      · simp only [Framing.map, Framing.found.injEq, flatten, ← trim]
        simp
      · exact later

theorem frameOpening_map {lines : List (List Char)}
    (fence : ∀ line ∈ lines, isHeaderFence (f line) = isHeaderFence line)
    (blank : ∀ line ∈ lines, Text.isBlankText (f line) = Text.isBlankText line)
    (header : List (List Char)) :
    frameOpening (header.map f) (lines.map f) = (frameOpening header lines).map f := by
  induction lines generalizing header with
  | nil => rfl
  | cons line rest ih =>
      obtain ⟨here, behind⟩ := List.forall_mem_cons.mp fence
      obtain ⟨here_blank, behind_blank⟩ := List.forall_mem_cons.mp blank
      have later := ih behind behind_blank (line :: header)
      have closing := frameClosing_map flatten trim behind [] (line :: header)
      simp only [List.map_cons, List.map_nil] at later closing
      simp only [List.map_cons, frameOpening, here, here_blank]
      split_ifs
      · exact later
      · exact closing
      · rfl

end Frame

theorem isHeaderFence_crlf {source line : List Char} (member : line ∈ Text.lines source) :
    isHeaderFence (Text.crlf line) = isHeaderFence line := by
  obtain ⟨words, ending, rfl, free, rfl | rfl⟩ := Page.exists_of_mem_lines member
  · have kept : (words ++ ['\r', '\n']).filter (fun c => c ≠ '\n') = words ++ ['\r'] := by
      have words_free : '\n' ∉ words ++ ['\r'] := by simpa using free
      have inner := filter_words_append words_free (.inl rfl)
      simpa using inner
    rw [Text.crlf_append, Text.crlf_of_free free, isHeaderFence, isHeaderFence,
      filter_words_append free (.inl rfl), show Text.crlf ['\n'] = ['\r', '\n'] from rfl, kept,
      Text.dropEndWhile_append_of_forall words (by simp)]
  · rw [List.append_nil, Text.crlf_of_free free]

theorem frame_crlf (source : List Char) :
    frame (Text.crlf source) = (frame source).map Text.crlf := by
  have parts : markLine (Text.crlf source) = (markLine source).map Text.crlf ∧
      withoutMark (Text.crlf source) = Text.crlf (withoutMark source) := by
    cases source with
    | nil => exact ⟨rfl, rfl⟩
    | cons c rest =>
        by_cases mark : c = '\uFEFF'
        · subst mark
          exact ⟨rfl, rfl⟩
        · by_cases feed : c = '\n'
          · subst feed
            exact ⟨rfl, rfl⟩
          · simp [Text.crlf_cons feed, markLine, withoutMark, mark]
  rw [frame_eq, frame_eq, parts.1, parts.2, Text.lines_crlf]
  exact frameOpening_map Text.crlf_flatten (Text.dropEndWhile_crlf rfl rfl)
    (fun _ => isHeaderFence_crlf) (fun line _ => Text.isBlankText_crlf line) _

/-! ## The pages -/

namespace Page

/-- The segments with each of their lines changed. -/
def Segments.map (f : List Char → List Char) (s : Segments) : Segments where
  first := s.first.map f
  others := s.others.map fun o => (o.1, o.2.map f)
  fence := s.fence

/-- The scan looks at the content of each line. -/
theorem segments_map {f : List Char → List Char} {lines : List (List Char)}
    (same : ∀ line ∈ lines, content (f line) = content line) (fence : Option Fence)
    (number : Nat) :
    segments fence number (lines.map f) = (segments fence number lines).map f := by
  induction lines generalizing fence number with
  | nil => rfl
  | cons line rest ih =>
      obtain ⟨here, behind⟩ := List.forall_mem_cons.mp same
      have separator : isSeparator (f line) = isSeparator line := by simp only [isSeparator, here]
      simp only [List.map_cons, segments, here, separator, ih behind]
      split_ifs <;> rfl

theorem content_crlf {source line : List Char} (member : line ∈ Text.lines source) :
    content (Text.crlf line) = content line := by
  have free : '\n' ∉ content line := by
    obtain ⟨words, ending, rfl, free, ending_eq⟩ := exists_of_mem_lines member
    have dropped : ∀ c ∈ ending, (decide (c = '\n') || decide (c = '\r')) = true := by
      rcases ending_eq with rfl | rfl <;> simp
    rw [content, Text.dropEndWhile_append_of_forall words dropped]
    obtain ⟨tail, split, -⟩ := exists_content_append words
    exact fun held => free (split ▸ List.mem_append_left tail held)
  rw [content, Text.dropEndWhile_crlf rfl rfl]
  exact Text.crlf_of_free free

/-- The text of a page has its line ends written anew, if the page held no carriage return. -/
theorem textOfLines_crlf {lines : List (List Char)} (no_return : '\r' ∉ lines.flatten) :
    textOfLines (lines.map Text.crlf) = Text.crlf (textOfLines lines) := by
  apply textOfLines_eq
  rw [← Text.crlf_flatten]
  rcases textOfLines_spec lines with cut | ⟨cut, last⟩ | ⟨cut, last⟩
  · rw [cut] at no_return
    simp at no_return
  · left
    rw [cut, Text.crlf_append]
    rfl
  · refine .inr (.inr ⟨congrArg Text.crlf cut, ?_⟩)
    rwa [Text.getLast?_crlf last]

theorem mem_of_mem_all_segments {fence : Option Fence} {number start : Nat}
    {lines : List (List Char)} :
    ∀ segment ∈ (segments fence number lines).all start, ∀ line ∈ segment.2, line ∈ lines := by
  induction lines generalizing fence number start with
  | nil =>
      intro segment member line held
      obtain rfl := List.mem_singleton.mp member
      exact held
  | cons first rest ih =>
      have behind : ∀ start, ∀ segment ∈ (segments (observe fence (content first) number).1
          (number + 1) rest).all start, ∀ line ∈ segment.2, line ∈ first :: rest :=
        fun start segment member line held =>
          List.mem_cons_of_mem first (ih segment member line held)
      simp only [segments]
      split_ifs
      · exact List.forall_mem_cons.mpr ⟨by simp, behind (number + 1)⟩
      · obtain ⟨here, others⟩ := List.forall_mem_cons.mp (behind start)
        exact List.forall_mem_cons.mpr
          ⟨List.forall_mem_cons.mpr ⟨List.mem_cons_self, here⟩, others⟩

end Page

/-- The page with its text changed. -/
def RawPage.map (f : List Char → List Char) (page : RawPage) : RawPage :=
  { page with text := f page.text }

/-- The pages with their texts changed. -/
def PageSplit.map (f : List Char → List Char) (split : PageSplit) : PageSplit :=
  { split with pages := split.pages.map (RawPage.map f) }

open Page

theorem Page.number_map {f : List Char → List Char} {pages : List (Nat × List (List Char))}
    (same : ∀ page ∈ pages, textOfLines (page.2.map f) = f (textOfLines page.2)) (index : Nat) :
    number index (pages.map fun page => (page.1, page.2.map f)) =
      (number index pages).map (RawPage.map f) := by
  induction pages generalizing index with
  | nil => rfl
  | cons page pages ih =>
      obtain ⟨here, behind⟩ := List.forall_mem_cons.mp same
      simp [number, here, ih behind, RawPage.map]

theorem splitPages_crlf {body : List Char} (no_return : '\r' ∉ body) (firstLine : Nat) :
    splitPages (Text.crlf body) firstLine = (splitPages body firstLine).map Text.crlf := by
  have same : ∀ line ∈ Text.lines body, content (Text.crlf line) = content line :=
    fun _ => content_crlf
  have scan := segments_map same none firstLine
  rw [← Text.lines_crlf] at scan
  have free : ∀ segment ∈ (segments none firstLine (Text.lines body)).all firstLine,
      textOfLines (segment.2.map Text.crlf) = Text.crlf (textOfLines segment.2) := by
    intro segment member
    refine textOfLines_crlf fun held => no_return ?_
    obtain ⟨line, line_mem, held⟩ := List.mem_flatten.mp held
    rw [← Text.flatten_lines body]
    exact List.mem_flatten_of_mem (mem_of_mem_all_segments segment member line line_mem) held
  have pages_eq := number_map free 1
  simp only [Segments.all, List.map_cons] at pages_eq
  simp only [splitPages, scan, Segments.map, PageSplit.map, pages_eq, List.length_map]

/-- Windows line ends change nothing but the texts. The header of a deck whose line feeds are
written as carriage returns and line feeds stands as in the deck itself; the block, the header and
the body are those of the deck, written in the same way, and the body starts on the same line. A
body without carriage returns has the same pages, on the same lines and with the same warnings, each
text written in the same way. -/
theorem lineEnds_agree (yaml : String → Except String Json) (source : List Char) :
    frame (Text.crlf source) = (frame source).map Text.crlf ∧
    (readHeader yaml (Text.crlf source) = .error .unterminated ↔
      readHeader yaml source = .error .unterminated) ∧
    (∀ header windows, readHeader yaml source = .ok header →
      readHeader yaml (Text.crlf source) = .ok windows →
      windows.front = Text.crlf header.front ∧ windows.body = Text.crlf header.body ∧
        windows.bodyLine = header.bodyLine) ∧
    ∀ body firstLine, '\r' ∉ body →
      splitPages (Text.crlf body) firstLine = (splitPages body firstLine).map Text.crlf := by
  have mapped := frame_crlf source
  refine ⟨mapped, ?_, fun header windows read read_windows => ?_,
    fun body firstLine no_return => splitPages_crlf no_return firstLine⟩
  · rw [readHeader_eq_unterminated_iff, readHeader_eq_unterminated_iff, mapped]
    cases frame source <;> simp [Framing.map]
  · have parts : windows.front = Text.crlf header.front ∧
        windows.body = Text.crlf header.body := by
      rcases readHeader_eq_ok_iff.mp read with
        ⟨absent, rfl⟩ | ⟨text, front, body, metadata, found, -, rfl⟩ <;>
      rcases readHeader_eq_ok_iff.mp read_windows with
        ⟨absent', rfl⟩ | ⟨text', front', body', metadata', found', -, rfl⟩
      · exact ⟨rfl, rfl⟩
      · rw [absent, found'] at mapped
        cases mapped
      · rw [found, absent'] at mapped
        cases mapped
      · rw [found, found', Framing.map, Framing.found.injEq] at mapped
        exact mapped.2
    refine ⟨parts.1, parts.2, ?_⟩
    rw [Header.bodyLine, parts.1, Text.countBreaks_crlf, Header.bodyLine]

theorem lineEnds_agree_openFence :
    let source := "---\n# x\n---\nA\n---\n```\nB\n".toList
    ∃ header windows,
      readHeader Yaml.wordless source = .ok header ∧
      readHeader Yaml.wordless (Text.crlf source) = .ok windows ∧
      '\r' ∉ header.body ∧ windows.body = "A\r\n---\r\n```\r\nB\r\n".toList ∧
      windows.bodyLine = 4 ∧
      (splitPages windows.body 4).pages =
        [{ index := 1, text := "A".toList, firstLine := 4 },
          { index := 2, text := "```\r\nB".toList, firstLine := 6 }] ∧
      (splitPages windows.body 4).warnings =
        [.unclosedFence { page := some 2, line := 6, column := 1 } '\x60'] := by
  intro source
  obtain ⟨header, read, body_eq, line_eq⟩ := exists_readHeader Yaml.wordless source
    "A\n---\n```\nB\n".toList 4 (by decide +kernel)
  obtain ⟨windows, read_windows, -, -⟩ := exists_readHeader Yaml.wordless (Text.crlf source)
    "A\r\n---\r\n```\r\nB\r\n".toList 4 (by decide +kernel)
  obtain ⟨-, -, agree, pages⟩ := lineEnds_agree Yaml.wordless source
  obtain ⟨-, body_agree, line_agree⟩ := agree header windows read read_windows
  have no_return : '\r' ∉ header.body := by
    rw [body_eq]
    decide
  have split_agree := pages header.body 4 no_return
  rw [← body_agree, body_eq] at split_agree
  rw [body_eq] at body_agree
  refine ⟨header, windows, read, read_windows, no_return, body_agree,
    line_agree.trans line_eq, ?_, ?_⟩
  · rw [split_agree]
    decide
  · rw [split_agree]
    decide

end SlideDeck
