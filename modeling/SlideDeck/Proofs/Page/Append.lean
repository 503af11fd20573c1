import SlideDeck.Proofs.Page.Split

/-!
# Appending pages

The line on which a body starts only shifts the lines that its pages and fences stand on
(`segments_shift`). Lines behind others go on with the last segment of those, from the fence that
they leave open (`all_segments_append`). When they leave none, a separator and more text behind it
add the pages of that text and leave the earlier ones as they are (`splitPages_append`).
-/

namespace SlideDeck

namespace Page

/-- The fence `k` lines further down. -/
def Fence.shift (k : Nat) (fence : Fence) : Fence := { fence with line := fence.line + k }

/-- The segments `k` lines further down. -/
def Segments.shift (k : Nat) (s : Segments) : Segments :=
  { first := s.first
    others := s.others.map fun o => (o.1 + k, o.2)
    fence := s.fence.map (Fence.shift k) }

/-- Where a line stands decides nothing but the line of a fence that it opens. -/
theorem observe_shift (fence : Option Fence) (line : List Char) (number k : Nat) :
    observe (fence.map (Fence.shift k)) line (number + k) =
      ((observe fence line number).1.map (Fence.shift k), (observe fence line number).2) := by
  cases fence with
  | some fence =>
      have same : (fence.shift k).isClosedBy line = fence.isClosedBy line := rfl
      simp only [observe, Option.map_some, same]
      split_ifs <;> rfl
  | none =>
      have opened : opener? line (number + k) = (opener? line number).map (Fence.shift k) := by
        simp only [opener?]
        split_ifs
        · rfl
        · cases run? (indentOf line).2 with
          | none => rfl
          | some run =>
              simp only
              split_ifs <;> rfl
      simp only [observe, Option.map_none, opened]
      cases opener? line number <;> rfl

/-- Where a text starts decides nothing but the lines on which its parts stand. -/
theorem segments_shift (fence : Option Fence) (number k : Nat) (lines : List (List Char)) :
    segments (fence.map (Fence.shift k)) (number + k) lines =
      (segments fence number lines).shift k := by
  induction lines generalizing fence number with
  | nil => rfl
  | cons line rest ih =>
      have later := ih (observe fence (content line) number).1 (number + 1)
      rw [Nat.add_right_comm] at later
      simp only [segments, observe_shift, later]
      split_ifs
      · simp [Segments.shift]
        omega
      · rfl

/-- A line that separates pages starts with its three hyphens. -/
theorem exists_of_isSeparator {line : List Char} (separator : isSeparator line = true) :
    ∃ tail, line = '-' :: '-' :: '-' :: tail := by
  rw [isSeparator, trimEnd_content, beq_iff_eq] at separator
  obtain ⟨tail, split, -⟩ := Text.exists_dropEndWhile_append Text.isBlank line
  rw [← Text.trimEnd, separator] at split
  exact ⟨tail, split⟩

/-- A line of marks starts with a space or a mark. -/
theorem not_markLine_cons {c : Char} (other : c ≠ ' ' ∧ c ≠ '\x60' ∧ c ≠ '~') (tail : List Char)
    (indent : Nat) (marker : Char) (length : Nat) (rest : List Char) :
    ¬ MarkLine (c :: tail) indent marker length rest := by
  rintro ⟨shape, marker_eq, three_le, -, -⟩
  obtain ⟨more, rfl⟩ : ∃ n, length = n + 1 := ⟨length - 1, by omega⟩
  obtain ⟨space_ne, backtick_ne, tilde_ne⟩ := other
  cases indent with
  | zero =>
      obtain ⟨rfl, -⟩ := List.cons.inj shape
      exact marker_eq.elim backtick_ne tilde_ne
  | succ indent => exact space_ne (List.cons.inj shape).1

theorem not_markLine_of_isSeparator {line : List Char} (separator : isSeparator line = true)
    (indent : Nat) (marker : Char) (length : Nat) (rest : List Char) :
    ¬ MarkLine line indent marker length rest := by
  obtain ⟨tail, rfl⟩ := exists_of_isSeparator separator
  exact not_markLine_cons (by decide) _ indent marker length rest

theorem not_opens_of_isSeparator {line : List Char} (separator : isSeparator line = true)
    (marker : Char) (length : Nat) : ¬ Opens line marker length := by
  rintro ⟨indent, info, marks, -⟩
  exact not_markLine_of_isSeparator separator indent marker length info marks

theorem not_closes_of_isSeparator {line : List Char} (separator : isSeparator line = true)
    (marker : Char) (length : Nat) : ¬ Closes line marker length := by
  rintro ⟨indent, count, rest, marks, -⟩
  exact not_markLine_of_isSeparator separator indent marker count rest marks

/-- A line that is text where no fence is open: it neither opens a fence nor separates pages. -/
def IsPlain (line : List Char) : Prop :=
  (∀ mark length, ¬ Opens line mark length) ∧ isSeparator line = false

theorem segments_plain {lines : List (List Char)} (plain : ∀ line ∈ lines, IsPlain line)
    (number : Nat) (more : List (List Char)) :
    segments none number (lines ++ more) =
      { segments none (number + lines.length) more with
        first := lines ++ (segments none (number + lines.length) more).first } := by
  induction lines generalizing number with
  | nil => rfl
  | cons line rest ih =>
      obtain ⟨⟨opens_none, joins⟩, rest_plain⟩ := List.forall_mem_cons.mp plain
      have behind := ih rest_plain (number + 1)
      rw [Nat.add_right_comm, Nat.add_assoc] at behind
      simp only [List.cons_append, segments, observe_outside opens_none, joins, Bool.and_false,
        Bool.false_eq_true, if_false, Segments.push, behind, List.length_cons]

/-- All segments with the lines that they start on. -/
def Segments.all (start : Nat) (s : Segments) : List (Nat × List (List Char)) :=
  (start, s.first) :: s.others

theorem Segments.all_push (start : Nat) (s : Segments) (line : List Char) :
    (s.push line).all start = (s.all start).modifyHead fun o => (o.1, line :: o.2) :=
  rfl

theorem fence_segments_cons (fence : Option Fence) (number : Nat) (line : List Char)
    (rest : List (List Char)) :
    (segments fence number (line :: rest)).fence =
      (segments (observe fence (content line) number).1 (number + 1) rest).fence := by
  simp only [segments]
  split_ifs <;> rfl

/-- The last segment of lines goes on with the first one of the lines behind them. -/
theorem all_segments_append {fence opened : Option Fence} {number : Nat}
    {lines : List (List Char)} (left : (segments fence number lines).fence = opened) (start : Nat)
    (more : List (List Char)) :
    ∃ front last,
      (segments fence number lines).all start = front ++ [last] ∧
      (∀ line ∈ last.2, line ∈ lines) ∧
      (segments fence number (lines ++ more)).all start =
        front ++ (last.1, last.2 ++ (segments opened (number + lines.length) more).first) ::
          (segments opened (number + lines.length) more).others ∧
      (segments fence number (lines ++ more)).fence =
        (segments opened (number + lines.length) more).fence := by
  induction lines generalizing fence start number with
  | nil =>
      subst left
      exact ⟨[], (start, []), rfl, by simp, rfl, rfl⟩
  | cons line rest ih =>
      rw [fence_segments_cons] at left
      have later := ih left
      rw [Nat.add_assoc, Nat.add_comm 1, ← List.length_cons (a := line)] at later
      rw [List.cons_append, fence_segments_cons]
      simp only [segments]
      split_ifs with separator
      · obtain ⟨front, last, all_eq, held, all_append, fence_eq⟩ := later (number + 1)
        exact ⟨(start, []) :: front, last, congrArg ((start, []) :: ·) all_eq,
          fun l member => List.mem_cons_of_mem line (held l member),
          congrArg ((start, []) :: ·) all_append, fence_eq⟩
      · obtain ⟨front, last, all_eq, held, all_append, fence_eq⟩ := later start
        rw [Segments.all_push, Segments.all_push, all_eq, all_append]
        -- the line goes in front of the first segment, which is the last one if there is no other
        cases front with
        | nil =>
            refine ⟨[], (last.1, line :: last.2), rfl, ?_, rfl, fence_eq⟩
            exact List.forall_mem_cons.mpr ⟨List.mem_cons_self,
              fun l member => List.mem_cons_of_mem line (held l member)⟩
        | cons first front =>
            exact ⟨(first.1, line :: first.2) :: front, last, rfl,
              fun l member => List.mem_cons_of_mem line (held l member), rfl, fence_eq⟩

theorem segments_separator {separator : List Char} (separates : isSeparator separator = true)
    (number : Nat) (behind : List (List Char)) :
    segments none number (separator :: behind) =
      { first := []
        others := (segments none (number + 1) behind).all (number + 1)
        fence := (segments none (number + 1) behind).fence } := by
  simp [segments, observe_outside (not_opens_of_isSeparator separates), separates, Segments.all]

theorem number_append (index : Nat) (left right : List (Nat × List (List Char))) :
    number index (left ++ right) = number index left ++ number (index + left.length) right := by
  induction left generalizing index with
  | nil => rfl
  | cons page left ih =>
      simp only [List.cons_append, number, ih, List.length_cons]
      rw [Nat.add_right_comm, Nat.add_assoc]

end Page

/-- The page with `k` pages more in front of it. -/
def RawPage.reindex (k : Nat) (page : RawPage) : RawPage := { page with index := page.index + k }

/-- The page `k` lines further down. -/
def RawPage.shift (k : Nat) (page : RawPage) : RawPage :=
  { page with firstLine := page.firstLine + k }

namespace Page

theorem number_reindex (index k : Nat) (pages : List (Nat × List (List Char))) :
    number (index + k) pages = (number index pages).map (RawPage.reindex k) := by
  induction pages generalizing index with
  | nil => rfl
  | cons page pages ih =>
      simp only [number, List.map_cons, ← ih, RawPage.reindex]
      rw [Nat.add_right_comm]

theorem number_shift (index k : Nat) (pages : List (Nat × List (List Char))) :
    number index (pages.map fun page => (page.1 + k, page.2)) =
      (number index pages).map (RawPage.shift k) := by
  induction pages generalizing index with
  | nil => rfl
  | cons page pages ih => simp [number, ih, RawPage.shift]

end Page

open Page

/-- The starting line of a body only shifts its pages. -/
theorem splitPages_shift (body : List Char) (firstLine k : Nat) :
    (splitPages body (firstLine + k)).pages =
      (splitPages body firstLine).pages.map (RawPage.shift k) := by
  have shifted := segments_shift none firstLine k (Text.lines body)
  rw [Option.map_none] at shifted
  simp only [splitPages, shifted, Segments.shift]
  exact number_shift 1 k ((firstLine, (segments none firstLine (Text.lines body)).first) ::
    (segments none firstLine (Text.lines body)).others)

/-- There is a warning exactly if a fence stays open. -/
theorem warnings_splitPages_eq_nil_iff {body : List Char} {firstLine : Nat} :
    (splitPages body firstLine).warnings = [] ↔
      (segments none firstLine (Text.lines body)).fence = none := by
  cases fence : (segments none firstLine (Text.lines body)).fence <;> simp [splitPages, fence]

/-- Behind a text without an open fence, a separator and more text add the pages of that text. -/
theorem splitPages_append {body : List Char} (ends : ∀ c ∈ body.getLast?, c = '\n')
    {firstLine : Nat} (closed : (splitPages body firstLine).warnings = []) (behind : List Char) :
    (splitPages (body ++ '-' :: '-' :: '-' :: '\n' :: behind) firstLine).pages =
      (splitPages body firstLine).pages ++
        (splitPages behind (firstLine + (Text.lines body).length + 1)).pages.map
          (RawPage.reindex (splitPages body firstLine).pages.length) := by
  have lines_eq : Text.lines (body ++ '-' :: '-' :: '-' :: '\n' :: behind) =
      Text.lines body ++ ['-', '-', '-', '\n'] :: Text.lines behind := by
    rw [Text.lines_append ends]
    rfl
  have separates : isSeparator ['-', '-', '-', '\n'] = true := by decide
  obtain ⟨front, last, all_eq, -, all_append, -⟩ :=
    all_segments_append (warnings_splitPages_eq_nil_iff.mp closed) firstLine
      (['-', '-', '-', '\n'] :: Text.lines behind)
  rw [segments_separator separates, List.append_nil, List.append_cons front, ← all_eq, ← lines_eq]
    at all_append
  have pages_eq := congrArg (number 1) all_append
  rw [number_append, ← length_number 1, number_reindex] at pages_eq
  exact pages_eq

end SlideDeck
