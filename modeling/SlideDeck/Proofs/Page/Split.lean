import SlideDeck.Proofs.Page.Fence

/-!
# Splitting loses nothing

The separators of a body cut its lines into segments. `splitPages_exact` says that the pages are
these segments in order, each without at most one line break at its end, numbered from one and
placed on the lines of the deck on which they stand.
-/

namespace SlideDeck.Page

/-- True of a marked line that separates two pages: it lies outside every fence and is `---` apart
from white space behind it. -/
def separates (mark : Bool × List Char) : Bool := !mark.1 && Text.trimEnd mark.2 == ['-', '-', '-']

/-- The text is a segment without the one line break at its end, if it has one. -/
def WithoutFinalBreak (segment text : List Char) : Prop :=
  segment = text ++ ['\r', '\n'] ∨
    segment = text ++ ['\n'] ∧ text.getLast? ≠ some '\r' ∨
    segment = text ∧ text.getLast? ≠ some '\n'

/-- The text of marked lines. -/
def textOf (marks : List (Bool × List Char)) : List Char := (marks.map Prod.snd).flatten

/-- A separator and the marked lines between it and the next one. -/
abbrev Cut := (Bool × List Char) × List (Bool × List Char)

/-- The marked lines of separators with the segments behind them. -/
def cutLines (cuts : List Cut) : List (Bool × List Char) := cuts.flatMap fun c => c.1 :: c.2

theorem cutLines_cons (cut : Cut) (cuts : List Cut) :
    cutLines (cut :: cuts) = cut.1 :: cut.2 ++ cutLines cuts := by
  simp [cutLines]

theorem textOfLines_spec (lines : List (List Char)) :
    WithoutFinalBreak lines.flatten (textOfLines lines) := by
  simp only [textOfLines]
  obtain ⟨s, s_eq⟩ : ∃ s, lines.flatten.reverse = s := ⟨_, rfl⟩
  have text_eq : lines.flatten = s.reverse := by rw [← s_eq, List.reverse_reverse]
  rw [s_eq, text_eq]
  split
  · exact .inl (by simp)
  · rename_i rest no_return
    refine .inr (.inl ⟨by simp, fun last => ?_⟩)
    rw [List.getLast?_reverse] at last
    obtain ⟨tail, rfl⟩ := List.head?_eq_some_iff.mp last
    exact no_return tail rfl
  · rename_i no_break
    refine .inr (.inr ⟨rfl, fun last => ?_⟩)
    rw [List.getLast?_reverse] at last
    obtain ⟨tail, rfl⟩ := List.head?_eq_some_iff.mp last
    exact no_break tail rfl

theorem textOfLines_eq {lines : List (List Char)} {text : List Char}
    (cut : WithoutFinalBreak lines.flatten text) : textOfLines lines = text := by
  obtain ⟨reversed, rfl⟩ : ∃ reversed, text = reversed.reverse :=
    ⟨text.reverse, text.reverse_reverse.symm⟩
  rw [WithoutFinalBreak, List.getLast?_reverse] at cut
  rcases cut with cut | ⟨cut, last⟩ | ⟨cut, last⟩
  · simp [textOfLines, cut]
  · simp only [textOfLines, cut, List.reverse_append, List.reverse_reverse]
    cases reversed with
    | nil => rfl
    | cons c reversed =>
        have c_ne : c ≠ '\r' := fun same => last (congrArg some same)
        simp [c_ne]
  · simp only [textOfLines, cut, List.reverse_reverse]
    cases reversed with
    | nil => rfl
    | cons c reversed =>
        have c_ne : c ≠ '\n' := fun same => last (congrArg some same)
        simp [c_ne]

theorem getElem?_number (index : Nat) (pages : List (Nat × List (List Char))) (i : Nat) :
    (number index pages)[i]? = pages[i]?.map fun page =>
      { index := index + i, text := textOfLines page.2, firstLine := page.1 } := by
  induction pages generalizing index i with
  | nil => rfl
  | cons page pages ih =>
      cases i with
      | zero => rfl
      | succ i =>
          simp only [number, List.getElem?_cons_succ, ih]
          rw [show index + 1 + i = index + (i + 1) by omega]

theorem length_number (index : Nat) (pages : List (Nat × List (List Char))) :
    (number index pages).length = pages.length := by
  induction pages generalizing index with
  | nil => rfl
  | cons page pages ih => simp [number, ih]

/-- The segments of a scan in terms of the marks of its lines. Each separator starts a segment on
the line behind it. -/
theorem segments_eq_cuts (fence : Option Fence) (start : Nat) (lines : List (List Char)) :
    ∃ first cuts,
      scanMarks fence start lines = first ++ cutLines cuts ∧
      (∀ mark ∈ first, separates mark = false) ∧
      (∀ cut ∈ cuts, separates cut.1 = true ∧ ∀ mark ∈ cut.2, separates mark = false) ∧
      (segments fence start lines).first = first.map Prod.snd ∧
      (segments fence start lines).others.length = cuts.length ∧
      ∀ i : Fin cuts.length, (segments fence start lines).others[i]? =
        some (start + (first ++ cutLines (cuts.take i)).length + 1, cuts[i].2.map Prod.snd) := by
  induction lines generalizing fence start with
  | nil => exact ⟨[], [], rfl, by simp, by simp, rfl, rfl, fun i => i.elim0⟩
  | cons line rest ih =>
      obtain ⟨first, cuts, marks_eq, plain, cut, first_eq, length_eq, others_eq⟩ :=
        ih (observe fence (content line) start).1 (start + 1)
      obtain ⟨mark, mark_eq⟩ : ∃ mark, ((observe fence (content line) start).2, line) = mark :=
        ⟨_, rfl⟩
      have test :
          (!(observe fence (content line) start).2 && isSeparator line) = separates mark := by
        rw [← mark_eq, separates, isSeparator, trimEnd_content]
      simp only [scanMarks, segments, test, mark_eq, marks_eq]
      cases here : separates mark with
      | true =>
          refine ⟨[], (mark, first) :: cuts, by simp [cutLines], by simp, ?_, rfl, ?_, ?_⟩
          · intro c member
            rcases List.mem_cons.mp member with rfl | member
            · exact ⟨here, plain⟩
            · exact cut c member
          · simp [length_eq]
          · rintro ⟨i, bound⟩
            cases i with
            | zero => simp [cutLines, first_eq]
            | succ i =>
                have later := others_eq ⟨i, by simpa using bound⟩
                simp only [Fin.getElem?_fin, Fin.getElem_fin] at later
                simp [later, cutLines_cons]
                omega
      | false =>
          refine ⟨mark :: first, cuts, by simp, ?_, cut, ?_, length_eq, ?_⟩
          · intro m member
            rcases List.mem_cons.mp member with rfl | member
            · exact here
            · exact plain m member
          · simp [Segments.push, first_eq, ← mark_eq]
          · intro i
            have later := others_eq i
            simp only [Segments.push, Bool.false_eq_true, if_false] at later ⊢
            rw [later]
            simp
            omega

theorem countP_cuts {first : List (Bool × List Char)} {cuts : List Cut}
    (plain : ∀ mark ∈ first, separates mark = false)
    (cut : ∀ cut ∈ cuts, separates cut.1 = true ∧ ∀ mark ∈ cut.2, separates mark = false) :
    (first ++ cutLines cuts).countP separates = cuts.length := by
  have none_in : ∀ {marks : List (Bool × List Char)}, (∀ mark ∈ marks, separates mark = false) →
      marks.countP separates = 0 := fun all =>
    List.countP_eq_zero.mpr fun mark member => by simp [all mark member]
  induction cuts with
  | nil => simp [cutLines, none_in plain]
  | cons c cuts ih =>
      obtain ⟨separator, inside⟩ := cut c List.mem_cons_self
      have rest := ih fun d member => cut d (List.mem_cons_of_mem c member)
      rw [List.countP_append, none_in plain, Nat.zero_add] at rest ⊢
      rw [cutLines_cons, List.countP_append, List.countP_cons, none_in inside, rest]
      simp [separator]
      omega

end SlideDeck.Page

namespace SlideDeck

open Page

/-- Splitting a body is exact. One marking of its lines says which of them lie in fences; the
separators among them cut the body into a first segment and one segment behind each separator, and
nothing else is lost. There is one page more than there are separators. Page `i` has the number
`i + 1`, the text of its segment without at most one line break at the end, and the number of its
first line counts all lines in front of its segment. -/
theorem splitPages_exact (body : List Char) (firstLine : Nat) :
    ∃ marks first cuts,
      (∀ other, FenceMarks (Text.lines body) other ↔ other = marks) ∧
      body = textOf marks ∧
      marks = first ++ cutLines cuts ∧
      (∀ mark ∈ first, separates mark = false) ∧
      (∀ cut ∈ cuts, separates cut.1 = true ∧ ∀ mark ∈ cut.2, separates mark = false) ∧
      (splitPages body firstLine).pages.length = marks.countP separates + 1 ∧
      (∃ text, WithoutFinalBreak (textOf first) text ∧
        (splitPages body firstLine).pages[0]? = some { index := 1, text, firstLine }) ∧
      ∀ i : Fin cuts.length, ∃ text, WithoutFinalBreak (textOf cuts[i].2) text ∧
        (splitPages body firstLine).pages[i.val + 1]? =
          some
            { index := i + 2
              text
              firstLine := firstLine + (first ++ cutLines (cuts.take i)).length + 1 } := by
  obtain ⟨first, cuts, marks_eq, plain, cut, first_eq, length_eq, others_eq⟩ :=
    segments_eq_cuts none firstLine (Text.lines body)
  have marked := fenceMarks_scanMarks firstLine (Text.lines body)
  refine ⟨_, first, cuts, fun _ => fenceMarks_iff firstLine, ?_, marks_eq, plain, cut, ?_, ?_, ?_⟩
  · rw [textOf, map_snd_scanMarks, Text.flatten_lines]
  · rw [marks_eq, countP_cuts plain cut]
    simp [splitPages, length_number, length_eq]
  · refine ⟨_, textOfLines_spec (first.map Prod.snd), ?_⟩
    simp [splitPages, getElem?_number, first_eq]
  · intro i
    refine ⟨_, textOfLines_spec _, ?_⟩
    have there := others_eq i
    simp only [Fin.getElem?_fin] at there
    simp [splitPages, getElem?_number, there]
    omega

example : (splitPages "a\n~~~\n---\n~~~\n---\nb\n".toList 1).pages.map RawPage.firstLine = [1, 6] := by
  decide

end SlideDeck
