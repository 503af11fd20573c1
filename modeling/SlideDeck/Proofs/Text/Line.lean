import Mathlib.Tactic.Common
import SlideDeck.Text.Blank
import SlideDeck.Text.Line

/-!
# Whole lines

The lines of a text are whole lines, each with the only line feed at its end, and perhaps a last
one without a line feed (`exists_of_mem_lines`). A whole line in front of a text is one line more
(`lines_line_append`).
-/

namespace SlideDeck

namespace Text

theorem lines_of_free {s : List Char} (free : '\n' ∉ s) (s_ne : s ≠ []) : lines s = [s] := by
  obtain ⟨c, rest, rfl⟩ := List.exists_cons_of_ne_nil s_ne
  induction rest generalizing c with
  | nil =>
      have c_ne : c ≠ '\n' := fun same => free (by simp [same])
      simp [lines, c_ne]
  | cons d rest ih =>
      obtain ⟨c_ne, free⟩ := not_or.mp (mt List.mem_cons.mpr free)
      rw [lines, if_neg (Ne.symm c_ne), ih d free (List.cons_ne_nil d rest)]

/-- A text is made of whole lines and what stands behind its last line feed. -/
theorem exists_last_line (s : List Char) :
    ∃ front last, s = front ++ last ∧ (∀ c ∈ front.getLast?, c = '\n') ∧ '\n' ∉ last := by
  obtain ⟨last, split, kept⟩ := exists_dropEndWhile_append (· ≠ '\n') s
  refine ⟨_, last, split, fun c ends => ?_, fun feed => by simpa using kept '\n' feed⟩
  have stops := (dropEndWhile_eq_iff.mp (rfl : dropEndWhile (· ≠ '\n') s = _)).2 c ends
  simpa using stops

end Text

namespace Page

/-- A whole line: it ends in its only line feed. -/
def IsLine (line : List Char) : Prop := ∃ content, line = content ++ ['\n'] ∧ '\n' ∉ content

theorem IsLine.getLast?_eq {line : List Char} (whole : IsLine line) :
    line.getLast? = some '\n' := by
  obtain ⟨content, rfl, -⟩ := whole
  simp

theorem lines_line_append {line : List Char} (whole : IsLine line) (t : List Char) :
    Text.lines (line ++ t) = line :: Text.lines t := by
  obtain ⟨content, rfl, free⟩ := whole
  induction content with
  | nil => rfl
  | cons c content ih =>
      obtain ⟨c_ne, free⟩ := not_or.mp (mt List.mem_cons.mpr free)
      simp only [List.cons_append, Text.lines, Ne.symm c_ne, if_false] at ih ⊢
      rw [ih free]

theorem lines_flatten_append {lines : List (List Char)} (whole : ∀ line ∈ lines, IsLine line)
    (t : List Char) : Text.lines (lines.flatten ++ t) = lines ++ Text.lines t := by
  induction lines with
  | nil => rfl
  | cons line rest ih =>
      obtain ⟨here, behind⟩ := List.forall_mem_cons.mp whole
      rw [List.flatten_cons, List.append_assoc, lines_line_append here, ih behind,
        List.cons_append]

/-- The lines of a text that ends in a line feed all do. -/
theorem getLast?_of_mem_lines {s : List Char} (ends : ∀ c ∈ s.getLast?, c = '\n') :
    ∀ line ∈ Text.lines s, line.getLast? = some '\n' := by
  induction s with
  | nil => simp [Text.lines]
  | cons c rest ih =>
      have rest_ends : ∀ d ∈ rest.getLast?, d = '\n' := by
        intro d last
        cases rest with
        | nil => simp at last
        | cons e rest => exact ends d (by rwa [List.getLast?_cons_cons])
      have behind := ih rest_ends
      by_cases feed : c = '\n'
      · simpa [Text.lines, feed] using behind
      · cases found : Text.lines rest with
        | nil =>
            have rest_nil : rest = [] := by
              by_contra rest_ne
              exact Text.lines_ne_nil rest_ne found
            exact absurd (ends c (by simp [rest_nil])) feed
        | cons line others =>
            rw [found] at behind
            obtain ⟨here, behind⟩ := List.forall_mem_cons.mp behind
            simp only [Text.lines, feed, if_false, found]
            refine List.forall_mem_cons.mpr ⟨?_, behind⟩
            rw [List.getLast?_cons, here]
            rfl

theorem getLast?_flatten_of_forall {c : Char} {lines : List (List Char)}
    (ends : ∀ line ∈ lines, line.getLast? = some c) : ∀ d ∈ lines.flatten.getLast?, d = c := by
  induction lines with
  | nil => simp
  | cons line rest ih =>
      obtain ⟨here, behind⟩ := List.forall_mem_cons.mp ends
      intro d last
      rw [List.flatten_cons, List.getLast?_append, here] at last
      cases found : rest.flatten.getLast? with
      | none => simpa [found, eq_comm] using last
      | some e =>
          rw [found] at last
          exact (Option.some.inj last) ▸ ih behind e found

/-- The first line of a text is whole, or it is all of the text and has no line feed. -/
theorem exists_of_lines_eq_cons {s line : List Char} {rest : List (List Char)}
    (lines_eq : Text.lines s = line :: rest) :
    ∃ t, s = line ++ t ∧ Text.lines t = rest ∧ (IsLine line ∨ t = [] ∧ '\n' ∉ line) := by
  induction s generalizing line rest with
  | nil => cases lines_eq
  | cons c s ih =>
      by_cases feed : c = '\n'
      · simp only [Text.lines, feed, if_true] at lines_eq
        obtain ⟨rfl, rfl⟩ := List.cons.inj lines_eq
        exact ⟨s, by simp [feed], rfl, .inl ⟨[], rfl, by simp⟩⟩
      · cases found : Text.lines s with
        | nil =>
            simp only [Text.lines, feed, if_false, found] at lines_eq
            obtain ⟨rfl, rfl⟩ := List.cons.inj lines_eq
            have s_nil : s = [] := by
              by_contra s_ne
              exact Text.lines_ne_nil s_ne found
            exact ⟨[], by simp [s_nil], rfl, .inr ⟨rfl, by simpa using Ne.symm feed⟩⟩
        | cons first others =>
            simp only [Text.lines, feed, if_false, found] at lines_eq
            obtain ⟨rfl, rfl⟩ := List.cons.inj lines_eq
            obtain ⟨t, rfl, others_eq, ⟨content, rfl, free⟩ | ⟨rfl, free⟩⟩ := ih found
            · exact ⟨t, rfl, others_eq, .inl ⟨c :: content, rfl, by simp [Ne.symm feed, free]⟩⟩
            · exact ⟨[], rfl, others_eq, .inr ⟨rfl, by simp [Ne.symm feed, free]⟩⟩

/-- Only the last line of a text may have no line feed. -/
theorem isLine_of_lines_eq {s line : List Char} {above below : List (List Char)}
    (lines_eq : Text.lines s = above ++ line :: below) :
    (∀ l ∈ above, IsLine l) ∧ (IsLine line ∨ below = [] ∧ '\n' ∉ line) := by
  induction above generalizing s with
  | nil =>
      obtain ⟨t, -, rfl, whole | ⟨rfl, free⟩⟩ := exists_of_lines_eq_cons lines_eq
      · exact ⟨by simp, .inl whole⟩
      · exact ⟨by simp, .inr ⟨rfl, free⟩⟩
  | cons first above ih =>
      obtain ⟨t, -, rest_eq, whole | ⟨rfl, -⟩⟩ := exists_of_lines_eq_cons lines_eq
      · obtain ⟨above_whole, last⟩ := ih rest_eq
        exact ⟨List.forall_mem_cons.mpr ⟨whole, above_whole⟩, last⟩
      · simp [Text.lines] at rest_eq

/-- A line is a text without line feeds, and the line feed behind it if it is whole. -/
theorem exists_of_mem_lines {s line : List Char} (member : line ∈ Text.lines s) :
    ∃ words ending, line = words ++ ending ∧ '\n' ∉ words ∧ (ending = ['\n'] ∨ ending = []) := by
  obtain ⟨above, below, lines_eq⟩ := List.append_of_mem member
  obtain ⟨-, ⟨content, rfl, free⟩ | ⟨-, free⟩⟩ := isLine_of_lines_eq lines_eq
  · exact ⟨content, ['\n'], rfl, free, .inl rfl⟩
  · exact ⟨line, [], (List.append_nil line).symm, free, .inr rfl⟩

theorem countBreaks_flatten {lines : List (List Char)} (whole : ∀ line ∈ lines, IsLine line) :
    Text.countBreaks lines.flatten = lines.length := by
  induction lines with
  | nil => rfl
  | cons line rest ih =>
      obtain ⟨⟨content, rfl, free⟩, behind⟩ := List.forall_mem_cons.mp whole
      have later := ih behind
      rw [Text.countBreaks] at later ⊢
      simp [List.count_append, List.count_eq_zero_of_not_mem free, later]

/-- A text that ends in a line feed has as many lines as line feeds. -/
theorem length_lines {s : List Char} (ends : ∀ c ∈ s.getLast?, c = '\n') :
    (Text.lines s).length = Text.countBreaks s := by
  have whole : ∀ line ∈ Text.lines s, IsLine line := by
    intro line member
    obtain ⟨words, ending, rfl, free, rfl | rfl⟩ := exists_of_mem_lines member
    · exact ⟨words, rfl, free⟩
    · have last := getLast?_of_mem_lines ends _ member
      rw [List.append_nil] at last
      exact absurd (List.mem_of_getLast? last) free
  rw [← countBreaks_flatten whole, Text.flatten_lines]

end Page

end SlideDeck
