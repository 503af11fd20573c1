/-!
# Lines

A text as a list of lines that keep their line feeds, so that the lines of a text join to the text.
A text that ends in a line feed has no empty line behind it.
-/

namespace SlideDeck.Text

/-- The lines of a text, each with its line feed; only the last may lack one. -/
def lines : List Char → List (List Char)
  | [] => []
  | c :: rest =>
    if c = '\n' then [c] :: lines rest
    else
      match lines rest with
      | [] => [[c]]
      | line :: others => (c :: line) :: others

/-- The lines of a text join to the text. -/
theorem flatten_lines (s : List Char) : (lines s).flatten = s := by
  induction s with
  | nil => rfl
  | cons c rest ih =>
    by_cases hc : c = '\n'
    · simp [lines, hc, ih]
    · simp only [lines, hc, if_false]
      cases hl : lines rest with
      | nil => simp_all
      | cons line others => simp_all

theorem lines_ne_nil {s : List Char} (s_ne : s ≠ []) : lines s ≠ [] := by
  intro none_found
  have joined := flatten_lines s
  rw [none_found] at joined
  exact s_ne joined.symm

/-- Text behind a line feed starts a new line. -/
theorem lines_append_break (s t : List Char) :
    lines (s ++ '\n' :: t) = lines (s ++ ['\n']) ++ lines t := by
  induction s with
  | nil => rfl
  | cons c rest ih =>
    by_cases hc : c = '\n'
    · simp [lines, hc, ih]
    · obtain ⟨line, others, found⟩ :=
        List.exists_cons_of_ne_nil (lines_ne_nil (s := rest ++ ['\n']) (by simp))
      simp only [List.cons_append, lines, hc, if_false, ih, found]

/-- The lines of a text that ends in a line feed stay as they are when text is added. -/
theorem lines_append {s : List Char} (ends : ∀ c ∈ s.getLast?, c = '\n') (t : List Char) :
    lines (s ++ t) = lines s ++ lines t := by
  cases last : s.getLast? with
  | none =>
    rw [List.getLast?_eq_none_iff.mp last]
    rfl
  | some c =>
    obtain ⟨front, rfl⟩ := List.getLast?_eq_some_iff.mp last
    rw [ends c last, List.append_assoc]
    exact lines_append_break front t

/-- The number of line feeds in a text. -/
def countBreaks (s : List Char) : Nat := s.count '\n'

/-- The size of a text in UTF-8. -/
def byteSize (s : List Char) : Nat := s.foldl (fun size c => size + c.utf8Size) 0

end SlideDeck.Text
