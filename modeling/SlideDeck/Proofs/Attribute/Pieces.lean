import Mathlib.Tactic.Common
import SlideDeck.Attribute.Token

/-!
# Pieces of an annotation

A text is solid when reading it leaves no quote open and cuts nothing off. A solid text in front of
white space, or of nothing, is one piece (`pieces_append`), and the white space that follows it says
nothing (`pieces_blank_append`).
-/

namespace SlideDeck.Token

/-- A text without white space and without quotes. -/
def Plain (s : List Char) : Prop := ∀ c ∈ s, Text.isBlank c = false ∧ isQuote c = false

instance (s : List Char) : Decidable (Plain s) :=
  decidable_of_iff (s.all fun c => !Text.isBlank c && !isQuote c) (by simp [Plain])

/-- A value between two quotes. -/
def quoted (quote : Char) (value : List Char) : List Char := quote :: (value ++ [quote])

theorem quoted_ne_nil (quote : Char) (value : List Char) : quoted quote value ≠ [] :=
  List.cons_ne_nil _ _

/-- A text that the cutting reads to the end of the piece it is in. -/
def Solid (s : List Char) : Prop :=
  ∀ piece rest, piecesFrom none piece (s ++ rest) = piecesFrom none (s.reverse ++ piece) rest

theorem isQuote_iff {c : Char} : isQuote c = true ↔ c = '"' ∨ c = '\x27' := by
  rw [isQuote, Bool.or_eq_true, decide_eq_true_eq, decide_eq_true_eq]

theorem isQuote_of_isBlank {c : Char} (blank : Text.isBlank c = true) : isQuote c = false := by
  by_contra quotes
  rcases isQuote_iff.mp (Bool.not_eq_false _ ▸ quotes) with rfl | rfl
  · exact absurd blank (by decide)
  · exact absurd blank (by decide)

theorem Plain.solid {s : List Char} (plain : Plain s) : Solid s := by
  induction s with
  | nil => exact fun _ _ => rfl
  | cons c s ih =>
      intro piece rest
      obtain ⟨here, later⟩ := List.forall_mem_cons.mp plain
      simp [piecesFrom, here.1, here.2, ih later (c :: piece) rest]

theorem Solid.append {s t : List Char} (first : Solid s) (second : Solid t) : Solid (s ++ t) := by
  intro piece rest
  rw [List.append_assoc, first, second, List.reverse_append, List.append_assoc]

/-- Within a quote, everything up to its end belongs to the piece. -/
theorem piecesFrom_some_append {quote : Char} {value : List Char} (closed : quote ∉ value)
    (piece rest : List Char) :
    piecesFrom (some quote) piece (value ++ quote :: rest) =
      piecesFrom none (quote :: (value.reverse ++ piece)) rest := by
  induction value generalizing piece with
  | nil => simp [piecesFrom]
  | cons c value ih =>
      rw [List.mem_cons, not_or] at closed
      simp [piecesFrom, Ne.symm closed.1, ih closed.2 (c :: piece)]

theorem solid_quoted {quote : Char} {value : List Char} (quotes : isQuote quote = true)
    (closed : quote ∉ value) : Solid (quoted quote value) := by
  intro piece rest
  have opened : piecesFrom none piece (quoted quote value ++ rest) =
      piecesFrom (some quote) (quote :: piece) (value ++ quote :: rest) := by
    simp [quoted, piecesFrom, quotes]
  rw [opened, piecesFrom_some_append closed]
  simp [quoted]

/-- White space in front of pieces does not matter. -/
theorem pieces_blank_append {gap : List Char} (blank : ∀ c ∈ gap, Text.isBlank c = true)
    (rest : List Char) : pieces (gap ++ rest) = pieces rest := by
  induction gap with
  | nil => rfl
  | cons c gap ih =>
      obtain ⟨here, later⟩ := List.forall_mem_cons.mp blank
      rw [← ih later]
      simp [pieces, piecesFrom, here, isQuote_of_isBlank here]

/-- White space parts what stands in front of it from what follows. -/
theorem parted_gap {gap : List Char} (gap_ne : gap ≠ [])
    (blank : ∀ c ∈ gap, Text.isBlank c = true) (rest : List Char) :
    ∀ c ∈ (gap ++ rest).head?, Text.isBlank c = true := by
  obtain ⟨first, gap, rfl⟩ := List.exists_cons_of_ne_nil gap_ne
  intro c head
  obtain rfl := Option.some.inj head
  exact blank first List.mem_cons_self

/-- A solid text in front of white space, or of nothing, is a piece. -/
theorem pieces_append {s : List Char} (s_ne : s ≠ []) (solid : Solid s) {rest : List Char}
    (parted : ∀ c ∈ rest.head?, Text.isBlank c = true) : pieces (s ++ rest) = s :: pieces rest := by
  have read : pieces (s ++ rest) = piecesFrom none s.reverse rest := by
    rw [pieces, solid, List.append_nil]
  rw [read]
  cases rest with
  | nil => simp [pieces, piecesFrom, s_ne]
  | cons c rest =>
      have blank : Text.isBlank c = true := parted c rfl
      simp [pieces, piecesFrom, blank, isQuote_of_isBlank blank, s_ne]

end SlideDeck.Token
