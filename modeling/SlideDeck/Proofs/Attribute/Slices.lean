import Mathlib.Data.List.Induction
import SlideDeck.Proofs.Attribute.Concatenation

/-!
# Where the pieces of an annotation lie

An annotation is read from the left. A quote character opens a quote, which runs to the next equal
character, or to the end of the text if there is none. The pieces are slices of the text in order,
none of them empty and no two of them adjacent, and a place lies in none of them exactly if it is
white space outside quotes (`pieces_slices`).
-/

namespace SlideDeck.Token

/-- A text in which every quote that is opened is closed again. -/
inductive Closed : List Char → Prop
  /-- The empty text. -/
  | nil : Closed []
  /-- A character that opens no quote. -/
  | plain {s : List Char} {c : Char} (closed : Closed s) (unquoted : isQuote c = false) :
      Closed (s ++ [c])
  /-- A quote up to the next equal character. -/
  | quoted {s body : List Char} {quote : Char} (closed : Closed s) (quotes : isQuote quote = true)
      (free : quote ∉ body) : Closed (s ++ Token.quoted quote body)

/-- A text that ends behind an opened quote. -/
inductive Opened (quote : Char) : List Char → Prop
  /-- The quote character and what is in the quote so far. -/
  | intro {front body : List Char} (closed : Closed front) (quotes : isQuote quote = true)
      (free : quote ∉ body) : Opened quote (front ++ quote :: body)

/-- A place of a text lies in quotes: a quote is open behind what stands in front of it. -/
def InQuotes (s : List Char) (n : Nat) : Prop := ∃ quote, Opened quote (s.take n)

/-- A place of a text is white space outside quotes. -/
def IsGap (s : List Char) (n : Nat) : Prop :=
  (∃ c ∈ s[n]?, Text.isBlank c = true) ∧ ¬InQuotes s n

/-- The text from a place up to another one. -/
def slice (s : List Char) (span : Nat × Nat) : List Char := (s.take span.2).drop span.1

/-! ## Quotes -/

theorem foldl_quoteBehind_of_not_mem {quote : Char} {body : List Char} (free : quote ∉ body) :
    body.foldl quoteBehind (some quote) = some quote := by
  induction body with
  | nil => rfl
  | cons c body ih =>
      rw [List.mem_cons, not_or] at free
      rw [List.foldl_cons, quoteBehind, if_neg (Ne.symm free.1), ih free.2]

theorem quoteBehind_of_isQuote {quote : Char} (quotes : isQuote quote = true) :
    quoteBehind none quote = some quote := if_pos quotes

theorem Closed.balanced {s : List Char} (closed : Closed s) : Balanced s := by
  induction closed with
  | nil => rfl
  | plain _ unquoted ih =>
      rw [Balanced, List.foldl_append, ih, List.foldl_cons, quoteBehind, unquoted]
      rfl
  | quoted _ quotes free ih =>
      rw [Balanced, List.foldl_append, ih, Token.quoted, List.foldl_cons,
        quoteBehind_of_isQuote quotes, List.foldl_append, foldl_quoteBehind_of_not_mem free]
      exact if_pos rfl

theorem Opened.foldl {quote : Char} {s : List Char} (opened : Opened quote s) :
    s.foldl quoteBehind none = some quote := by
  obtain ⟨closed, quotes, free⟩ := opened
  rw [List.foldl_append, closed.balanced, List.foldl_cons, quoteBehind_of_isQuote quotes,
    foldl_quoteBehind_of_not_mem free]

/-- A text is closed, or it ends behind the quote that the reading has met. -/
theorem closed_or_opened (s : List Char) :
    (s.foldl quoteBehind none = none ∧ Closed s) ∨
      ∃ quote, s.foldl quoteBehind none = some quote ∧ Opened quote s := by
  induction s using List.reverseRecOn with
  | nil => exact .inl ⟨rfl, .nil⟩
  | append_singleton s c ih =>
      rw [List.foldl_append, List.foldl_cons, List.foldl_nil]
      obtain ⟨read, closed⟩ | ⟨quote, read, opened⟩ := ih
      · rw [read]
        cases quotes : isQuote c with
        | false => exact .inl ⟨by simp [quoteBehind, quotes], closed.plain quotes⟩
        | true => exact .inr ⟨c, quoteBehind_of_isQuote quotes, .intro closed quotes (by simp)⟩
      · rw [read]
        obtain ⟨closed, quotes, free⟩ := opened
        by_cases same : c = quote
        · subst same
          refine .inl ⟨if_pos rfl, ?_⟩
          rw [List.append_assoc]
          exact closed.quoted quotes free
        · refine .inr ⟨quote, if_neg same, ?_⟩
          rw [List.append_assoc]
          exact .intro closed quotes (by simp [free, Ne.symm same])

theorem inQuotes_iff {s : List Char} {n : Nat} :
    InQuotes s n ↔ (s.take n).foldl quoteBehind none ≠ none := by
  constructor
  · rintro ⟨quote, opened⟩
    rw [opened.foldl]
    exact Option.some_ne_none quote
  · intro met
    obtain ⟨unmet, -⟩ | ⟨quote, -, opened⟩ := closed_or_opened (s.take n)
    · exact absurd unmet met
    · exact ⟨quote, opened⟩

theorem getElem?_of_drop {s rest : List Char} {c : Char} {n : Nat} (here : s.drop n = c :: rest) :
    s[n]? = some c := by
  rw [← List.head?_drop, here, List.head?_cons]

theorem isGap_iff {s rest : List Char} {c : Char} {n : Nat} (here : s.drop n = c :: rest) :
    IsGap s n ↔ Text.isBlank c = true ∧ (s.take n).foldl quoteBehind none = none := by
  rw [IsGap, inQuotes_iff, getElem?_of_drop here, not_not]
  simp

/-! ## Spans -/

/-- The spans of the pieces of a text from a place on. -/
structure Spans (s : List Char) (start : Nat) (spans : List (Nat × Nat)) : Prop where
  /-- No span is empty, and all lie in the text. -/
  proper : ∀ span ∈ spans, start ≤ span.1 ∧ span.1 < span.2 ∧ span.2 ≤ s.length
  /-- The spans are in order, and something stands between any two. -/
  apart : spans.Pairwise fun left right => left.2 < right.1
  /-- What lies in no span is white space outside quotes. -/
  covers : ∀ n, start ≤ n → n < s.length →
    ((∃ span ∈ spans, span.1 ≤ n ∧ n < span.2) ↔ ¬IsGap s n)

namespace Spans

variable {s : List Char} {start stop : Nat} {spans : List (Nat × Nat)}

theorem nil (s : List Char) : Spans s s.length [] where
  proper _ member := nomatch member
  apart := .nil
  covers _ from_end inside := absurd inside (Nat.not_lt.mpr from_end)

theorem skip (gap : IsGap s start) (behind : Spans s (start + 1) spans) : Spans s start spans where
  proper span member :=
    have := behind.proper span member
    ⟨by omega, this.2⟩
  apart := behind.apart
  covers n from_start inside := by
    rcases Nat.eq_or_lt_of_le from_start with rfl | later
    · refine iff_of_false ?_ (not_not.mpr gap)
      rintro ⟨span, member, reached, -⟩
      have := behind.proper span member
      omega
    · exact behind.covers n later inside

/-- A piece that nothing follows. -/
theorem last (nonempty : start < s.length)
    (solid : ∀ n, start ≤ n → n < s.length → ¬IsGap s n) : Spans s start [(start, s.length)] where
  proper := List.forall_mem_singleton.mpr ⟨Nat.le_refl start, nonempty, Nat.le_refl s.length⟩
  apart := List.pairwise_singleton _ _
  covers n from_start inside :=
    iff_of_true ⟨_, List.mem_singleton_self _, from_start, inside⟩ (solid n from_start inside)

/-- A piece in front of white space. -/
theorem cons (nonempty : start < stop) (within : stop < s.length)
    (solid : ∀ n, start ≤ n → n < stop → ¬IsGap s n) (gap : IsGap s stop)
    (behind : Spans s (stop + 1) spans) : Spans s start ((start, stop) :: spans) where
  proper := by
    refine List.forall_mem_cons.mpr ⟨⟨Nat.le_refl start, nonempty, Nat.le_of_lt within⟩, ?_⟩
    intro span member
    have := behind.proper span member
    omega
  apart := List.pairwise_cons.mpr ⟨fun span member => (behind.proper span member).1, behind.apart⟩
  covers n from_start inside := by
    rcases Nat.lt_or_ge n stop with early | late
    · exact iff_of_true ⟨_, List.mem_cons_self, from_start, early⟩ (solid n from_start early)
    · rw [← (behind.skip gap).covers n late inside]
      simp only [List.mem_cons, exists_eq_or_imp]
      exact or_iff_right fun reached => absurd reached.2 (Nat.not_lt.mpr late)

end Spans

/-! ## Cutting -/

/-- A character that is no white space outside quotes goes to the piece that is being read. -/
theorem piecesFrom_kept {quote : Option Char} {c : Char}
    (kept : ¬(Text.isBlank c = true ∧ quote = none)) (piece rest : List Char) :
    piecesFrom quote piece (c :: rest) = piecesFrom (quoteBehind quote c) (c :: piece) rest := by
  cases quote with
  | some opened => rfl
  | none =>
      have visible : Text.isBlank c = false := by simpa using kept
      by_cases quotes : isQuote c = true
      · simp [piecesFrom, quoteBehind, quotes]
      · simp [piecesFrom, quoteBehind, quotes, visible]

/-- White space outside quotes ends the piece that is being read, if there is one. -/
theorem piecesFrom_blank {c : Char} (blank : Text.isBlank c = true) (piece rest : List Char) :
    piecesFrom none piece (c :: rest) =
      if piece = [] then piecesFrom none [] rest
      else piece.reverse :: piecesFrom none [] rest := by
  cases piece <;> simp [piecesFrom, isQuote_of_isBlank blank, blank]

theorem slice_self (s : List Char) (n : Nat) : slice s (n, n) = [] := by
  simp [slice]

theorem slice_succ {s rest : List Char} {c : Char} {start n : Nat} (started : start ≤ n)
    (here : s.drop n = c :: rest) : slice s (start, n + 1) = slice s (start, n) ++ [c] := by
  have inside : n < s.length := (List.getElem?_eq_some_iff.mp (getElem?_of_drop here)).1
  rw [slice, slice, List.take_add_one, getElem?_of_drop here, List.drop_append_of_le_length]
  · rfl
  · rw [List.length_take]
    omega

theorem slice_ne_nil {s : List Char} {start n : Nat} (nonempty : start < n)
    (within : n ≤ s.length) : slice s (start, n) ≠ [] := by
  apply List.ne_nil_of_length_pos
  rw [slice, List.length_drop, List.length_take]
  omega

/-- The pieces that are read from a place on, the one that started earlier included. -/
theorem exists_spans {s rest : List Char} {start n : Nat} (started : start ≤ n)
    (within : n ≤ s.length) (here : s.drop n = rest)
    (solid : ∀ m, start ≤ m → m < n → ¬IsGap s m) :
    ∃ spans, Spans s start spans ∧
      piecesFrom ((s.take n).foldl quoteBehind none) (slice s (start, n)).reverse rest =
        spans.map (slice s) := by
  -- what is left shrinks; the quote that is open is the one behind what was read
  induction rest generalizing start n with
  | nil =>
      obtain rfl : n = s.length := by
        have := List.drop_eq_nil_iff.mp here
        omega
      rcases Nat.eq_or_lt_of_le started with rfl | nonempty
      · exact ⟨[], .nil s, by simp [piecesFrom, slice_self]⟩
      · refine ⟨_, .last nonempty solid, ?_⟩
        simp [piecesFrom, slice_ne_nil nonempty (Nat.le_refl _)]
  | cons c rest ih =>
      have behind : s.drop (n + 1) = rest := by
        rw [← List.tail_drop, here, List.tail_cons]
      have at_place : s[n]? = some c := getElem?_of_drop here
      have inside : n < s.length := (List.getElem?_eq_some_iff.mp at_place).1
      have read : (s.take (n + 1)).foldl quoteBehind none =
          quoteBehind ((s.take n).foldl quoteBehind none) c := by
        rw [List.take_add_one, at_place, List.foldl_append]
        rfl
      by_cases gap : IsGap s n
      · obtain ⟨blank, outside⟩ := (isGap_iff here).mp gap
        have still : quoteBehind none c = none := by
          simp [quoteBehind, isQuote_of_isBlank blank]
        obtain ⟨spans, spanned, made⟩ :=
          ih (Nat.le_refl (n + 1)) inside behind fun m low high => absurd low (Nat.not_le.mpr high)
        rw [read, outside, still, slice_self, List.reverse_nil] at made
        rw [outside, piecesFrom_blank blank, made]
        rcases Nat.eq_or_lt_of_le started with rfl | nonempty
        · exact ⟨spans, spanned.skip gap, if_pos (by rw [slice_self, List.reverse_nil])⟩
        · refine ⟨_, spanned.cons nonempty inside solid gap, ?_⟩
          rw [if_neg (List.reverse_ne_nil_iff.mpr (slice_ne_nil nonempty within)),
            List.reverse_reverse, List.map_cons]
      · have solid_on : ∀ m, start ≤ m → m < n + 1 → ¬IsGap s m := by
          intro m low high
          rcases Nat.lt_succ_iff_lt_or_eq.mp high with early | rfl
          · exact solid m low early
          · exact gap
        obtain ⟨spans, spanned, made⟩ := ih (Nat.le_succ_of_le started) inside behind solid_on
        refine ⟨spans, spanned, ?_⟩
        rw [piecesFrom_kept (mt (isGap_iff here).mpr gap), ← read, ← made,
          slice_succ started here, List.reverse_append]
        rfl

/-- The pieces of an annotation are slices of it, in order. No slice is empty, something stands
between any two, and what lies in no slice is white space outside quotes; all white space in the
slices is in quotes. -/
theorem pieces_slices (s : List Char) :
    ∃ spans : List (Nat × Nat),
      pieces s = spans.map (slice s) ∧
      (∀ span ∈ spans, span.1 < span.2 ∧ span.2 ≤ s.length) ∧
      (spans.Pairwise fun left right => left.2 < right.1) ∧
      ∀ n < s.length, (∃ span ∈ spans, span.1 ≤ n ∧ n < span.2) ↔ ¬IsGap s n := by
  obtain ⟨spans, spanned, made⟩ := exists_spans (s := s) (Nat.le_refl 0) (Nat.zero_le _) rfl nofun
  exact ⟨spans, made, fun span member => (spanned.proper span member).2, spanned.apart,
    fun n => spanned.covers n (Nat.zero_le n)⟩

/-- A quote that is not closed runs to the end, and another quote character in it means nothing. -/
example : pieces "a  'b \" c".toList = ["a".toList, "'b \" c".toList] := by decide

end SlideDeck.Token
