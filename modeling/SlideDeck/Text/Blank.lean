/-!
# Blank characters

White space in the Unicode sense, and the operations on text that are stated through it: trimming
at either end and cutting into words. Text is a list of characters here, so that every operation is
a plain recursion.
-/

namespace SlideDeck.Text

/-- The characters with the Unicode property White_Space. -/
def isBlank (c : Char) : Bool :=
  let n := c.toNat
  (9 ≤ n && n ≤ 13) || n == 0x20 || n == 0x85 || n == 0xA0 || n == 0x1680
    || (0x2000 ≤ n && n ≤ 0x200A) || n == 0x2028 || n == 0x2029 || n == 0x202F || n == 0x205F
    || n == 0x3000

/-- The control characters of the category Cc: C0, delete and C1. -/
def isControl (c : Char) : Bool :=
  c.toNat < 0x20 || (0x7F ≤ c.toNat && c.toNat ≤ 0x9F)

/-- Text without the characters at its end that satisfy `p`. -/
def dropEndWhile (p : Char → Bool) (s : List Char) : List Char :=
  (s.reverse.dropWhile p).reverse

/-- What is kept and what is dropped at the end make up the text. -/
theorem exists_dropEndWhile_append (p : Char → Bool) (s : List Char) :
    ∃ tail, s = dropEndWhile p s ++ tail ∧ ∀ c ∈ tail, p c = true := by
  refine ⟨(s.reverse.takeWhile p).reverse, ?_, fun c member => ?_⟩
  · rw [dropEndWhile, ← List.reverse_append, List.takeWhile_append_dropWhile, List.reverse_reverse]
  · have every := List.all_takeWhile (p := p) (l := s.reverse)
    exact List.all_eq_true.mp every c (List.mem_reverse.mp member)

/-- Dropping stops at a character that does not satisfy `p`. -/
theorem dropEndWhile_append {p : Char → Bool} {last : Char} (kept : p last = false)
    (front back : List Char) :
    dropEndWhile p (front ++ last :: back) = front ++ last :: dropEndWhile p back := by
  have reversed : (front ++ last :: back).reverse = back.reverse ++ last :: front.reverse := by simp
  rw [dropEndWhile, dropEndWhile, reversed, List.dropWhile_append]
  by_cases all : (back.reverse.dropWhile p).isEmpty
  · have empty : back.reverse.dropWhile p = [] := List.isEmpty_iff.mp all
    simp [empty, kept]
  · simp [all]

/-- Characters at the end that satisfy `p` do not matter. -/
theorem dropEndWhile_append_of_forall {p : Char → Bool} (s : List Char) {tail : List Char}
    (dropped : ∀ c ∈ tail, p c = true) : dropEndWhile p (s ++ tail) = dropEndWhile p s := by
  rw [dropEndWhile, List.reverse_append, List.dropWhile_append_of_pos, dropEndWhile]
  exact fun c member => dropped c (List.mem_reverse.mp member)

/-- What is kept ends in a character that does not satisfy `p`, and all that is dropped does. -/
theorem dropEndWhile_eq_iff {p : Char → Bool} {s t : List Char} :
    dropEndWhile p s = t ↔
      (∃ tail, s = t ++ tail ∧ ∀ c ∈ tail, p c = true) ∧ ∀ c ∈ t.getLast?, p c = false := by
  constructor
  · rintro rfl
    refine ⟨exists_dropEndWhile_append p s, fun c last => ?_⟩
    have stop := List.head?_dropWhile_not p s.reverse
    rw [dropEndWhile, List.getLast?_reverse] at last
    rwa [Option.mem_def.mp last] at stop
  · rintro ⟨⟨tail, rfl, dropped⟩, kept⟩
    rw [dropEndWhile_append_of_forall t dropped]
    cases last : t.getLast? with
    | none =>
      rw [List.getLast?_eq_none_iff.mp last]
      rfl
    | some c =>
      obtain ⟨front, rfl⟩ := List.getLast?_eq_some_iff.mp last
      exact dropEndWhile_append (kept c last) front []

/-- Text without the blank characters it starts with. -/
def trimStart (s : List Char) : List Char := s.dropWhile isBlank

/-- Text without the blank characters it ends in. -/
def trimEnd (s : List Char) : List Char := dropEndWhile isBlank s

/-- Text without blank characters at either end. -/
def trim (s : List Char) : List Char := trimEnd (trimStart s)

/-- Text made of blank characters only, the empty text included. -/
def isBlankText (s : List Char) : Bool := s.all isBlank

/-- The parts of a text between the characters that satisfy `p`: one part more than there are such
characters. -/
def splitAtEvery (p : Char → Bool) : List Char → List (List Char)
  | [] => [[]]
  | c :: rest =>
    if p c then
      [] :: splitAtEvery p rest
    else
      match splitAtEvery p rest with
      | [] => [[c]]
      | part :: parts => (c :: part) :: parts

theorem splitAtEvery_of_forall {p : Char → Bool} {s : List Char} (free : ∀ c ∈ s, p c = false) :
    splitAtEvery p s = [s] := by
  induction s with
  | nil => rfl
  | cons c rest ih =>
    rw [List.forall_mem_cons] at free
    simp [splitAtEvery, free.1, ih free.2]

/-- The words of a text: its longest runs of characters that are not blank. -/
def words (s : List Char) : List (List Char) :=
  (splitAtEvery isBlank s).filter (fun part => !part.isEmpty)

/-- The text before the first character that satisfies `p`, that character and the text after it. -/
def cutAtFirst (p : Char → Bool) : List Char → Option (List Char × Char × List Char)
  | [] => none
  | c :: rest =>
    if p c then some ([], c, rest)
    else (cutAtFirst p rest).map fun (before, mark, after) => (c :: before, mark, after)

theorem cutAtFirst_append {p : Char → Bool} {before : List Char} {mark : Char}
    (free : ∀ c ∈ before, p c = false) (marked : p mark = true) (after : List Char) :
    cutAtFirst p (before ++ mark :: after) = some (before, mark, after) := by
  induction before with
  | nil => simp [cutAtFirst, marked]
  | cons c before ih =>
    rw [List.forall_mem_cons] at free
    simp [cutAtFirst, free.1, ih free.2]

theorem cutAtFirst_of_forall {p : Char → Bool} {s : List Char} (free : ∀ c ∈ s, p c = false) :
    cutAtFirst p s = none := by
  induction s with
  | nil => rfl
  | cons c rest ih =>
    rw [List.forall_mem_cons] at free
    simp [cutAtFirst, free.1, ih free.2]

/-- What is cut makes up the text, and the cut is at the first place. -/
theorem eq_of_cutAtFirst {p : Char → Bool} {s before after : List Char} {mark : Char}
    (cut : cutAtFirst p s = some (before, mark, after)) :
    s = before ++ mark :: after ∧ p mark = true ∧ ∀ c ∈ before, p c = false := by
  induction s generalizing before with
  | nil => simp [cutAtFirst] at cut
  | cons c rest ih =>
    unfold cutAtFirst at cut
    split at cut
    case isTrue marked =>
      simp only [Option.some.injEq, Prod.mk.injEq] at cut
      obtain ⟨rfl, rfl, rfl⟩ := cut
      exact ⟨rfl, marked, by simp⟩
    case isFalse unmarked =>
      rw [Option.map_eq_some_iff] at cut
      obtain ⟨⟨front, mark', back⟩, cut, same⟩ := cut
      simp only [Prod.mk.injEq] at same
      obtain ⟨rfl, rfl, rfl⟩ := same
      obtain ⟨made, marked, free⟩ := ih cut
      exact ⟨congrArg (c :: ·) made, marked,
        List.forall_mem_cons.mpr ⟨Bool.eq_false_iff.mpr unmarked, free⟩⟩

/-- The text that follows `start`, if the text starts with it. -/
def stripStart? : List Char → List Char → Option (List Char)
  | [], s => some s
  | _ :: _, [] => none
  | p :: ps, c :: cs => if p = c then stripStart? ps cs else none

theorem stripStart?_eq_some {start s rest : List Char} :
    stripStart? start s = some rest ↔ s = start ++ rest := by
  induction start generalizing s with
  | nil => simp [stripStart?]
  | cons p start ih =>
      cases s with
      | nil => simp [stripStart?]
      | cons c s =>
          by_cases same : p = c
          · simp [stripStart?, same, ih]
          · simp [stripStart?, same, Ne.symm same]

/-- The text before the first occurrence of `mark` and the text after it. -/
def cutAtMark (mark : List Char) : List Char → Option (List Char × List Char)
  | [] => (stripStart? mark []).map fun rest => ([], rest)
  | c :: rest =>
    match stripStart? mark (c :: rest) with
    | some after => some ([], after)
    | none => (cutAtMark mark rest).map fun (before, after) => (c :: before, after)

end SlideDeck.Text
