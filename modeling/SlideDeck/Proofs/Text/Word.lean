import Mathlib.Data.List.TakeWhile
import SlideDeck.Proofs.Parts

/-!
# Words of a text

White space parts words: a text with a blank character in it has the words in front of that
character, then those behind it (`words_append`), and white space at either end makes no difference
(`words_trim`). The first word ends at the first blank character behind it (`head?_words`). Words
that are joined again make up a text that is not empty (`intercalate_ne_empty`).
-/

namespace SlideDeck.Text

theorem words_append {mark : Char} (blank : isBlank mark = true) (front back : List Char) :
    words (front ++ mark :: back) = words front ++ words back := by
  rw [words, splitAtEvery_append blank, List.filter_append, words, words]

theorem words_blank_append {gap : List Char} (blank : ∀ c ∈ gap, isBlank c = true)
    (s : List Char) : words (gap ++ s) = words s := by
  induction gap with
  | nil => rfl
  | cons c gap ih =>
      obtain ⟨here, later⟩ := List.forall_mem_cons.mp blank
      calc
        words (c :: (gap ++ s)) = words [] ++ words (gap ++ s) := words_append here [] (gap ++ s)
        _ = words s := ih later

theorem words_append_blank (s : List Char) {gap : List Char}
    (blank : ∀ c ∈ gap, isBlank c = true) : words (s ++ gap) = words s := by
  cases gap with
  | nil => rw [List.append_nil]
  | cons c gap =>
      obtain ⟨here, later⟩ := List.forall_mem_cons.mp blank
      have gap_words : words gap = [] := by
        rw [← List.append_nil gap, words_blank_append later]
        rfl
      rw [words_append here, gap_words, List.append_nil]

theorem words_trimStart (s : List Char) : words (trimStart s) = words s := by
  have blank : ∀ c ∈ s.takeWhile isBlank, isBlank c = true := fun _ => List.mem_takeWhile_imp
  rw [trimStart, ← words_blank_append blank, List.takeWhile_append_dropWhile]

theorem words_trimEnd (s : List Char) : words (trimEnd s) = words s := by
  obtain ⟨tail, parts, blank⟩ := exists_dropEndWhile_append isBlank s
  rw [trimEnd, ← words_append_blank _ blank, ← parts]

theorem words_trim (s : List Char) : words (trim s) = words s := by
  rw [trim, words_trimEnd, words_trimStart]

/-- The first word stands behind the white space in front of it, up to the next blank character. -/
theorem head?_words (s : List Char) :
    (words s).head? =
      if trimStart s = [] then none else some ((trimStart s).takeWhile fun c => !isBlank c) := by
  rw [← words_trimStart]
  cases trimmed : trimStart s with
  | nil => rfl
  | cons c rest =>
      have visible : isBlank c = false := by
        have head := List.head?_dropWhile_not isBlank s
        rwa [← trimStart, trimmed] at head
      obtain ⟨parts, split⟩ := List.head?_eq_some_iff.mp (head?_splitAtEvery isBlank (c :: rest))
      rw [words, split]
      simp [visible]

/-- A text whose first word is given. -/
theorem head?_words_eq_some {s word : List Char} (word_ne : word ≠ [])
    (visible : ∀ c ∈ word, isBlank c = false) :
    (words s).head? = some word ↔
      ∃ rest, trimStart s = word ++ rest ∧ ∀ c ∈ rest.head?, isBlank c = true := by
  rw [head?_words]
  constructor
  · intro first
    split_ifs at first
    obtain rfl := Option.some.inj first
    refine ⟨(trimStart s).dropWhile fun c => !isBlank c,
      (List.takeWhile_append_dropWhile ..).symm, fun c head => ?_⟩
    have stop := List.head?_dropWhile_not (fun c => !isBlank c) (trimStart s)
    simpa [Option.mem_def.mp head] using stop
  · rintro ⟨rest, trimmed, parted⟩
    have alone : rest.takeWhile (fun c => !isBlank c) = [] := by
      cases rest with
      | nil => rfl
      | cons c rest => simp [parted c rfl]
    rw [trimmed, if_neg (by simp [word_ne]), List.takeWhile_append_of_pos (by simpa using visible),
      alone, List.append_nil]

/-- Joined texts that are not empty make up a text that is not empty. -/
theorem intercalate_ne_empty {texts : List String} (texts_ne : texts ≠ [])
    (nonempty : ∀ s ∈ texts, s ≠ "") : " ".intercalate texts ≠ "" := by
  obtain ⟨first, rest, rfl⟩ := List.exists_cons_of_ne_nil texts_ne
  have first_ne : first ≠ "" := nonempty first List.mem_cons_self
  cases rest with
  | nil => simpa using first_ne
  | cons second rest => simp [String.intercalate_cons_cons]

end SlideDeck.Text
