import Mathlib.Data.List.Basic
import Mathlib.Data.List.DropRight
import SlideDeck.Text.Blank

/-!
# Parts between separators

A list is cut at the members that satisfy a test. There is one part more than there are separators
(`length_splitOnP`), and together the parts hold all other members (`flatten_splitOnP`). Texts are
cut at characters in the same way (`splitAtEvery_eq_splitOnP`).
-/

namespace SlideDeck

/-- A member in front of others either separates or belongs to the first part. -/
theorem splitOnP_cons_cases {α : Type} {p : α → Bool} {first : List α} {others : List (List α)}
    {l : List α} (parts : l.splitOnP p = first :: others) (a : α) :
    (a :: l).splitOnP p = if p a then [] :: first :: others else (a :: first) :: others := by
  rw [List.splitOnP_cons_eq_if_modifyHead, parts, List.modifyHead_cons]

theorem exists_splitOnP_eq {α : Type} (p : α → Bool) (l : List α) :
    ∃ first others, l.splitOnP p = first :: others :=
  List.exists_cons_of_ne_nil (List.splitOnP_ne_nil p l)

theorem splitOnP_filter {α : Type} {p q : α → Bool} (keeps : ∀ a, p a = true → q a = true)
    (l : List α) : (l.filter q).splitOnP p = (l.splitOnP p).map (List.filter q) := by
  -- separators are never dropped, so the parts of a tail stay apart
  induction l with
  | nil => simp
  | cons a l ih =>
      obtain ⟨first, others, parts⟩ := exists_splitOnP_eq p l
      rw [parts, List.map_cons] at ih
      rw [splitOnP_cons_cases parts]
      cases separator : p a with
      | true =>
          rw [List.filter_cons_of_pos (keeps a separator), splitOnP_cons_cases ih]
          simp [separator]
      | false =>
          cases kept : q a with
          | true =>
              rw [List.filter_cons_of_pos kept, splitOnP_cons_cases ih]
              simp [separator, kept]
          | false =>
              rw [List.filter_cons_of_neg (by simp [kept]), ih]
              simp [kept]

theorem splitOnP_map {α β : Type} {f : α → β} {p : α → Bool} {q : β → Bool}
    (same : ∀ a, q (f a) = p a) (l : List α) :
    (l.map f).splitOnP q = (l.splitOnP p).map (List.map f) := by
  induction l with
  | nil => simp
  | cons a l ih =>
      obtain ⟨first, others, parts⟩ := exists_splitOnP_eq p l
      rw [parts, List.map_cons] at ih
      rw [List.map_cons, splitOnP_cons_cases ih, splitOnP_cons_cases parts, same]
      cases p a <;> simp

section

variable {α : Type} (p : α → Bool)

/-- The parts are one more than the separators. -/
theorem length_splitOnP (l : List α) : (l.splitOnP p).length = l.countP p + 1 := by
  induction l with
  | nil => simp
  | cons a l ih =>
      obtain ⟨first, others, parts⟩ := exists_splitOnP_eq p l
      rw [parts, List.length_cons] at ih
      rw [splitOnP_cons_cases parts, List.countP_cons]
      cases p a <;> simp [ih]

/-- The parts, one after the other, are all members but the separators. -/
theorem flatten_splitOnP (l : List α) : (l.splitOnP p).flatten = l.filter fun a => !p a := by
  induction l with
  | nil => simp
  | cons a l ih =>
      obtain ⟨first, others, parts⟩ := exists_splitOnP_eq p l
      rw [parts, List.flatten_cons] at ih
      rw [splitOnP_cons_cases parts, List.filter_cons, ← ih]
      cases p a <;> simp

/-- The first part ends at the first separator. -/
theorem splitOnP_eq_takeWhile (l : List α) :
    ∃ others, l.splitOnP p = (l.takeWhile fun a => !p a) :: others := by
  induction l with
  | nil => exact ⟨[], rfl⟩
  | cons a l ih =>
      obtain ⟨others, parts⟩ := ih
      rw [splitOnP_cons_cases parts]
      cases separator : p a with
      | true => exact ⟨(l.takeWhile fun a => !p a) :: others, by simp [separator]⟩
      | false => exact ⟨others, by simp [separator]⟩

/-- The last part of a front and the first part of what stands behind it are one. -/
theorem exists_splitOnP_append (front : List α) :
    ∃ init, init.length = front.countP p ∧ ∀ {back first others},
      back.splitOnP p = first :: others →
        (front ++ back).splitOnP p =
          init ++ (front.rtakeWhile (fun a => !p a) ++ first) :: others := by
  induction front using List.reverseRecOn with
  | nil => exact ⟨[], rfl, id⟩
  | append_singleton front a ih =>
      obtain ⟨init, separators, glue⟩ := ih
      cases separator : p a with
      | true =>
          refine ⟨init ++ [front.rtakeWhile fun a => !p a], by simp [separators, separator],
            fun {back first others} parts => ?_⟩
          have behind := splitOnP_cons_cases parts a
          rw [if_pos separator] at behind
          simp [glue behind, separator]
      | false =>
          refine ⟨init, by simp [separators, separator], fun {back first others} parts => ?_⟩
          have behind := splitOnP_cons_cases parts a
          rw [if_neg (by simp [separator])] at behind
          simp [glue behind, separator]

end

namespace Text

/-- Texts are cut as all lists are. -/
theorem splitAtEvery_eq_splitOnP (p : Char → Bool) (s : List Char) :
    splitAtEvery p s = s.splitOnP p := by
  induction s with
  | nil => rfl
  | cons c rest ih =>
      obtain ⟨first, others, parts⟩ := exists_splitOnP_eq p rest
      rw [splitAtEvery, ih, parts, splitOnP_cons_cases parts]

/-- The first part ends at the first mark. -/
theorem head?_splitAtEvery (p : Char → Bool) (s : List Char) :
    (splitAtEvery p s).head? = some (s.takeWhile fun c => !p c) := by
  obtain ⟨others, parts⟩ := splitOnP_eq_takeWhile p s
  rw [splitAtEvery_eq_splitOnP, parts]
  rfl

/-- The parts at both sides of a mark. -/
theorem splitAtEvery_append {p : Char → Bool} {mark : Char} (marked : p mark = true)
    (front back : List Char) :
    splitAtEvery p (front ++ mark :: back) = splitAtEvery p front ++ splitAtEvery p back := by
  simp only [splitAtEvery_eq_splitOnP]
  exact List.splitOnP_append_cons front back marked

end Text

end SlideDeck
