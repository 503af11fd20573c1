import Mathlib.Tactic.Common
import SlideDeck.Text.Blank

/-!
# The first mark in a text

A cut at a mark leaves the text in front of its first occurrence and the text behind it
(`eq_of_cutAtMark`, `not_infix_of_cutAtMark`). The end of a comment does not overlap itself, so it is
found behind every text that it does not occur in (`cutAtMark_commentEnd`).
-/

namespace SlideDeck.Text

/-- What is cut makes up the text. -/
theorem eq_of_cutAtMark {mark s before after : List Char}
    (cut : cutAtMark mark s = some (before, after)) : s = before ++ (mark ++ after) := by
  induction s generalizing before with
  | nil =>
      obtain ⟨rest, found, same⟩ := Option.map_eq_some_iff.mp cut
      cases same
      have made := stripStart?_eq_some.mp found
      exact made
  | cons c s ih =>
      rw [cutAtMark] at cut
      split at cut
      · next found =>
          cases cut
          have made := stripStart?_eq_some.mp found
          exact made
      · obtain ⟨⟨front, back⟩, cut, same⟩ := Option.map_eq_some_iff.mp cut
        cases same
        exact congrArg (c :: ·) (ih cut)

/-- The cut is at the first mark. -/
theorem not_infix_of_cutAtMark {mark s before after : List Char} (mark_ne : mark ≠ [])
    (cut : cutAtMark mark s = some (before, after)) : ¬mark <:+: before := by
  induction s generalizing before with
  | nil =>
      obtain ⟨rest, found, -⟩ := Option.map_eq_some_iff.mp cut
      exact absurd (List.append_eq_nil_iff.mp (stripStart?_eq_some.mp found).symm).1 mark_ne
  | cons c s ih =>
      have made := eq_of_cutAtMark cut
      rw [cutAtMark] at cut
      split at cut
      · cases cut
        exact mt List.infix_nil.mp mark_ne
      · next missed =>
          obtain ⟨⟨front, back⟩, cut, same⟩ := Option.map_eq_some_iff.mp cut
          cases same
          rw [List.infix_cons_iff, not_or]
          refine ⟨?_, ih cut⟩
          rintro ⟨rest, starts⟩
          have found : stripStart? mark (c :: s) = some (rest ++ (mark ++ after)) := by
            rw [stripStart?_eq_some, made, ← starts, List.append_assoc]
          rw [missed] at found
          cases found

/-- The end of a comment does not overlap itself. -/
theorem stripStart?_commentEnd {c : Char} {body : List Char}
    (missed : ¬"-->".toList <+: c :: body) (after : List Char) :
    stripStart? "-->".toList (c :: (body ++ ("-->".toList ++ after))) = none := by
  rw [Option.eq_none_iff_forall_ne_some]
  intro rest found
  have starts := stripStart?_eq_some.mp found
  match body with
  | [] | [_] => simp at starts
  | d :: e :: body =>
      simp only [String.reduceToList, List.cons_append, List.nil_append, List.cons.injEq] at starts
      obtain ⟨rfl, rfl, rfl, -⟩ := starts
      exact missed ⟨body, rfl⟩

/-- A text without the end of a comment in front of one. -/
theorem cutAtMark_commentEnd {body : List Char} (closed : ¬"-->".toList <:+: body)
    (after : List Char) :
    cutAtMark "-->".toList (body ++ ("-->".toList ++ after)) = some (body, after) := by
  induction body with
  | nil => rfl
  | cons c body ih =>
      rw [List.infix_cons_iff, not_or] at closed
      rw [List.cons_append, cutAtMark, stripStart?_commentEnd closed.1, ih closed.2]
      rfl

end SlideDeck.Text
