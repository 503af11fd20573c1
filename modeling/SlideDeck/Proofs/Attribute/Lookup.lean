import Mathlib.Tactic.Common
import SlideDeck.Attribute.Basic

/-!
# Looking up attributes

What setting a key does to the look-up of every key. The laws hold of every list of entries, whether
its keys are distinct or not.
-/

namespace SlideDeck.Attributes

theorem find_place (key other : String) (value : Value) (entries : List (String × Value)) :
    find other (place key value entries) =
      if key = other then some value else find other entries := by
  induction entries with
  | nil => simp [place, find]
  | cons entry rest ih =>
      obtain ⟨k, v⟩ := entry
      by_cases here : k = key
      · subst here
        by_cases same : k = other <;> simp [place, find, same]
      · by_cases same : k = other
        · subst same
          simp [place, find, here, Ne.symm here]
        · simp [place, find, here, same, ih]

/-- A look-up after setting a key finds the new value under that key and the old one under every
other key. -/
theorem get?_insert (a : Attributes) (key other : String) (value : Value) :
    (a.insert key value).get? other = if key = other then some value else a.get? other :=
  find_place key other value a.entries

end SlideDeck.Attributes
