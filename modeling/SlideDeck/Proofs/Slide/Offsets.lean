import Mathlib.Data.List.Basic
import SlideDeck.Slide.ImageStyle

/-!
# The order of offsets

Offsets are sorted by their sides. The sort is stable (`filter_sortOffsets`), so what it makes of
offsets from the four sides are those from each side, one side after the other (`sortOffsets_eq`).
In the inline style of an image they stand together in this order (`exists_inlineStyle_eq`).
-/

namespace SlideDeck.Slide

section

variable {α β : Type}

/-- A list in which no member with a property stands behind one without it. -/
theorem filter_append_filter_not {p : α → Bool} {l : List α}
    (early : l.Pairwise fun a b => p b = true → p a = true) :
    l.filter p ++ l.filter (fun a => !p a) = l := by
  induction l with
  | nil => rfl
  | cons a l ih =>
      obtain ⟨first, early⟩ := List.pairwise_cons.mp early
      cases has : p a with
      | true => simpa [has] using ih early
      | false =>
          have none_behind : ∀ b ∈ l, p b = false := by
            intro b member
            by_contra behind
            simp [first b member (Bool.not_eq_false _ ▸ behind)] at has
          have empty : l.filter p = [] := List.filter_eq_nil_iff.mpr (by simpa using none_behind)
          have whole : l.filter (fun b => !p b) = l :=
            List.filter_eq_self.mpr (by simpa using none_behind)
          simp [has, empty, whole]

/-- A list in the order of its keys holds the members with each key, one key after the other. -/
theorem flatMap_filter_of_pairwise [DecidableEq β] {key : α → β} {keys : List β}
    (distinct : keys.Nodup) {l : List α} (known : ∀ a ∈ l, key a ∈ keys)
    (sorted : l.Pairwise fun a b => keys.idxOf (key a) ≤ keys.idxOf (key b)) :
    (keys.flatMap fun k => l.filter fun a => key a = k) = l := by
  -- the members with the first key stand in front, and the others are in the order of the rest
  induction keys generalizing l with
  | nil => simpa [List.eq_nil_iff_forall_not_mem] using known
  | cons k keys ih =>
      obtain ⟨not_mem, distinct⟩ := List.nodup_cons.mp distinct
      let others := l.filter fun a => !decide (key a = k)
      have front : (l.filter fun a => key a = k) ++ others = l := by
        refine filter_append_filter_not (sorted.imp fun {a b} le same => decide_eq_true ?_)
        by_contra other
        have first : key b = k := of_decide_eq_true same
        rw [first, List.idxOf_cons_self, List.idxOf_cons_ne _ (Ne.symm other)] at le
        exact Nat.not_succ_le_zero _ le
      have known_others : ∀ a ∈ others, key a ∈ keys := by
        intro a member
        obtain ⟨inside, other⟩ := List.mem_filter.mp member
        exact (List.mem_cons.mp (known a inside)).resolve_left (by simpa using other)
      have sorted_others : others.Pairwise
          fun a b => keys.idxOf (key a) ≤ keys.idxOf (key b) := by
        refine List.pairwise_filter.mpr (sorted.imp fun {a b} le a_other b_other => ?_)
        have a_ne : k ≠ key a := fun same => by simp [same] at a_other
        have b_ne : k ≠ key b := fun same => by simp [same] at b_other
        rw [List.idxOf_cons_ne _ a_ne, List.idxOf_cons_ne _ b_ne] at le
        exact Nat.le_of_succ_le_succ le
      have same : (keys.flatMap fun other => l.filter fun a => key a = other) =
          keys.flatMap fun other => others.filter fun a => key a = other := by
        refine List.flatMap_congr fun other member => ?_
        have other_ne : other ≠ k := fun equal => not_mem (equal ▸ member)
        rw [List.filter_filter]
        refine List.filter_congr fun a _ => ?_
        by_cases equal : key a = other
        · simp [equal, other_ne]
        · simp [equal]
      rw [List.flatMap_cons, same, ih distinct known_others sorted_others, front]

end

namespace ImageStyle

/-- Sorting leaves the offsets from one side in their order. -/
theorem filter_sortOffsets (offsets : List (String × String)) (side : String) :
    (sortOffsets offsets).filter (fun o => o.1 = side) = offsets.filter fun o => o.1 = side := by
  have tied : (offsets.filter fun o => o.1 = side).Pairwise
      fun o p => decide (offsetSides.idxOf o.1 ≤ offsetSides.idxOf p.1) = true := by
    refine List.pairwise_of_forall_mem_list fun o o_mem p p_mem => ?_
    have o_side : o.1 = side := by simpa using (List.mem_filter.mp o_mem).2
    have p_side : p.1 = side := by simpa using (List.mem_filter.mp p_mem).2
    simp [o_side, p_side]
  have kept : (offsets.filter fun o => o.1 = side).Sublist (sortOffsets offsets) :=
    List.sublist_mergeSort (by simp; omega) (by simp; omega) tied List.filter_sublist
  have inside := kept.filter fun o => decide (o.1 = side)
  rw [List.filter_filter] at inside
  simp only [Bool.and_self] at inside
  refine (inside.eq_of_length_le ?_).symm
  exact Nat.le_of_eq ((List.mergeSort_perm offsets _).filter _).length_eq

/-- Sorted offsets from the four sides are those from each side, one side after the other. -/
theorem sortOffsets_eq {offsets : List (String × String)}
    (known : ∀ o ∈ offsets, o.1 ∈ offsetSides) :
    sortOffsets offsets = offsetSides.flatMap fun side => offsets.filter fun o => o.1 = side := by
  have sorted : (sortOffsets offsets).Pairwise
      fun o p => decide (offsetSides.idxOf o.1 ≤ offsetSides.idxOf p.1) = true :=
    List.pairwise_mergeSort (by simp; omega) (by simp; omega) offsets
  have known_sorted : ∀ o ∈ sortOffsets offsets, o.1 ∈ offsetSides :=
    fun o member => known o (List.mem_mergeSort.mp member)
  have parts := flatMap_filter_of_pairwise (by decide : offsetSides.Nodup) known_sorted
    (sorted.imp of_decide_eq_true)
  simpa only [filter_sortOffsets] using parts.symm

/-! ## In the inline style -/

/-- The properties of an inline style that are no offsets. -/
def otherProperties : List String :=
  ["filter", "object-fit", "object-position", "width", "height", "position"]

theorem exists_of_mem_property {name part : String} {value : Option String}
    (member : part ∈ property name value) : ∃ v, part = name ++ ": " ++ v := by
  cases value with
  | none => cases member
  | some v => exact ⟨v, List.mem_singleton.mp member⟩

/-- The offsets stand together in the inline style of an image, in their order. -/
theorem exists_inlineStyle_eq (s : ImageStyle) :
    ∃ before behind,
      (∀ part ∈ before ++ behind, ∃ name ∈ otherProperties, ∃ value, part = name ++ ": " ++ value) ∧
      let parts := before ++ s.offsets.map (fun o => o.1 ++ ": " ++ o.2) ++ behind
      s.inlineStyle = if parts.isEmpty then none else some ("; ".intercalate parts) := by
  refine ⟨_, _, fun part member => ?_, rfl⟩
  simp only [List.mem_append] at member
  rcases member with ((((filter | fit) | place) | width) | height) | absolute
  · exact ⟨"filter", by decide, exists_of_mem_property filter⟩
  · exact ⟨"object-fit", by decide, exists_of_mem_property fit⟩
  · exact ⟨"object-position", by decide, exists_of_mem_property place⟩
  · exact ⟨"width", by decide, exists_of_mem_property width⟩
  · exact ⟨"height", by decide, exists_of_mem_property height⟩
  · split at absolute
    · exact ⟨"position", by decide, "absolute", List.mem_singleton.mp absolute⟩
    · cases absolute

end ImageStyle

end SlideDeck.Slide
