import SlideDeck.Attribute.Token
import SlideDeck.Proofs.Attribute.Lookup

/-!
# What attribute maps keep

No operation on an attribute map takes a key away, and none sets a value to `false`: annotations say
`true` or a text. A map without `false` writes an attribute for each of its keys.
-/

namespace SlideDeck

/-- No value is `false`. -/
def ShownEntries (entries : List (String × Value)) : Prop := ∀ e ∈ entries, e.2 ≠ .flag false

namespace Attributes

/-- No value of the map is `false`. -/
def Shown (a : Attributes) : Prop := ShownEntries a.entries

theorem shown_empty : Shown empty := fun _ member => (List.not_mem_nil member).elim

theorem shown_place {key : String} {value : Value} {entries : List (String × Value)}
    (value_shown : value ≠ .flag false) (shown : ShownEntries entries) :
    ShownEntries (place key value entries) := by
  induction entries with
  | nil => exact List.forall_mem_singleton.mpr value_shown
  | cons entry rest ih =>
      obtain ⟨here, behind⟩ := List.forall_mem_cons.mp shown
      rw [place]
      split_ifs
      · exact List.forall_mem_cons.mpr ⟨value_shown, behind⟩
      · exact List.forall_mem_cons.mpr ⟨here, ih behind⟩

theorem Shown.insert {a : Attributes} (shown : a.Shown) (key : String) {value : Value}
    (value_shown : value ≠ .flag false) : (a.insert key value).Shown :=
  shown_place value_shown shown

theorem Shown.insertText {a : Attributes} (shown : a.Shown) (key text : String) :
    (a.insert key (.text text)).Shown :=
  shown.insert key nofun

/-- Words that are appended set a text, if they do anything. -/
theorem appendWords_cases (a : Attributes) (key words : String) :
    a.appendWords key words = a ∨ ∃ s, a.appendWords key words = a.insert key (.text s) := by
  simp only [appendWords]
  split_ifs
  · exact .inl rfl
  · split
    · split_ifs <;> exact .inr ⟨_, rfl⟩
    · exact .inr ⟨_, rfl⟩

theorem Shown.appendWords {a : Attributes} (shown : a.Shown) (key words : String) :
    (a.appendWords key words).Shown := by
  obtain same | ⟨s, set⟩ := a.appendWords_cases key words
  · rwa [same]
  · rw [set]
    exact shown.insertText key s

theorem Shown.addClass {a : Attributes} (shown : a.Shown) (names : String) :
    (a.addClass names).Shown :=
  shown.appendWords "class" names

theorem shown_ofList {entries : List (String × Value)} (shown : ShownEntries entries) :
    (ofList entries).Shown := by
  have from_map : ∀ (a : Attributes), a.Shown →
      (entries.foldl (fun a e => a.insert e.1 e.2) a).Shown := by
    induction entries with
    | nil => exact fun a a_shown => a_shown
    | cons entry rest ih =>
        obtain ⟨here, behind⟩ := List.forall_mem_cons.mp shown
        exact fun a a_shown => ih behind _ (a_shown.insert entry.1 here)
  exact from_map empty shown_empty

/-! ## Annotations -/

theorem Shown.mergeEntry {a : Attributes} (shown : a.Shown) {entry : String × Value}
    (value_shown : entry.2 ≠ .flag false) : (a.mergeEntry entry).Shown := by
  unfold Attributes.mergeEntry
  split
  · exact shown.addClass _
  · exact shown.appendWords "id" _
  · exact shown.insert _ value_shown

theorem Shown.merge {a : Attributes} (shown : a.Shown) {bag : Bag} (bag_shown : bag.attrs.Shown) :
    (a.merge bag).Shown := by
  have entries : ∀ (l : List (String × Value)) (a : Attributes), ShownEntries l → a.Shown →
      (l.foldl Attributes.mergeEntry a).Shown := by
    intro l
    induction l with
    | nil => exact fun a _ a_shown => a_shown
    | cons entry rest ih =>
        intro a l_shown a_shown
        obtain ⟨here, behind⟩ := List.forall_mem_cons.mp l_shown
        exact ih _ behind (a_shown.mergeEntry here)
  have words : ∀ (key : String) (l : List String) (a : Attributes), a.Shown →
      (l.foldl (fun a names => a.appendWords key names) a).Shown := by
    intro key l
    induction l with
    | nil => exact fun a a_shown => a_shown
    | cons names rest ih => exact fun a a_shown => ih _ (a_shown.appendWords key names)
  exact words "id" _ _ (words "class" _ _ (entries _ _ bag_shown shown))

theorem Shown.mergeAll {a : Attributes} (shown : a.Shown) {bags : List Bag}
    (bags_shown : ∀ bag ∈ bags, bag.attrs.Shown) : (bags.foldl Attributes.merge a).Shown := by
  induction bags generalizing a with
  | nil => exact shown
  | cons bag rest ih =>
      obtain ⟨here, behind⟩ := List.forall_mem_cons.mp bags_shown
      exact ih (shown.merge here) behind

/-! ## Keys -/

/-- The keys in order. -/
def keys (a : Attributes) : List String := a.entries.map Prod.fst

/-- A new key is put behind all others, and an old one keeps its place. -/
theorem keys_insert (a : Attributes) (key : String) (value : Value) :
    (a.insert key value).keys = if key ∈ a.keys then a.keys else a.keys ++ [key] := by
  obtain ⟨entries⟩ := a
  simp only [keys, insert]
  induction entries with
  | nil => rfl
  | cons entry rest ih =>
      rw [place]
      by_cases here : entry.1 = key
      · simp [here]
      · simp only [here, if_false, List.map_cons, List.mem_cons, Ne.symm here, false_or, ih]
        exact apply_ite (entry.1 :: ·) _ _ _

theorem mem_keys_insert {a : Attributes} {key other : String} {value : Value} :
    other ∈ (a.insert key value).keys ↔ other = key ∨ other ∈ a.keys := by
  rw [keys_insert]
  split_ifs with held
  · exact ⟨.inr, fun member => member.elim (· ▸ held) id⟩
  · rw [List.mem_append, List.mem_singleton, or_comm]

theorem mem_keys_ofList {entries : List (String × Value)} {key : String}
    (member : key ∈ (ofList entries).keys) : key ∈ entries.map Prod.fst := by
  have from_map : ∀ (l : List (String × Value)) (a : Attributes),
      key ∈ (l.foldl (fun a e => a.insert e.1 e.2) a).keys →
        key ∈ a.keys ∨ key ∈ l.map Prod.fst := by
    intro l
    induction l with
    | nil => exact fun _ member => .inl member
    | cons entry rest ih =>
        intro a member
        rcases ih (a.insert entry.1 entry.2) member with early | late
        · rw [mem_keys_insert] at early
          exact early.elim (fun same => .inr (same ▸ List.mem_cons_self)) .inl
        · exact .inr (List.mem_cons_of_mem _ late)
  exact (from_map entries empty member).resolve_left List.not_mem_nil

end Attributes

/-- An annotation says no `false`. -/
theorem Bag.shown_parse (source : String) : (Bag.parse source).attrs.Shown := by
  have added : ∀ (bag : Bag) (token : Token), bag.attrs.Shown → (bag.add token).attrs.Shown := by
    intro bag token shown
    unfold Bag.add
    split
    · exact shown
    · exact shown
    · exact shown.insertText _ _
    · exact shown.insert _ nofun
  have from_bag : ∀ (tokens : List Token) (bag : Bag), bag.attrs.Shown →
      (tokens.foldl Bag.add bag).attrs.Shown := by
    intro tokens
    induction tokens with
    | nil => exact fun bag shown => shown
    | cons token rest ih => exact fun bag shown => ih _ (added bag token shown)
  exact from_bag _ _ Attributes.shown_empty

end SlideDeck
