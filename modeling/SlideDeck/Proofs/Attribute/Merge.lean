import SlideDeck.Proofs.Attribute.Assignment
import SlideDeck.Proofs.Text.Word

/-!
# Merging annotations

What an attribute map holds once an annotation is merged into it. The lists of `class` and `id` grow
at their end, every other key of the annotation gets its value, and all other entries stay where
they are (`merge_parse`). A bare `class` or `id` is no list, and takes the place of the old one
(`merge_parse_bareClass`).
-/

namespace SlideDeck

/-- The keys whose values are lists of words. -/
def listKeys : List String := ["class", "id"]

/-- The names that an annotation writes in shorthand for a key. -/
def Bag.names (bag : Bag) (key : String) : List String :=
  if key = "class" then bag.classes else if key = "id" then bag.ids else []

/-- An annotation mentions the keys that it sets and those that it has shorthand names for. -/
def Bag.Mentions (bag : Bag) (key : String) : Prop := key ∈ bag.attrs.keys ∨ bag.names key ≠ []

namespace Attributes

/-- The words of the text stored under a key; a flag has none. -/
def wordsAt (a : Attributes) (key : String) : List (List Char) :=
  ((a.getText? key).map fun s => Text.words s.toList).getD []

/-- The words of a list with a value merged into it. -/
def mergeWords (old : List (List Char)) : Value → List (List Char)
  | .text s => old ++ Text.words s.toList
  | .flag _ => []

theorem wordsAt_congr {a b : Attributes} {key : String} (same : a.get? key = b.get? key) :
    a.wordsAt key = b.wordsAt key := by
  rw [wordsAt, getText?, same, wordsAt, getText?]

theorem wordsAt_insert (a : Attributes) (key : String) (value : Value) :
    (a.insert key value).wordsAt key = mergeWords [] value := by
  rw [wordsAt, getText?, get?_insert, if_pos rfl]
  cases value <;> rfl

/-- Appended words stand behind the old ones. -/
theorem wordsAt_appendWords (a : Attributes) (key names : String) :
    (a.appendWords key names).wordsAt key = a.wordsAt key ++ Text.words names.toList := by
  rw [← Text.words_trim names.toList, appendWords]
  generalize Text.trim names.toList = added
  by_cases nothing : added = []
  · subst nothing
    exact (List.append_nil _).symm
  · simp only [List.isEmpty_iff, nothing, if_false]
    cases stored : a.getText? key with
    | none =>
        have none_yet : a.wordsAt key = [] := by simp [wordsAt, stored]
        rw [none_yet, wordsAt_insert, mergeWords, String.toList_ofList]
    | some old =>
        have held : a.wordsAt key = Text.words old.toList := by simp [wordsAt, stored]
        rw [held]
        dsimp only
        split_ifs with empty
        · rw [wordsAt_insert, mergeWords, String.toList_ofList, String.isEmpty_iff.mp empty]
          rfl
        · have joined : (old ++ " " ++ String.ofList added).toList =
              old.toList ++ ' ' :: added := by
            simp
          rw [wordsAt_insert, mergeWords, joined, Text.words_append (by decide), List.nil_append]

/-! ## Steps of a merge -/

theorem mergeEntry_list {key : String} (list : key ∈ listKeys) (a : Attributes) (names : String) :
    a.mergeEntry (key, .text names) = a.appendWords key names := by
  obtain rfl | rfl : key = "class" ∨ key = "id" := by simpa [listKeys] using list
  · rfl
  · rfl

theorem mergeEntry_flag (a : Attributes) (key : String) (b : Bool) :
    a.mergeEntry (key, .flag b) = a.insert key (.flag b) := by
  unfold mergeEntry
  split
  case h_1 same => cases same
  case h_2 same => cases same
  case h_3 same =>
    cases same
    rfl

theorem mergeEntry_single {key : String} (single : key ∉ listKeys) (a : Attributes)
    (value : Value) : a.mergeEntry (key, value) = a.insert key value := by
  unfold mergeEntry
  split
  case h_1 same =>
    cases same
    exact absurd (by decide) single
  case h_2 same =>
    cases same
    exact absurd (by decide) single
  case h_3 same =>
    cases same
    rfl

/-- What merging leaves alone: keys that are not `touched` keep their values and their places, and
no key is taken away. -/
structure Frame (touched : String → Prop) (before after : Attributes) : Prop where
  value : ∀ key, ¬touched key → after.get? key = before.get? key
  place : ∀ (i : Nat) (entry : String × Value), before.entries[i]? = some entry →
    ¬touched entry.1 → after.entries[i]? = some entry
  keys : before.keys <+: after.keys

namespace Frame

variable {touched : String → Prop} {a b c : Attributes}

theorem refl (a : Attributes) : Frame touched a a where
  value _ _ := rfl
  place _ _ there _ := there
  keys := List.prefix_rfl

theorem trans (first : Frame touched a b) (second : Frame touched b c) : Frame touched a c where
  value key free := (second.value key free).trans (first.value key free)
  place i entry there free := second.place i entry (first.place i entry there free) free
  keys := first.keys.trans second.keys

theorem foldl {α : Type} {step : Attributes → α → Attributes} {l : List α}
    (each : ∀ x ∈ l, ∀ a, Frame touched a (step a x)) (a : Attributes) :
    Frame touched a (l.foldl step a) := by
  induction l generalizing a with
  | nil => exact .refl a
  | cons x rest ih =>
      obtain ⟨here, later⟩ := List.forall_mem_cons.mp each
      exact (here a).trans (ih later (step a x))

end Frame

theorem getElem?_place {key : String} {entry : String × Value} (ne : entry.1 ≠ key)
    (value : Value) {entries : List (String × Value)} {i : Nat}
    (there : entries[i]? = some entry) : (place key value entries)[i]? = some entry := by
  induction entries generalizing i with
  | nil => cases there
  | cons first rest ih =>
      rw [place]
      cases i with
      | zero =>
          obtain rfl : first = entry := by simpa using there
          rw [if_neg ne]
          rfl
      | succ i =>
          split_ifs
          · exact there
          · exact ih there

theorem keys_prefix_place (key : String) (value : Value) (entries : List (String × Value)) :
    entries.map Prod.fst <+: (place key value entries).map Prod.fst := by
  induction entries with
  | nil => exact List.nil_prefix
  | cons first rest ih =>
      rw [place]
      split_ifs
      · exact List.prefix_rfl
      · exact List.prefix_cons_inj _ |>.mpr ih

variable {touched : String → Prop}

theorem frame_insert {key : String} (sets : touched key) (value : Value) (a : Attributes) :
    Frame touched a (a.insert key value) where
  value other free := by
    rw [get?_insert, if_neg]
    rintro rfl
    exact free sets
  place i entry there free := getElem?_place (fun same => free (same ▸ sets)) value there
  keys := keys_prefix_place key value a.entries

theorem frame_appendWords {key : String} (sets : touched key) (names : String) (a : Attributes) :
    Frame touched a (a.appendWords key names) := by
  obtain same | ⟨s, set⟩ := a.appendWords_cases key names
  · rw [same]
    exact .refl a
  · rw [set]
    exact frame_insert sets _ a

theorem frame_mergeEntry {entry : String × Value} (sets : touched entry.1) (a : Attributes) :
    Frame touched a (a.mergeEntry entry) := by
  obtain ⟨key, value⟩ := entry
  by_cases list : key ∈ listKeys
  · cases value with
    | text names =>
        rw [mergeEntry_list list]
        exact frame_appendWords sets names a
    | flag b =>
        rw [mergeEntry_flag]
        exact frame_insert sets _ a
  · rw [mergeEntry_single list]
    exact frame_insert sets value a

theorem get?_mergeEntry_of_ne (a : Attributes) {entry : String × Value} {key : String}
    (ne : entry.1 ≠ key) : (a.mergeEntry entry).get? key = a.get? key := by
  have framed : Frame (fun other => other = entry.1) a (a.mergeEntry entry) := by
    apply frame_mergeEntry
    rfl
  exact framed.value key ne.symm

theorem get?_foldl_appendWords_of_ne {other key : String} (ne : other ≠ key)
    (names : List String) (a : Attributes) :
    (names.foldl (fun a => a.appendWords other) a).get? key = a.get? key := by
  have framed : Frame (fun k => k = other) a (names.foldl (fun a => a.appendWords other) a) := by
    refine .foldl (fun name _ a => ?_) a
    apply frame_appendWords
    rfl
  exact framed.value key ne.symm

/-! ## The entries and the names of an annotation -/

theorem wordsAt_mergeEntry {key : String} (list : key ∈ listKeys) (a : Attributes)
    (entry : String × Value) :
    (a.mergeEntry entry).wordsAt key =
      if entry.1 = key then mergeWords (a.wordsAt key) entry.2 else a.wordsAt key := by
  obtain ⟨other, value⟩ := entry
  split_ifs with same
  · obtain rfl := same
    cases value with
    | text names => rw [mergeEntry_list list, wordsAt_appendWords, mergeWords]
    | flag b => rw [mergeEntry_flag, wordsAt_insert, mergeWords, mergeWords]
  · exact wordsAt_congr (a.get?_mergeEntry_of_ne same)

theorem wordsAt_foldl_mergeEntry {key : String} (list : key ∈ listKeys)
    (entries : List (String × Value)) (a : Attributes) :
    (entries.foldl mergeEntry a).wordsAt key =
      (valuesAt key entries).foldl mergeWords (a.wordsAt key) := by
  induction entries generalizing a with
  | nil => rfl
  | cons entry rest ih =>
      rw [List.foldl_cons, ih, wordsAt_mergeEntry list]
      by_cases same : entry.1 = key <;> simp [valuesAt, same]

theorem get?_foldl_mergeEntry {key : String} (single : key ∉ listKeys)
    (entries : List (String × Value)) (a : Attributes) :
    (entries.foldl mergeEntry a).get? key = (valuesAt key entries).getLast?.or (a.get? key) := by
  induction entries using List.reverseRecOn with
  | nil => rfl
  | append_singleton entries entry ih =>
      obtain ⟨other, value⟩ := entry
      rw [List.foldl_append, List.foldl_cons, List.foldl_nil, valuesAt_append]
      by_cases same : other = key
      · subst same
        rw [mergeEntry_single single, get?_insert, if_pos rfl]
        simp [valuesAt]
      · rw [get?_mergeEntry_of_ne _ same, ih]
        simp [valuesAt, same]

theorem wordsAt_foldl_appendWords (key : String) (names : List String) (a : Attributes) :
    (names.foldl (fun a => a.appendWords key) a).wordsAt key =
      a.wordsAt key ++ names.flatMap fun name => Text.words name.toList := by
  induction names generalizing a with
  | nil => exact (List.append_nil _).symm
  | cons name rest ih =>
      rw [List.foldl_cons, ih, wordsAt_appendWords, List.flatMap_cons, List.append_assoc]

/-! ## The annotation -/

theorem merge_eq (a : Attributes) (bag : Bag) :
    a.merge bag =
      bag.ids.foldl (fun a => a.appendWords "id")
        (bag.classes.foldl (fun a => a.appendWords "class")
          (bag.attrs.entries.foldl mergeEntry a)) := rfl

theorem frame_merge (a : Attributes) (bag : Bag) : Frame bag.Mentions a (a.merge bag) := by
  have entries : ∀ a, Frame bag.Mentions a (bag.attrs.entries.foldl mergeEntry a) :=
    .foldl fun entry member a => frame_mergeEntry (.inl (List.mem_map_of_mem member)) a
  have classes : ∀ a, Frame bag.Mentions a (bag.classes.foldl (fun a => a.appendWords "class") a) :=
    .foldl fun _ member a => frame_appendWords (.inr (List.ne_nil_of_mem member)) _ a
  have ids : ∀ a, Frame bag.Mentions a (bag.ids.foldl (fun a => a.appendWords "id") a) :=
    .foldl fun _ member a => frame_appendWords (.inr (List.ne_nil_of_mem member)) _ a
  rw [merge_eq]
  exact ((entries a).trans (classes _)).trans (ids _)

/-- The words of a list behind a merge: those that the entries leave, then the shorthand names. -/
theorem wordsAt_merge {key : String} (list : key ∈ listKeys) (a : Attributes) (bag : Bag) :
    (a.merge bag).wordsAt key =
      (valuesAt key bag.attrs.entries).foldl mergeWords (a.wordsAt key) ++
        (bag.names key).flatMap fun name => Text.words name.toList := by
  rw [← wordsAt_foldl_mergeEntry list, ← wordsAt_foldl_appendWords, merge_eq]
  obtain rfl | rfl : key = "class" ∨ key = "id" := by simpa [listKeys] using list
  · exact wordsAt_congr (get?_foldl_appendWords_of_ne (by decide) _ _)
  · rw [wordsAt_foldl_appendWords, wordsAt_foldl_appendWords,
      wordsAt_congr (get?_foldl_appendWords_of_ne (by decide : "class" ≠ "id") _ _)]
    rfl

/-- A key that holds no list gets the last value of the annotation. -/
theorem get?_merge_single {key : String} (single : key ∉ listKeys) (a : Attributes) (bag : Bag) :
    (a.merge bag).get? key = (valuesAt key bag.attrs.entries).getLast?.or (a.get? key) := by
  obtain ⟨not_class, not_id⟩ : key ≠ "class" ∧ key ≠ "id" := by simpa [listKeys] using single
  rw [merge_eq, get?_foldl_appendWords_of_ne not_id.symm,
    get?_foldl_appendWords_of_ne not_class.symm, get?_foldl_mergeEntry single]

/-- What merging an annotation does. The words of a list are the old ones, then those of the list
that the annotation sets, then its shorthand names; if the annotation sets the list to no text, only
the shorthand names are left. Every other key of the annotation gets its value. A key that the
annotation does not mention keeps its value and its place, and no key is taken away. -/
theorem merge_parse (a : Attributes) (source : String) :
    let bag := Bag.parse source
    let merged := a.merge bag
    (∀ key ∈ listKeys, (∀ b, bag.attrs.get? key ≠ some (.flag b)) →
      merged.wordsAt key = a.wordsAt key ++ bag.attrs.wordsAt key ++
        (bag.names key).flatMap fun name => Text.words name.toList) ∧
    (∀ key ∈ listKeys, ∀ b, bag.attrs.get? key = some (.flag b) →
      merged.wordsAt key = (bag.names key).flatMap fun name => Text.words name.toList) ∧
    (∀ key ∉ listKeys, ∀ value, bag.attrs.get? key = some value →
      merged.get? key = some value) ∧
    (∀ key, ¬bag.Mentions key → merged.get? key = a.get? key) ∧
    (∀ (i : Nat) (entry : String × Value), a.entries[i]? = some entry → ¬bag.Mentions entry.1 →
      merged.entries[i]? = some entry) ∧
    a.keys <+: merged.keys := by
  intro bag merged
  have distinct : bag.attrs.keys.Nodup := by
    simp only [bag, parse_eq]
    exact nodup_keys_ofList _
  have framed : Frame bag.Mentions a merged := frame_merge a bag
  refine ⟨fun key list text => ?_, fun key list b bare => ?_, fun key single value held => ?_,
    framed.value, framed.place, framed.keys⟩
  · rw [wordsAt_merge list, valuesAt_entries distinct]
    have explicit : (bag.attrs.get? key).toList.foldl mergeWords (a.wordsAt key) =
        a.wordsAt key ++ bag.attrs.wordsAt key := by
      rw [wordsAt, wordsAt, getText?, getText?]
      cases held : bag.attrs.get? key with
      | none => exact (List.append_nil _).symm
      | some value =>
          cases value with
          | text s => rfl
          | flag b => exact absurd held (text b)
    rw [explicit]
  · rw [wordsAt_merge list, valuesAt_entries distinct, bare]
    rfl
  · rw [get?_merge_single single, valuesAt_entries distinct, held]
    rfl

/-- The container of a code block with the words behind its language. -/
theorem merge_parse_container :
    let a := ofList [("class", .text "code-container"), ("hidden", .flag true),
      ("title", .text "old")]
    let bag := Bag.parse ".wide class:\"x y\" #main title:main.rs"
    (∀ key ∈ listKeys, ∀ b, bag.attrs.get? key ≠ some (.flag b)) ∧
      bag.attrs.get? "title" = some (.text "main.rs") ∧ ¬bag.Mentions "hidden" ∧
      (a.merge bag).wordsAt "class" = ["code-container", "x", "y", "wide"].map String.toList ∧
      (a.merge bag).wordsAt "id" = ["main".toList] ∧
      (a.merge bag).get? "title" = some (.text "main.rs") ∧
      (a.merge bag).entries[1]? = some ("hidden", .flag true) := by
  intro a bag
  have texts : ∀ key ∈ listKeys, ∀ b, bag.attrs.get? key ≠ some (.flag b) := by decide
  have title : bag.attrs.get? "title" = some (.text "main.rs") := by decide
  have unmentioned : ¬bag.Mentions "hidden" := by
    rintro (sets | named)
    · exact absurd sets (by decide)
    · exact named rfl
  obtain ⟨lists, -, single, -, place, -⟩ :=
    merge_parse a ".wide class:\"x y\" #main title:main.rs"
  refine ⟨texts, title, unmentioned, ?_, ?_, single "title" (by decide) _ title,
    place 1 _ rfl unmentioned⟩
  · exact (lists "class" (by decide) (texts "class" (by decide))).trans (by decide)
  · exact (lists "id" (by decide) (texts "id" (by decide))).trans (by decide)

/-- A class without a value takes the classes of an element away. -/
theorem merge_parse_bareClass :
    let a := ofList [("class", .text "base")]
    let bag := Bag.parse "class"
    (∀ key ∈ listKeys, ∀ b, a.get? key ≠ some (.flag b)) ∧
      a.wordsAt "class" ++ bag.attrs.wordsAt "class" ++
        ((bag.names "class").flatMap fun name => Text.words name.toList) = ["base".toList] ∧
      (a.merge bag).wordsAt "class" = [] := by
  decide

end Attributes

end SlideDeck
