import SlideDeck.Proofs.Attribute.Merge

/-!
# The history of an attribute map

Every operation on an attribute map amounts to changes of single keys, so what a map holds can be
read off its history. A key has the value last set, with the words joined to it since, and nothing
once it is taken away. The keys stand in the order in which they were first inserted since they were
last taken away, each of them once (`performAll_eq_history`).
-/

namespace SlideDeck.Attributes

/-- A change of one key. -/
inductive Change where
  /-- The key is set to a value. -/
  | set (value : Value)
  /-- The key is taken away. -/
  | unset
  /-- A part is joined to the text of the key. -/
  | grow (part : String) (part_ne : part ≠ "")

namespace Change

/-- The part that is joined, if one is. -/
def part? : Change → Option String
  | grow part _ => some part
  | _ => none

/-- The value that is set, if one is. -/
def value? : Change → Option Value
  | set value => some value
  | _ => none

/-- True of a change that takes its key away. -/
def isUnset : Change → Bool
  | unset => true
  | _ => false

/-- The change that words make: they are joined without the white space around them, unless they
are blank. -/
def grows (key words : String) : List (String × Change) :=
  let added := String.ofList (Text.trim words.toList)
  if added_ne : added ≠ "" then [(key, grow added added_ne)] else []

/-- The changes that an entry of an annotation makes. -/
def ofEntry : String × Value → List (String × Change)
  | (key, .text words) => if key ∈ listKeys then grows key words else [(key, set (.text words))]
  | (key, .flag b) => [(key, set (.flag b))]

end Change

/-- An operation on an attribute map. -/
inductive Operation where
  /-- Set a key to a value. -/
  | insert (key : String) (value : Value)
  /-- Take a key away. -/
  | erase (key : String)
  /-- Append class names. -/
  | addClass (names : String)
  /-- Append id names. -/
  | addId (names : String)
  /-- Merge an annotation. -/
  | merge (bag : Bag)

namespace Operation

/-- Carry out an operation. -/
def perform (a : Attributes) : Operation → Attributes
  | insert key value => a.insert key value
  | erase key => a.erase key
  | addClass names => a.addClass names
  | addId names => a.addId names
  | merge bag => a.merge bag

/-- The changes of an operation in order: an annotation makes those of its entries, then those of
its shorthand classes and ids. -/
def changes : Operation → List (String × Change)
  | insert key value => [(key, .set value)]
  | erase key => [(key, .unset)]
  | addClass names => Change.grows "class" names
  | addId names => Change.grows "id" names
  | merge bag =>
    bag.attrs.entries.flatMap Change.ofEntry ++ bag.classes.flatMap (Change.grows "class") ++
      bag.ids.flatMap (Change.grows "id")

end Operation

/-- The map that operations make of the empty one. -/
def performAll (operations : List Operation) : Attributes :=
  operations.foldl Operation.perform empty

/-! ## Reading a history -/

/-- The changes of a key, in order. -/
def changesAt (key : String) (made : List (String × Change)) : List Change :=
  (made.filter fun e => e.1 = key).map Prod.snd

/-- The parts joined behind the last value that was set, and behind the last removal. -/
def partsSince (changes : List Change) : List String :=
  (changes.reverse.takeWhile fun change => change.part?.isSome).reverse.filterMap Change.part?

/-- The value last set, unless a removal followed. -/
def valueSet (changes : List Change) : Option Value :=
  (changes.reverse.dropWhile fun change => change.part?.isSome).head?.bind Change.value?

/-- A text with parts joined to it by spaces; what is no text, or an empty one, is lost. -/
def joined (value : Option Value) (parts : List String) : String :=
  " ".intercalate ((value.bind Value.text?).toList.filter (· ≠ "") ++ parts)

/-- What changes in order leave at their key. -/
def valueLeft (changes : List Change) : Option Value :=
  if partsSince changes = [] then valueSet changes
  else some (.text (joined (valueSet changes) (partsSince changes)))

/-- The keys of the insertions that no removal of their key follows, in order. -/
def insertedKeys : List (String × Change) → List String
  | [] => []
  | (key, change) :: later =>
    if change.isUnset || (changesAt key later).any Change.isUnset then insertedKeys later
    else key :: insertedKeys later

/-- The keys in the order of their first insertion since their last removal. -/
def liveKeys (made : List (String × Change)) : List String := (insertedKeys made).eraseDups

/-! ## Changes -/

/-- Make one change. -/
def change (a : Attributes) : String × Change → Attributes
  | (key, .set value) => a.insert key value
  | (key, .unset) => a.erase key
  | (key, .grow part _) => a.insert key (.text (joined (a.get? key) [part]))

theorem joined_single (value : Option Value) (part : String) :
    joined value [part] =
      match value.bind Value.text? with
      | none => part
      | some old => if old = "" then part else old ++ " " ++ part := by
  unfold joined
  cases value.bind Value.text? with
  | none => simp
  | some old =>
      by_cases none_yet : old = ""
      · simp [none_yet]
      · simp [none_yet, String.intercalate_cons_cons, String.append_assoc]

theorem appendWords_eq (a : Attributes) (key words : String) :
    a.appendWords key words = (Change.grows key words).foldl change a := by
  unfold appendWords Change.grows getText?
  generalize Text.trim words.toList = added
  by_cases nothing : added = []
  · simp [nothing]
  · simp only [List.isEmpty_iff, nothing, if_false, ne_eq, String.ofList_eq_empty_iff,
      not_false_eq_true, dite_true, List.foldl_cons, List.foldl_nil, change, joined_single]
    cases (a.get? key).bind Value.text? with
    | none => rfl
    | some old => by_cases none_yet : old = "" <;> simp [none_yet]

theorem mergeEntry_eq (a : Attributes) (entry : String × Value) :
    a.mergeEntry entry = (Change.ofEntry entry).foldl change a := by
  obtain ⟨key, value⟩ := entry
  cases value with
  | flag b => exact mergeEntry_flag a key b
  | text words =>
      by_cases list : key ∈ listKeys
      · rw [mergeEntry_list list, appendWords_eq, Change.ofEntry, if_pos list]
      · rw [mergeEntry_single list, Change.ofEntry, if_neg list]
        rfl

/-- An operation makes its changes. -/
theorem perform_eq (a : Attributes) (operation : Operation) :
    operation.perform a = operation.changes.foldl change a := by
  cases operation with
  | insert key value => rfl
  | erase key => rfl
  | addClass names => exact appendWords_eq a "class" names
  | addId names => exact appendWords_eq a "id" names
  | merge bag =>
      have entries : mergeEntry = fun a entry => (Change.ofEntry entry).foldl change a :=
        funext₂ mergeEntry_eq
      have names (key : String) :
          (fun a : Attributes => a.appendWords key) =
            fun a words => (Change.grows key words).foldl change a :=
        funext₂ fun a words => appendWords_eq a key words
      rw [Operation.perform, merge_eq, entries, names, names, Operation.changes,
        List.foldl_append, List.foldl_append, List.foldl_flatMap, List.foldl_flatMap,
        List.foldl_flatMap]

/-- A run of operations makes all their changes. -/
theorem performAll_eq (operations : List Operation) :
    performAll operations = (operations.flatMap Operation.changes).foldl change empty := by
  have steps : Operation.perform = fun a operation => operation.changes.foldl change a :=
    funext₂ perform_eq
  rw [performAll, steps, List.foldl_flatMap]

/-! ## Values -/

/-- What a change leaves at its key. -/
def Change.left (before : Option Value) : Change → Option Value
  | set value => some value
  | unset => none
  | grow part _ => some (.text (joined before [part]))

theorem partsSince_append (changes : List Change) (last : Change) :
    partsSince (changes ++ [last]) =
      match last.part? with
      | none => []
      | some part => partsSince changes ++ [part] := by
  cases last <;> simp [partsSince, Change.part?]

theorem valueSet_append (changes : List Change) (last : Change) :
    valueSet (changes ++ [last]) =
      if last.part?.isSome then valueSet changes else last.value? := by
  cases last <;> simp [valueSet, Change.part?, Change.value?]

theorem ne_empty_of_mem_partsSince {changes : List Change} {part : String}
    (member : part ∈ partsSince changes) : part ≠ "" := by
  obtain ⟨change, -, grown⟩ := List.mem_filterMap.mp member
  cases change with
  | grow part part_ne =>
      obtain rfl := Option.some.inj grown
      exact part_ne
  | set value => cases grown
  | unset => cases grown

/-- A part joined to joined parts. -/
theorem joined_joined {parts : List String} (parts_ne : parts ≠ [])
    (nonempty : ∀ part ∈ parts, part ≠ "") (value : Option Value) (part : String) :
    joined (some (.text (joined value parts))) [part] = joined value (parts ++ [part]) := by
  have held : ∀ s ∈ (value.bind Value.text?).toList.filter (· ≠ "") ++ parts, s ≠ "" := by
    intro s member
    rcases List.mem_append.mp member with old | new
    · exact of_decide_eq_true (List.mem_filter.mp old).2
    · exact nonempty s new
  have all_ne := List.append_ne_nil_of_right_ne_nil
    ((value.bind Value.text?).toList.filter (· ≠ "")) parts_ne
  have text_ne : joined value parts ≠ "" := Text.intercalate_ne_empty all_ne held
  rw [joined_single, Option.bind_some, Value.text?]
  dsimp only
  rw [if_neg text_ne, joined, joined, ← List.append_assoc,
    String.intercalate_append_of_ne_nil all_ne (List.cons_ne_nil part []),
    String.intercalate_singleton]

/-- The last change leaves its value, or joins its part to what was left before. -/
theorem valueLeft_append (changes : List Change) (last : Change) :
    valueLeft (changes ++ [last]) = last.left (valueLeft changes) := by
  rw [valueLeft, partsSince_append, valueSet_append]
  cases last with
  | set value => rfl
  | unset => rfl
  | grow part part_ne =>
      have some_part : partsSince changes ++ [part] ≠ [] := by simp
      simp only [Change.part?, Option.isSome_some, if_true, some_part, if_false, Change.left,
        valueLeft, Option.some.injEq, Value.text.injEq]
      by_cases none_yet : partsSince changes = []
      · rw [none_yet, if_pos rfl, List.nil_append]
      · rw [if_neg none_yet]
        exact (joined_joined none_yet (fun _ => ne_empty_of_mem_partsSince) _ part).symm

theorem changesAt_append (key : String) (made : List (String × Change)) (last : String × Change) :
    changesAt key (made ++ [last]) =
      if last.1 = key then changesAt key made ++ [last.2] else changesAt key made := by
  by_cases same : last.1 = key <;> simp [changesAt, same]

theorem get?_eq_none {a : Attributes} {key : String} (absent : key ∉ a.keys) :
    a.get? key = none := by
  obtain ⟨entries⟩ := a
  simp only [keys, get?] at absent ⊢
  induction entries with
  | nil => rfl
  | cons entry rest ih =>
      rw [List.map_cons, List.mem_cons, not_or] at absent
      rw [find, if_neg (Ne.symm absent.1), ih absent.2]

/-- Keys are distinct, so nothing is left of one that is taken away. -/
theorem get?_erase {a : Attributes} (distinct : a.keys.Nodup) (key other : String) :
    (a.erase key).get? other = if key = other then none else a.get? other := by
  obtain ⟨entries⟩ := a
  simp only [erase, get?]
  induction entries with
  | nil => simp [drop, find]
  | cons entry rest ih =>
      obtain ⟨k, v⟩ := entry
      obtain ⟨fresh, distinct⟩ := List.nodup_cons.mp distinct
      rw [drop]
      by_cases here : k = key
      · subst here
        rw [if_pos rfl]
        split_ifs with same
        · subst same
          exact get?_eq_none (a := ⟨rest⟩) fresh
        · rw [find, if_neg same]
      · rw [if_neg here, find, ih distinct, find]
        by_cases same : k = other
        · subst same
          simp [Ne.symm here]
        · simp [same]

/-- A change leaves its value at its key and all others as they are. -/
theorem get?_change {a : Attributes} (distinct : a.keys.Nodup) (made : String × Change)
    (key : String) :
    (a.change made).get? key =
      if made.1 = key then made.2.left (a.get? key) else a.get? key := by
  obtain ⟨other, last⟩ := made
  by_cases same : other = key
  · subst same
    cases last <;> simp [change, get?_insert, get?_erase distinct, Change.left]
  · cases last <;> simp [change, get?_insert, get?_erase distinct, same]

/-! ## Keys -/

theorem keys_erase {a : Attributes} (distinct : a.keys.Nodup) (key : String) :
    (a.erase key).keys = a.keys.filter (· ≠ key) := by
  obtain ⟨entries⟩ := a
  simp only [keys, erase] at distinct ⊢
  induction entries with
  | nil => rfl
  | cons entry rest ih =>
      obtain ⟨k, v⟩ := entry
      obtain ⟨fresh, distinct⟩ := List.nodup_cons.mp distinct
      rw [drop]
      by_cases here : k = key
      · subst here
        have kept : ∀ other ∈ rest.map Prod.fst, decide (other ≠ k) = true :=
          fun other member => decide_eq_true fun same => fresh (same ▸ member)
        rw [if_pos rfl, List.map_cons, List.filter_cons_of_neg (by simp),
          List.filter_eq_self.mpr kept]
      · rw [if_neg here, List.map_cons, List.map_cons, ih distinct,
          List.filter_cons_of_pos (by simpa using here)]

theorem keys_change {a : Attributes} (distinct : a.keys.Nodup) (made : String × Change) :
    (a.change made).keys =
      if made.2.isUnset then a.keys.filter (· ≠ made.1)
      else if made.1 ∈ a.keys then a.keys else a.keys ++ [made.1] := by
  obtain ⟨key, last⟩ := made
  cases last with
  | set value => exact keys_insert a key value
  | unset => exact keys_erase distinct key
  | grow part part_ne => exact keys_insert a key _

theorem nodup_keys_change {a : Attributes} (distinct : a.keys.Nodup) (made : String × Change) :
    (a.change made).keys.Nodup := by
  obtain ⟨key, last⟩ := made
  cases last with
  | set value => exact nodup_keys_insert distinct key value
  | unset =>
      rw [change, keys_erase distinct]
      exact distinct.filter _
  | grow part part_ne => exact nodup_keys_insert distinct key _

/-- A removal takes back the insertions of its key; any other change is an insertion. -/
theorem insertedKeys_append (made : List (String × Change)) (last : String × Change) :
    insertedKeys (made ++ [last]) =
      if last.2.isUnset then (insertedKeys made).filter (· ≠ last.1)
      else insertedKeys made ++ [last.1] := by
  induction made with
  | nil => cases unset : last.2.isUnset <;> simp [insertedKeys, changesAt, unset]
  | cons first made ih =>
      obtain ⟨key, change⟩ := first
      have later : (changesAt key (made ++ [last])).any Change.isUnset =
          ((changesAt key made).any Change.isUnset || (last.1 = key && last.2.isUnset)) := by
        rw [changesAt_append]
        split_ifs with same <;> simp [same]
      rw [List.cons_append, insertedKeys, insertedKeys, ih, later]
      cases unset : last.2.isUnset with
      | false =>
          simp only [Bool.and_false, Bool.or_false, Bool.false_eq_true, if_false]
          split_ifs <;> rfl
      | true =>
          simp only [Bool.and_true, if_true]
          by_cases same : last.1 = key
          · simp only [same, decide_true, Bool.or_true, if_true]
            split_ifs
            · rfl
            · rw [List.filter_cons_of_neg (by simp)]
          · simp only [same, decide_false, Bool.or_false]
            split_ifs
            · rfl
            · rw [List.filter_cons_of_pos (by simpa using Ne.symm same)]

/-- The first occurrences of a list with another member behind it. -/
theorem eraseDups_concat (keys : List String) (key : String) :
    (keys ++ [key]).eraseDups =
      if key ∈ keys then keys.eraseDups else keys.eraseDups ++ [key] := by
  rw [List.eraseDups_append]
  by_cases held : key ∈ keys <;> simp [held, List.removeAll, List.eraseDups_cons]

theorem eraseDups_filter (keys : List String) (p : String → Bool) :
    (keys.filter p).eraseDups = keys.eraseDups.filter p := by
  induction keys using List.reverseRecOn with
  | nil => rfl
  | append_singleton keys key ih =>
      rw [eraseDups_concat, List.filter_append]
      by_cases kept : p key = true
      · rw [List.filter_cons_of_pos kept, List.filter_nil, eraseDups_concat, ih]
        by_cases held : key ∈ keys <;> simp [held, kept]
      · rw [List.filter_cons_of_neg kept, List.filter_nil, List.append_nil, ih]
        by_cases held : key ∈ keys <;> simp [held, kept]

theorem liveKeys_append (made : List (String × Change)) (last : String × Change) :
    liveKeys (made ++ [last]) =
      if last.2.isUnset then (liveKeys made).filter (· ≠ last.1)
      else if last.1 ∈ liveKeys made then liveKeys made else liveKeys made ++ [last.1] := by
  rw [liveKeys, insertedKeys_append]
  split_ifs with unset held
  · exact eraseDups_filter _ _
  · rw [eraseDups_concat, if_pos (List.mem_eraseDups.mp held), liveKeys]
  · rw [eraseDups_concat, if_neg (mt List.mem_eraseDups.mpr held), liveKeys]

/-! ## Histories -/

/-- A map holds what its history tells. -/
structure Records (made : List (String × Change)) (a : Attributes) : Prop where
  /-- No key stands twice. -/
  distinct : a.keys.Nodup
  /-- Every key has the value that its changes leave. -/
  values : ∀ key, a.get? key = valueLeft (changesAt key made)
  /-- The keys stand in the order of their insertion. -/
  order : a.keys = liveKeys made

theorem records_empty : Records [] empty where
  distinct := List.nodup_nil
  values _ := rfl
  order := rfl

theorem Records.change {made : List (String × Change)} {a : Attributes} (records : Records made a)
    (last : String × Change) : Records (made ++ [last]) (a.change last) where
  distinct := nodup_keys_change records.distinct last
  values key := by
    rw [get?_change records.distinct, records.values, changesAt_append]
    split_ifs
    · exact (valueLeft_append _ _).symm
    · rfl
  order := by rw [keys_change records.distinct, records.order, liveKeys_append]

theorem records_foldl (made : List (String × Change)) :
    Records made (made.foldl Attributes.change empty) := by
  induction made using List.reverseRecOn with
  | nil => exact records_empty
  | append_singleton made last ih =>
      rw [List.foldl_append]
      exact ih.change last

/-- The entries of a map with distinct keys are its keys, each with its value. -/
theorem entries_eq {a : Attributes} (distinct : a.keys.Nodup) :
    a.entries = a.keys.filterMap fun key => (a.get? key).map (key, ·) := by
  obtain ⟨entries⟩ := a
  induction entries with
  | nil => rfl
  | cons entry rest ih =>
      obtain ⟨k, v⟩ := entry
      obtain ⟨fresh, distinct⟩ := List.nodup_cons.mp distinct
      have behind : ∀ key ∈ (Attributes.mk rest).keys,
          ((Attributes.mk ((k, v) :: rest)).get? key).map (key, ·) =
            ((Attributes.mk rest).get? key).map (key, ·) := by
        intro key member
        have other : k ≠ key := fun same => fresh (same ▸ member)
        rw [get?, find, if_neg other, get?]
      have here : (Attributes.mk ((k, v) :: rest)).get? k = some v := if_pos rfl
      rw [keys, List.map_cons, List.filterMap_cons, here]
      exact congrArg ((k, v) :: ·) ((ih distinct).trans (List.filterMap_congr behind).symm)

/-- An attribute map is what its history makes of it. No key stands twice. A look-up finds the value
last set, with the parts joined to it since, and nothing behind a removal. The keys stand in the
order of their first insertion since their last removal, each with its value. -/
theorem performAll_eq_history (operations : List Operation) :
    let a := performAll operations
    let made := operations.flatMap Operation.changes
    a.keys.Nodup ∧
    (∀ key, a.get? key = valueLeft (changesAt key made)) ∧
    a.keys = liveKeys made ∧
    a.entries = (liveKeys made).filterMap fun key =>
      (valueLeft (changesAt key made)).map (key, ·) := by
  intro a made
  have records : Records made a := by
    simp only [a, performAll_eq]
    exact records_foldl made
  refine ⟨records.distinct, records.values, records.order, ?_⟩
  rw [entries_eq records.distinct, records.order]
  exact List.filterMap_congr fun key _ => by rw [records.values]

/-- A key that is taken away and set again stands behind the others, without its old words. -/
example : (performAll [.addClass "a", .insert "title" (.flag true), .erase "class",
      .merge (Bag.parse ".b #i title:new"), .addClass " c "]).entries =
    [("title", .text "new"), ("class", .text "b c"), ("id", .text "i")] := by decide

end SlideDeck.Attributes
