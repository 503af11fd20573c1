import Mathlib.Data.List.Induction
import Mathlib.Data.List.Nodup
import SlideDeck.Proofs.Attribute.Shown

/-!
# What an annotation assigns

An annotation assigns a value to the key of each of its pairs in turn. Read as a map it keeps each
key once, in its first place and with its last value (`nodup_keys_ofList`, `get?_ofList`), so the
last value of a key can be looked up in either reading (`getLast?_valuesAt_parse`).
-/

namespace SlideDeck

/-- The values assigned to a key, in order. -/
def valuesAt (key : String) (made : List (String × Value)) : List Value :=
  (made.filter fun e => e.1 = key).map Prod.snd

theorem valuesAt_append (key : String) (left right : List (String × Value)) :
    valuesAt key (left ++ right) = valuesAt key left ++ valuesAt key right := by
  simp [valuesAt]

/-- What a token assigns: its key gets its value, or `true` without one. -/
def Token.assignment? : Token → Option (String × Value)
  | .pair key value => some (key, value.elim (.flag true) .text)
  | _ => none

def Token.className? : Token → Option String
  | .className name => some name
  | _ => none

def Token.idName? : Token → Option String
  | .idName name => some name
  | _ => none

/-- Shorthand names assign their key once, as one text. -/
def namesAt (key : String) (names : List String) : List (String × Value) :=
  if names.isEmpty then [] else [(key, .text (" ".intercalate names))]

/-- What an annotation assigns as it is written: its pairs in source order, then its shorthand
classes and its shorthand ids. -/
def assignments (source : String) : List (String × Value) :=
  (tokenize source).filterMap Token.assignment? ++
    namesAt "class" ((tokenize source).filterMap Token.className?) ++
      namesAt "id" ((tokenize source).filterMap Token.idName?)

/-- What an annotation assigns once it is read. -/
def Bag.assignments (bag : Bag) : List (String × Value) :=
  bag.attrs.entries ++ namesAt "class" bag.classes ++ namesAt "id" bag.ids

namespace Attributes

theorem nodup_keys_insert {a : Attributes} (distinct : a.keys.Nodup) (key : String)
    (value : Value) : (a.insert key value).keys.Nodup := by
  rw [keys_insert]
  split_ifs with held
  · exact distinct
  · rw [← List.concat_eq_append]
    exact List.Nodup.concat held distinct

theorem nodup_keys_ofList (entries : List (String × Value)) : (ofList entries).keys.Nodup := by
  induction entries using List.reverseRecOn with
  | nil => exact List.nodup_nil
  | append_singleton entries entry ih =>
      rw [ofList, List.foldl_append]
      exact nodup_keys_insert ih entry.1 entry.2

/-- The last value of a key stays. -/
theorem get?_ofList (entries : List (String × Value)) (key : String) :
    (ofList entries).get? key = (valuesAt key entries).getLast? := by
  induction entries using List.reverseRecOn with
  | nil => rfl
  | append_singleton entries entry ih =>
      rw [ofList, List.foldl_append, List.foldl_cons, List.foldl_nil, get?_insert, valuesAt_append,
        ← ofList, ih]
      by_cases same : entry.1 = key <;> simp [valuesAt, same]

/-- A map with distinct keys holds at most one value of each. -/
theorem valuesAt_entries {a : Attributes} (distinct : a.keys.Nodup) (key : String) :
    valuesAt key a.entries = (a.get? key).toList := by
  obtain ⟨entries⟩ := a
  induction entries with
  | nil => rfl
  | cons entry rest ih =>
      obtain ⟨k, v⟩ := entry
      obtain ⟨fresh, distinct⟩ := List.nodup_cons.mp distinct
      have behind := ih distinct
      simp only [valuesAt, get?, find] at behind ⊢
      by_cases same : k = key
      · subst same
        have none_behind : rest.filter (fun e => e.1 = k) = [] :=
          List.filter_eq_nil_iff.mpr fun e member equal =>
            fresh (List.mem_map.mpr ⟨e, member, of_decide_eq_true equal⟩)
        simp [none_behind]
      · simpa [same] using behind

end Attributes

/-! ## Reading an annotation -/

theorem parse_eq (source : String) :
    Bag.parse source =
      { attrs := .ofList ((tokenize source).filterMap Token.assignment?)
        classes := (tokenize source).filterMap Token.className?
        ids := (tokenize source).filterMap Token.idName? } := by
  rw [Bag.parse]
  induction tokenize source using List.reverseRecOn with
  | nil => rfl
  | append_singleton tokens token ih =>
      rw [List.foldl_append, ih]
      rcases token with name | name | ⟨key, _ | value⟩ <;>
        simp [Bag.add, List.filterMap_cons, Token.assignment?, Token.className?, Token.idName?,
          Attributes.ofList]

/-- The last value of a key is the same as it is written and as it is read. -/
theorem getLast?_valuesAt_parse (source key : String) :
    (valuesAt key (Bag.parse source).assignments).getLast? =
      (valuesAt key (assignments source)).getLast? := by
  have read : (valuesAt key (Bag.parse source).attrs.entries).getLast? =
      (valuesAt key ((tokenize source).filterMap Token.assignment?)).getLast? := by
    rw [parse_eq, Attributes.valuesAt_entries (Attributes.nodup_keys_ofList _),
      Attributes.get?_ofList]
    generalize (valuesAt key ((tokenize source).filterMap Token.assignment?)).getLast? = last
    cases last <;> rfl
  have classes : (Bag.parse source).classes = (tokenize source).filterMap Token.className? := by
    rw [parse_eq]
  have ids : (Bag.parse source).ids = (tokenize source).filterMap Token.idName? := by rw [parse_eq]
  simp only [Bag.assignments, assignments, valuesAt_append, List.getLast?_append, read, classes,
    ids]

end SlideDeck
