/-!
# Dictionaries in key order

An association list that keeps its keys in increasing order. `get?_insert` and `get?_erase` say
what each operation does to the look-up; they hold of every list of entries, ordered or not.
`Ordered.insert` says that a dictionary built by insertions is in order.
-/

namespace SlideDeck

/-- A dictionary whose entries stand in increasing order of their keys. -/
structure Dict (κ : Type) (α : Type) where
  /-- The entries in key order. -/
  entries : List (κ × α) := []
deriving Repr, DecidableEq

namespace Dict

variable {κ α β : Type} [LT κ] [DecidableLT κ] [DecidableEq κ]

/-- The dictionary without entries. -/
def empty : Dict κ α := ⟨[]⟩

/-- The value of the first entry with the given key. -/
def lookup (key : κ) : List (κ × α) → Option α
  | [] => none
  | (k, v) :: rest => if k = key then some v else lookup key rest

/-- Puts an entry in front of the first larger key, or in the place of its own key. -/
def place (key : κ) (value : α) : List (κ × α) → List (κ × α)
  | [] => [(key, value)]
  | (k, v) :: rest =>
    if k = key then (key, value) :: rest
    else if key < k then (key, value) :: (k, v) :: rest
    else (k, v) :: place key value rest

/-- The value stored under a key. -/
def get? (d : Dict κ α) (key : κ) : Option α := lookup key d.entries

/-- The dictionary with a key set to a value. -/
def insert (d : Dict κ α) (key : κ) (value : α) : Dict κ α := ⟨place key value d.entries⟩

/-- The dictionary without a key. -/
def erase (d : Dict κ α) (key : κ) : Dict κ α := ⟨d.entries.filter fun e => e.1 ≠ key⟩

/-- The keys in increasing order. -/
def keys (d : Dict κ α) : List κ := d.entries.map Prod.fst

/-- The number of entries. -/
def size (d : Dict κ α) : Nat := d.entries.length

/-- True when there is no entry. -/
def isEmpty (d : Dict κ α) : Bool := d.entries.isEmpty

/-- The dictionary of a list of entries, the last entry of a key winning. -/
def ofList (entries : List (κ × α)) : Dict κ α :=
  entries.foldl (fun d e => d.insert e.1 e.2) empty

omit [LT κ] [DecidableLT κ] in
@[simp]
theorem get?_empty (key : κ) : (empty : Dict κ α).get? key = none := rfl

theorem lookup_place (key other : κ) (value : α) (l : List (κ × α)) :
    lookup other (place key value l) = if key = other then some value else lookup other l := by
  induction l with
  | nil => simp [place, lookup]
  | cons e rest ih =>
    obtain ⟨k, v⟩ := e
    by_cases hk : k = key
    · subst hk
      by_cases ho : k = other <;> simp [place, lookup, ho]
    · by_cases hlt : key < k
      · simp [place, lookup, hk, hlt]
      · by_cases ho : k = other
        · subst ho
          simp [place, lookup, hk, hlt, Ne.symm hk]
        · simp [place, lookup, hk, hlt, ho, ih]

/-- A look-up after an insertion finds the inserted value under its key and the old one under every
other key. -/
theorem get?_insert (d : Dict κ α) (key other : κ) (value : α) :
    (d.insert key value).get? other = if key = other then some value else d.get? other :=
  lookup_place key other value d.entries

omit [LT κ] [DecidableLT κ] in
/-- A look-up after a removal finds nothing under the removed key and the old value elsewhere. -/
theorem get?_erase (d : Dict κ α) (key other : κ) :
    (d.erase key).get? other = if key = other then none else d.get? other := by
  obtain ⟨l⟩ := d
  simp only [erase, get?]
  induction l with
  | nil => simp [lookup]
  | cons e rest ih =>
    obtain ⟨k, v⟩ := e
    by_cases hk : k = key
    · subst hk
      by_cases ho : k = other
      · subst ho
        simpa [lookup] using ih
      · simpa [lookup, ho] using ih
    · by_cases ho : k = other
      · subst ho
        simp [lookup, hk, Ne.symm hk]
      · simpa [lookup, hk, ho] using ih

/-- The entries stand in strictly increasing order of their keys. -/
def Ordered (d : Dict κ α) : Prop := d.entries.Pairwise fun a b => a.1 < b.1

omit [DecidableLT κ] [DecidableEq κ] in
theorem ordered_empty : (⟨[]⟩ : Dict κ α).Ordered := List.Pairwise.nil

theorem mem_place {key : κ} {value : α} {l : List (κ × α)} {e : κ × α}
    (member : e ∈ place key value l) : e = (key, value) ∨ e ∈ l := by
  induction l with
  | nil => simpa [place] using member
  | cons first rest ih =>
    obtain ⟨k, v⟩ := first
    by_cases same : k = key
    · simp only [place, same, if_true] at member
      exact (List.mem_cons.mp member).imp_right (List.mem_cons_of_mem _)
    · by_cases before : key < k
      · simp only [place, same, before, if_true, if_false] at member
        exact List.mem_cons.mp member
      · simp only [place, same, before, if_false] at member
        rcases List.mem_cons.mp member with rfl | member
        · exact .inr List.mem_cons_self
        · exact (ih member).imp_right (List.mem_cons_of_mem _)

theorem Ordered.insert [Std.Trichotomous (α := κ) (· < ·)]
    [Trans (α := κ) (· < ·) (· < ·) (· < ·)] {d : Dict κ α} (ordered : d.Ordered) (key : κ)
    (value : α) : (d.insert key value).Ordered := by
  obtain ⟨l⟩ := d
  simp only [Ordered, Dict.insert] at ordered ⊢
  induction l with
  | nil => simp [place]
  | cons first rest ih =>
    obtain ⟨k, v⟩ := first
    obtain ⟨below, ordered⟩ := List.pairwise_cons.mp ordered
    by_cases same : k = key
    · simp only [place, same, if_true]
      exact List.pairwise_cons.mpr ⟨fun e member => same ▸ below e member, ordered⟩
    · by_cases before : key < k
      · simp only [place, same, before, if_true, if_false]
        refine List.pairwise_cons.mpr ⟨fun e member => ?_, List.pairwise_cons.mpr ⟨below, ordered⟩⟩
        rcases List.mem_cons.mp member with rfl | member
        · exact before
        · exact Trans.trans before (below e member)
      · simp only [place, same, before, if_false]
        have after : k < key :=
          Decidable.byContradiction fun h => same (Std.Trichotomous.trichotomous k key h before)
        refine List.pairwise_cons.mpr ⟨fun e member => ?_, ih ordered⟩
        rcases mem_place member with rfl | member
        · exact after
        · exact below e member

omit [LT κ] [DecidableLT κ] in
/-- A key that no entry has is not found. -/
theorem lookup_eq_none {key : κ} {l : List (κ × α)} (absent : ∀ e ∈ l, e.1 ≠ key) :
    lookup key l = none := by
  induction l with
  | nil => rfl
  | cons first rest ih =>
    have here : first.1 ≠ key := absent first List.mem_cons_self
    simp only [lookup, here, if_false]
    exact ih fun e member => absent e (List.mem_cons_of_mem _ member)

omit [LT κ] [DecidableLT κ] in
/-- The keys are those that are found. -/
theorem mem_keys_iff {d : Dict κ α} {key : κ} : key ∈ d.keys ↔ (d.get? key).isSome = true := by
  obtain ⟨l⟩ := d
  simp only [keys, get?]
  induction l with
  | nil => simp [lookup]
  | cons first rest ih =>
    by_cases here : first.1 = key
    · simp [lookup, here]
    · simp [lookup, here, Ne.symm here, ih]

end Dict

end SlideDeck
