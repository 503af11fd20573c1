import Mathlib.Data.List.Induction
import Mathlib.Tactic.Common
import SlideDeck.Directive.Basic

/-!
# The writes of a page

Every assignment on a page amounts to a list of writes, each with its scope decided. The two scopes
of a page are separate folds over the writes that reach them (`changes_foldl_write`), and a look-up
in what a scope holds is a fold over the values written to that key (`get?_foldl_record`).
-/

namespace SlideDeck

/-- One assignment with its scope decided. -/
structure Write where
  /-- How far the assignment reaches. -/
  scope : Scope
  /-- The bare key. -/
  key : String
  /-- The assigned value. -/
  value : Value
deriving DecidableEq, Repr

namespace Write

/-- The write of an assignment in a given scope; a page-only key stays on its page. -/
def ofScope (scope : Scope) (key : String) (value : Value) : Write :=
  { scope := if key ∈ pageOnlyKeys then .page else scope, key, value }

/-- The write of an assignment whose scope stands in front of its key: an underscore before more
text means this page only. -/
def ofKey (key : String) (value : Value) : Write :=
  match key.toList with
  | '_' :: c :: rest => ofScope .page (String.ofList (c :: rest)) value
  | _ => ofScope .deck key value

theorem ofKey_eq (key : String) (value : Value) :
    ofKey key value =
      ofScope (PageDirectives.scopeOf key).1 (PageDirectives.scopeOf key).2 value := by
  unfold ofKey PageDirectives.scopeOf
  generalize key.toList = chars
  cases chars with
  | nil => rfl
  | cons first tail =>
      by_cases underscore : first = '_'
      · subst underscore
        cases tail <;> rfl
      · simp [underscore]

theorem ofKey_underscore {key : String} (key_ne : key ≠ "") (value : Value) :
    ofKey ("_" ++ key) value = ofScope .page key value := by
  have shape : ("_" ++ key).toList = '_' :: key.toList := by simp
  obtain ⟨c, rest, chars⟩ := List.exists_cons_of_ne_nil (mt String.toList_eq_nil_iff.mp key_ne)
  have back : String.ofList (c :: rest) = key := by rw [← chars, String.ofList_toList]
  simp only [ofKey, shape, chars, back]

/-- A page-only key is written for its page. -/
def Settled (w : Write) : Prop := w.key ∈ pageOnlyKeys → w.scope = .page

theorem ofScope_settled (scope : Scope) (key : String) (value : Value) :
    (ofScope scope key value).Settled :=
  fun only => if_pos only

theorem ofKey_settled (key : String) (value : Value) : (ofKey key value).Settled := by
  rw [ofKey_eq]
  exact ofScope_settled _ _ value

/-- The values written to a key in a scope, in order. -/
def values (scope : Scope) (key : String) (writes : List Write) : List Value :=
  (writes.filter fun w => w.scope = scope ∧ w.key = key).map Write.value

end Write

/-- One way of assigning directives on a page. -/
inductive PageStep where
  /-- A value for a key whose scope stands in front of it. -/
  | assign (key : String) (value : Value)
  /-- A value for a key in a given scope. -/
  | assignIn (scope : Scope) (key : String) (value : Value)
  /-- All that an annotation says. -/
  | apply (bag : Bag)

namespace PageStep

/-- Carry out one step. -/
def run (p : PageDirectives) : PageStep → PageDirectives
  | assign key value => p.assign key value
  | assignIn scope key value => p.assignIn scope key value
  | apply bag => p.apply bag

/-- The writes of one step in order: an annotation writes its entries, then its shorthand classes
and ids as one text each. -/
def writes : PageStep → List Write
  | assign key value => [.ofKey key value]
  | assignIn scope key value => [.ofScope scope key value]
  | apply bag =>
    bag.attrs.entries.map (fun e => .ofKey e.1 e.2)
      ++ (if bag.classes.isEmpty then []
        else [.ofKey "class" (.text (" ".intercalate bag.classes))])
      ++ if bag.ids.isEmpty then [] else [.ofKey "id" (.text (" ".intercalate bag.ids))]

end PageStep

/-- The value that an assignment leaves at its key. -/
def Assignment.value? : Assignment → Option Value
  | set value => some value
  | unset => none

namespace PageDirectives

/-- Carry out one write. -/
def write (p : PageDirectives) (w : Write) : PageDirectives := p.assignIn w.scope w.key w.value

/-- The assignments that a scope holds. -/
def changes (p : PageDirectives) : Scope → Dict String Assignment
  | .deck => p.deck
  | .page => p.page

/-- What a value makes of the assignment that its scope held before. -/
def outcome (key : String) (previous : Option Assignment) (value : Value) : Assignment :=
  if value = .text unsetText then .unset else combine previous key value

/-- The assignments of a scope after one more write to it. -/
def record (held : Dict String Assignment) (w : Write) : Dict String Assignment :=
  held.insert w.key (outcome w.key (held.get? w.key) w.value)

theorem assignIn_eq_write (p : PageDirectives) (scope : Scope) (key : String) (value : Value) :
    p.assignIn scope key value = p.write (.ofScope scope key value) := by
  by_cases only : key ∈ pageOnlyKeys <;> simp [write, Write.ofScope, assignIn, only]

theorem assign_eq_write (p : PageDirectives) (key : String) (value : Value) :
    p.assign key value = p.write (.ofKey key value) := by
  rw [Write.ofKey_eq]
  exact assignIn_eq_write p _ _ value

/-- A step is the fold of its writes. -/
theorem run_eq_foldl_write (p : PageDirectives) (step : PageStep) :
    step.run p = step.writes.foldl write p := by
  cases step with
  | assign key value => exact assign_eq_write p key value
  | assignIn scope key value => exact assignIn_eq_write p scope key value
  | apply bag =>
      simp only [PageStep.run, PageStep.writes, apply, List.foldl_append, List.foldl_map,
        assign_eq_write]
      split_ifs <;> rfl

/-- A sequence of steps is the fold of all their writes. -/
theorem foldl_run_eq (p : PageDirectives) (steps : List PageStep) :
    steps.foldl (fun p step => step.run p) p = (steps.flatMap PageStep.writes).foldl write p := by
  induction steps generalizing p with
  | nil => rfl
  | cons step steps ih =>
      simp only [List.foldl_cons, List.flatMap_cons, List.foldl_append]
      rw [run_eq_foldl_write, ih]

/-- What a write with a settled scope does to each part of the state. -/
theorem write_eq (p : PageDirectives) {w : Write}
    (settled : w.Settled) :
    p.write w =
      { baseline := p.baseline
        deck := if w.scope = .deck then record p.deck w else p.deck
        page := if w.scope = .page then record p.page w else p.page
        classes := if w.key = "class" then nextClasses p.classes w.value else p.classes } := by
  obtain ⟨scope, key, value⟩ := w
  have kept : (if key ∈ pageOnlyKeys then Scope.page else scope) = scope := by
    split_ifs with only
    · exact (settled only).symm
    · rfl
  simp only [write, assignIn, kept]
  cases scope <;> by_cases unset : value = .text unsetText <;>
    by_cases named : key = "class" <;> simp [record, outcome, unset, named]

/-- A write changes what its own scope holds and nothing that the other one holds. -/
theorem changes_write (p : PageDirectives) {w : Write}
    (settled : w.Settled) (scope : Scope) :
    (p.write w).changes scope =
      if w.scope = scope then record (p.changes scope) w else p.changes scope := by
  rw [write_eq p settled]
  cases scope <;> rfl

/-- The writes of a step have settled scopes. -/
theorem settled_of_mem_writes {step : PageStep} {w : Write} (member : w ∈ step.writes) :
    w.Settled := by
  cases step with
  | assign key value => exact List.mem_singleton.mp member ▸ Write.ofKey_settled key value
  | assignIn scope key value =>
      exact List.mem_singleton.mp member ▸ Write.ofScope_settled scope key value
  | apply bag =>
      simp only [PageStep.writes, List.mem_append, List.mem_map] at member
      rcases member with (⟨e, -, rfl⟩ | member) | member
      · exact Write.ofKey_settled _ _
      · split_ifs at member
        · simp at member
        · exact List.mem_singleton.mp member ▸ Write.ofKey_settled _ _
      · split_ifs at member
        · simp at member
        · exact List.mem_singleton.mp member ▸ Write.ofKey_settled _ _

theorem settled_of_mem_flatMap (steps : List PageStep) :
    ∀ w ∈ steps.flatMap PageStep.writes, w.Settled := by
  intro w member
  obtain ⟨step, -, member⟩ := List.mem_flatMap.mp member
  exact settled_of_mem_writes member

/-- What a scope holds after a run is the fold of the writes that reach it, whatever was written to
the other scope in between. -/
theorem changes_foldl_write (p : PageDirectives) (scope : Scope) {writes : List Write}
    (settled : ∀ w ∈ writes, w.Settled) :
    (writes.foldl write p).changes scope =
      (writes.filter fun w => w.scope = scope).foldl record (p.changes scope) := by
  induction writes generalizing p with
  | nil => rfl
  | cons w writes ih =>
      have rest : ∀ v ∈ writes, v.Settled :=
        fun v member => settled v (List.mem_cons_of_mem w member)
      rw [List.foldl_cons, ih (p.write w) rest, changes_write p (settled w List.mem_cons_self)]
      by_cases reaches : w.scope = scope <;> simp [reaches]

theorem baseline_foldl_write (p : PageDirectives) {writes : List Write}
    (settled : ∀ w ∈ writes, w.Settled) :
    (writes.foldl write p).baseline = p.baseline := by
  induction writes generalizing p with
  | nil => rfl
  | cons w writes ih =>
      have rest : ∀ v ∈ writes, v.Settled :=
        fun v member => settled v (List.mem_cons_of_mem w member)
      rw [List.foldl_cons, ih (p.write w) rest, write_eq p (settled w List.mem_cons_self)]

theorem ordered_foldl_record {held : Dict String Assignment} (ordered : held.Ordered)
    (writes : List Write) : (writes.foldl record held).Ordered := by
  induction writes generalizing held with
  | nil => exact ordered
  | cons w writes ih => exact ih (ordered.insert w.key _)

/-- A look-up after writes to one scope is the fold of the values written to that key. -/
theorem get?_foldl_record (held : Dict String Assignment) (key : String) (writes : List Write) :
    (writes.foldl record held).get? key =
      ((writes.filter fun w => w.key = key).map Write.value).foldl
        (fun previous value => some (outcome key previous value)) (held.get? key) := by
  induction writes generalizing held with
  | nil => rfl
  | cons w writes ih =>
      rw [List.foldl_cons, ih]
      by_cases same : w.key = key
      · subst same
        simp [record, Dict.get?_insert]
      · simp [record, Dict.get?_insert, same]

theorem get?_perform (d : DirectiveMap) (key other : String) (change : Assignment) :
    (perform d (key, change)).get? other =
      if key = other then change.value? else d.get? other := by
  cases change with
  | set value => exact Dict.get?_insert d key other value
  | unset => exact Dict.get?_erase d key other

/-- Carrying out the assignments of an ordered dictionary leaves at each key what its own
assignment says, and the old value where there is none. -/
theorem get?_performAll (d : DirectiveMap) {held : Dict String Assignment}
    (ordered : held.Ordered) (key : String) :
    (performAll d held).get? key = (held.get? key).elim (d.get? key) Assignment.value? := by
  obtain ⟨entries⟩ := held
  simp only [performAll, Dict.Ordered] at ordered ⊢
  induction entries generalizing d with
  | nil => rfl
  | cons first rest ih =>
      obtain ⟨k, change⟩ := first
      obtain ⟨below, ordered⟩ := List.pairwise_cons.mp ordered
      rw [List.foldl_cons, ih _ ordered, get?_perform]
      by_cases same : k = key
      · subst same
        -- the keys behind are larger, so nothing later in the fold touches this one
        have absent : Dict.lookup k rest = none :=
          Dict.lookup_eq_none fun e member equal => Std.Irrefl.irrefl k (equal ▸ below e member)
        simp [Dict.get?, Dict.lookup, absent]
      · simp [Dict.get?, Dict.lookup, same]

/-- The deck and page scope of a page that made the given writes hold the fold of exactly the
values written to each key. -/
theorem get?_changes_start (baseline : DirectiveMap) (scope : Scope) (key : String)
    {writes : List Write} (settled : ∀ w ∈ writes, w.Settled) :
    ((writes.foldl write (start baseline)).changes scope).get? key =
      (Write.values scope key writes).foldl
        (fun previous value => some (outcome key previous value)) none := by
  have fresh : ((start baseline).changes scope).get? key = none := by cases scope <;> rfl
  rw [changes_foldl_write _ scope settled, get?_foldl_record, fresh, List.filter_filter]
  congr 3
  funext w
  simp [and_comm]

theorem ordered_changes_start (baseline : DirectiveMap) (scope : Scope) {writes : List Write}
    (settled : ∀ w ∈ writes, w.Settled) :
    ((writes.foldl write (start baseline)).changes scope).Ordered := by
  rw [changes_foldl_write _ scope settled]
  apply ordered_foldl_record
  cases scope <;> exact Dict.ordered_empty

end PageDirectives

end SlideDeck
