import Mathlib.Data.List.Basic
import SlideDeck.Proofs.Directive.Write
import SlideDeck.Proofs.Text.Word

/-!
# Inheritance of directives

Pages are folded from the left: each page starts from the baseline that the page before it left.
`baselineAfter_eq_deck_values` says what it holds after any number of pages in terms of the values
assigned for the whole deck. What a page assigns for itself alone never gets out of it.
-/

namespace SlideDeck

namespace PageDirectives

/-- The directives of a page that carried out steps. -/
def ofSteps (baseline : DirectiveMap) (steps : List PageStep) : PageDirectives :=
  steps.foldl PageStep.run (start baseline)

/-- The baseline that pages leave to the page behind them. -/
def baselineAfter (initial : DirectiveMap) (pages : List (List PageStep)) : DirectiveMap :=
  pages.foldl (fun baseline steps => (ofSteps baseline steps).next) initial

/-- The writes of a page that reach the whole deck. -/
def deckWrites (steps : List PageStep) : List Write :=
  (steps.flatMap PageStep.writes).filter fun w => w.scope = .deck

/-- The values that a page assigns to a key for the whole deck. -/
def deckValues (key : String) (steps : List PageStep) : List Value :=
  Write.values .deck key (steps.flatMap PageStep.writes)

/-- What values assigned in order leave at a key that held `before`: the last of them, or nothing
if that is the unset text. -/
def leftBy (before : Option Value) (values : List Value) : Option Value :=
  match values.getLast? with
  | none => before
  | some last => if last = .text "-" then none else some last

/-- True of a text that adds to the class. -/
def addsClass : Value → Bool
  | .text s => s ≠ "-"
  | .flag _ => false

/-- The class texts behind the last flag or unset text. -/
def classTexts (values : List Value) : List String :=
  (values.reverse.takeWhile addsClass).reverse.filterMap Value.text?

/-- What the class values of one page leave: the joined texts behind the last flag or unset text,
or that flag or nothing if it comes last. -/
def classLeftBy (values : List Value) : Option Value :=
  match values.getLast? with
  | none => none
  | some last =>
    if addsClass last then some (.text (" ".intercalate (classTexts values)))
    else leftBy none values

/-- The class that the last page with a class for the whole deck leaves. -/
def inheritedClass (initial : DirectiveMap) (pages : List (List PageStep)) : Option Value :=
  match ((pages.map (deckValues "class")).filter (· ≠ [])).getLast? with
  | none => initial.get? "class"
  | some values => classLeftBy values

/-! ## One scope of one page -/

/-- The assignment that a scope holds for a key after values were assigned to it. -/
def outcomeOf (key : String) (values : List Value) : Option Assignment :=
  values.foldl (fun previous value => some (outcome key previous value)) none

theorem outcomeOf_append_singleton (key : String) (values : List Value) (value : Value) :
    outcomeOf key (values ++ [value]) = some (outcome key (outcomeOf key values) value) := by
  simp [outcomeOf]

theorem combine_of_ne_class {key : String} (key_ne : key ≠ "class") (previous : Option Assignment)
    (value : Value) : combine previous key value = .set value := by
  unfold combine
  split
  · simp [key_ne]
  · rfl

/-- A class text is appended to a non-empty class text. -/
theorem combine_class_append {old : String} (old_ne : old ≠ "") (new : String) :
    combine (some (.set (.text old))) "class" (.text new) =
      .set (.text (old ++ " " ++ new)) := by
  simp [combine, old_ne]

/-- A key other than the class keeps no trace of earlier values. -/
theorem outcomeOf_of_ne_class {key : String} (key_ne : key ≠ "class") (values : List Value) :
    outcomeOf key values =
      values.getLast?.map fun last => if last = .text "-" then .unset else .set last := by
  induction values using List.reverseRecOn with
  | nil => rfl
  | append_singleton values value _ =>
      rw [outcomeOf_append_singleton, List.getLast?_concat, Option.map_some]
      simp only [outcome, unsetText, combine_of_ne_class key_ne]

theorem classTexts_append_singleton (values : List Value) (value : Value) :
    classTexts (values ++ [value]) =
      if addsClass value then classTexts values ++ value.text?.toList else [] := by
  by_cases adds : addsClass value
  · cases value <;> simp [classTexts, adds, Value.text?]
  · simp [classTexts, adds]

/-- The class texts of non-empty values are non-empty. -/
theorem ne_empty_of_mem_classTexts {values : List Value} (nonempty : .text "" ∉ values)
    {s : String} (member : s ∈ classTexts values) : s ≠ "" := by
  rintro rfl
  obtain ⟨value, held, text⟩ := List.mem_filterMap.mp member
  have here : value ∈ values :=
    List.mem_reverse.mp ((List.takeWhile_sublist _).subset (List.mem_reverse.mp held))
  cases value with
  | text s => exact nonempty (Option.some.inj text ▸ here)
  | flag b => simp [Value.text?] at text

/-- A class text after non-empty class values: it is appended if the last of them adds to the class,
and starts afresh otherwise. -/
theorem combine_class_text {values : List Value} (nonempty : .text "" ∉ values) (new : String) :
    combine (values.getLast?.map fun last =>
        if addsClass last then .set (.text (" ".intercalate (classTexts values)))
        else if last = .text "-" then .unset else .set last) "class" (.text new) =
      .set (.text (" ".intercalate (classTexts values ++ [new]))) := by
  rcases values.eq_nil_or_concat' with rfl | ⟨front, last, rfl⟩
  · simp [classTexts, combine]
  · rw [List.getLast?_concat, Option.map_some]
    by_cases adds : addsClass last
    · have texts_ne : classTexts (front ++ [last]) ≠ [] := by
        cases last with
        | text s => simp [classTexts_append_singleton, adds, Value.text?]
        | flag b => simp [addsClass] at adds
      rw [if_pos adds, combine_class_append
        (Text.intercalate_ne_empty texts_ne fun s member =>
          ne_empty_of_mem_classTexts nonempty member),
        String.intercalate_append_of_ne_nil texts_ne (List.cons_ne_nil new []),
        String.intercalate_singleton]
    · have none_left : classTexts (front ++ [last]) = [] := by
        simp [classTexts_append_singleton, adds]
      rw [if_neg adds, none_left]
      cases last with
      | flag b => simp [combine]
      | text s =>
          have unset : s = "-" := by simpa [addsClass] using adds
          simp [combine, unset]

/-- Non-empty class values assigned in one scope add up behind the last flag or unset text. -/
theorem outcomeOf_class {values : List Value} (nonempty : .text "" ∉ values) :
    outcomeOf "class" values =
      values.getLast?.map fun last =>
        if addsClass last then .set (.text (" ".intercalate (classTexts values)))
        else if last = .text "-" then .unset else .set last := by
  induction values using List.reverseRecOn with
  | nil => rfl
  | append_singleton values value ih =>
      have earlier : .text "" ∉ values := fun member => nonempty (List.mem_append_left _ member)
      rw [outcomeOf_append_singleton, List.getLast?_concat, Option.map_some, ih earlier,
        classTexts_append_singleton]
      cases value with
      | flag b => simp [outcome, combine, addsClass]
      | text s =>
          by_cases unset : s = "-"
          · simp [outcome, addsClass, unset, unsetText]
          · have adds : addsClass (.text s) = true := by simp [addsClass, unset]
            simp only [adds, if_true, Value.text?, Option.toList_some, outcome, unsetText,
              Value.text.injEq, unset, if_false, Option.some.injEq]
            exact combine_class_text earlier s

/-- What the values of one scope make of the value that the layer below holds at their key. -/
def laidOver (key : String) (before : Option Value) (values : List Value) : Option Value :=
  (outcomeOf key values).elim before Assignment.value?

theorem laidOver_of_ne_class {key : String} (key_ne : key ≠ "class") (before : Option Value)
    (values : List Value) : laidOver key before values = leftBy before values := by
  rw [laidOver, outcomeOf_of_ne_class key_ne, leftBy]
  cases values.getLast? with
  | none => rfl
  | some last =>
      simp only [Option.map_some, Option.elim_some]
      split_ifs <;> rfl

theorem laidOver_class {values : List Value} (nonempty : .text "" ∉ values)
    (before : Option Value) :
    laidOver "class" before values = if values = [] then before else classLeftBy values := by
  rw [laidOver, outcomeOf_class nonempty]
  rcases values.eq_nil_or_concat' with rfl | ⟨front, last, rfl⟩
  · rfl
  · simp only [classLeftBy, leftBy, List.getLast?_concat, Option.map_some, Option.elim_some,
      List.append_eq_nil_iff, List.cons_ne_nil, and_false, if_false]
    split_ifs <;> rfl

/-! ## One page -/

theorem ofSteps_eq (baseline : DirectiveMap) (steps : List PageStep) :
    ofSteps baseline steps = (steps.flatMap PageStep.writes).foldl write (start baseline) :=
  foldl_run_eq _ steps

theorem next_ofSteps (baseline : DirectiveMap) (steps : List PageStep) :
    (ofSteps baseline steps).next =
      pageOnlyKeys.foldl (fun d key => d.erase key)
        (performAll baseline ((deckWrites steps).foldl record ⟨[]⟩)) := by
  have held := changes_foldl_write (start baseline) .deck (settled_of_mem_flatMap steps)
  have base := baseline_foldl_write (start baseline) (settled_of_mem_flatMap steps)
  rw [← ofSteps_eq] at held base
  exact congrArg₂ (fun d c => pageOnlyKeys.foldl (fun d key => d.erase key) (performAll d c))
    base held

theorem baseline_ofSteps (baseline : DirectiveMap) (steps : List PageStep) :
    (ofSteps baseline steps).baseline = baseline := by
  rw [ofSteps_eq]
  exact baseline_foldl_write (start baseline) (settled_of_mem_flatMap steps)

/-- Carrying out what a scope of a page holds lays the values of that scope over each key. -/
theorem get?_performAll_changes (baseline : DirectiveMap) (steps : List PageStep) (scope : Scope)
    (d : DirectiveMap) (key : String) :
    (performAll d ((ofSteps baseline steps).changes scope)).get? key =
      laidOver key (d.get? key) (Write.values scope key (steps.flatMap PageStep.writes)) := by
  have settled := settled_of_mem_flatMap steps
  rw [ofSteps_eq, get?_performAll d (ordered_changes_start baseline scope settled),
    get?_changes_start baseline scope key settled]
  rfl

/-- The next baseline at one key: what the values for the whole deck leave over the old baseline,
and nothing for a page-only key. -/
theorem get?_next_ofSteps (baseline : DirectiveMap) (steps : List PageStep) (key : String) :
    (ofSteps baseline steps).next.get? key =
      if key ∈ pageOnlyKeys then none
      else laidOver key (baseline.get? key) (deckValues key steps) := by
  have kept := get?_performAll_changes baseline steps .deck baseline key
  simp only [changes] at kept
  simp only [next, pageOnlyKeys, List.foldl_cons, List.foldl_nil, Dict.get?_erase,
    baseline_ofSteps, kept, List.mem_cons, List.not_mem_nil, or_false, deckValues]
  by_cases note : key = "note" <;> by_cases size : key = "splitSize" <;>
    simp [note, size, eq_comm]

theorem get?_next_of_ne_class (baseline : DirectiveMap) (steps : List PageStep) {key : String}
    (key_ne : key ≠ "class") (key_carries : key ∉ pageOnlyKeys) :
    (ofSteps baseline steps).next.get? key =
      leftBy (baseline.get? key) (deckValues key steps) := by
  rw [get?_next_ofSteps, if_neg key_carries, laidOver_of_ne_class key_ne]

theorem get?_next_class (baseline : DirectiveMap) {steps : List PageStep}
    (nonempty : .text "" ∉ deckValues "class" steps) :
    (ofSteps baseline steps).next.get? "class" =
      if deckValues "class" steps = [] then baseline.get? "class"
      else classLeftBy (deckValues "class" steps) := by
  rw [get?_next_ofSteps, if_neg (by simp [pageOnlyKeys]), laidOver_class nonempty]

/-! ## A run of pages -/

theorem baselineAfter_concat (initial : DirectiveMap) (pages : List (List PageStep))
    (steps : List PageStep) :
    baselineAfter initial (pages ++ [steps]) =
      (ofSteps (baselineAfter initial pages) steps).next := by
  simp [baselineAfter]

theorem leftBy_leftBy (before : Option Value) (left right : List Value) :
    leftBy (leftBy before left) right = leftBy before (left ++ right) := by
  rcases right.eq_nil_or_concat' with rfl | ⟨front, last, rfl⟩
  · simp [leftBy]
  · simp [leftBy, ← List.append_assoc]

/-- An ordinary key holds the last value assigned to it for the deck on any page so far. -/
theorem get?_baselineAfter_of_ne_class (initial : DirectiveMap) (pages : List (List PageStep))
    {key : String} (key_ne : key ≠ "class") (key_carries : key ∉ pageOnlyKeys) :
    (baselineAfter initial pages).get? key =
      leftBy (initial.get? key) (pages.flatMap (deckValues key)) := by
  induction pages using List.reverseRecOn with
  | nil => rfl
  | append_singleton pages steps ih =>
      rw [baselineAfter_concat, get?_next_of_ne_class _ _ key_ne key_carries, ih, leftBy_leftBy]
      simp

/-- The class is decided by the last page that assigns it for the deck. -/
theorem get?_baselineAfter_class (initial : DirectiveMap) {pages : List (List PageStep)}
    (nonempty : ∀ steps ∈ pages, .text "" ∉ deckValues "class" steps) :
    (baselineAfter initial pages).get? "class" = inheritedClass initial pages := by
  induction pages using List.reverseRecOn with
  | nil => rfl
  | append_singleton pages steps ih =>
      have earlier : ∀ page ∈ pages, .text "" ∉ deckValues "class" page :=
        fun page member => nonempty page (List.mem_append_left _ member)
      rw [baselineAfter_concat, get?_next_class _ (nonempty steps (by simp)), ih earlier]
      by_cases silent : deckValues "class" steps = [] <;> simp [inheritedClass, silent]

/-- The baseline is a function of the writes that reach the deck. -/
theorem baselineAfter_congr (initial : DirectiveMap) {pages others : List (List PageStep)}
    (same : others.map deckWrites = pages.map deckWrites) :
    baselineAfter initial others = baselineAfter initial pages := by
  induction pages generalizing initial others with
  | nil => rw [List.map_eq_nil_iff.mp same]
  | cons steps pages ih =>
      obtain ⟨other, rest, rfl, first, same⟩ := List.map_eq_cons_iff.mp same
      have next_eq : (ofSteps initial other).next = (ofSteps initial steps).next := by
        rw [next_ofSteps, next_ofSteps, first]
      simp only [baselineAfter, List.foldl_cons] at ih ⊢
      rw [next_eq]
      exact ih _ same

/-- Directives of one page alone never reach a later page: a step for a key behind an underscore can
be left out. -/
theorem deckWrites_underscore (before after : List PageStep) {key : String} (key_ne : key ≠ "")
    (value : Value) :
    deckWrites (before ++ .assign ("_" ++ key) value :: after) = deckWrites (before ++ after) := by
  have page_only : (Write.ofScope .page key value).scope = .page := by simp [Write.ofScope]
  simp [deckWrites, PageStep.writes, Write.ofKey_underscore key_ne, page_only]

/-- What the baseline behind any number of pages holds. An ordinary key holds the last value
assigned to it for the deck, the class is what the last page with a class for the deck left, and the
page-only keys are absent. The writes that reach the deck decide all of it, so an assignment behind
an underscore changes no later page. -/
theorem baselineAfter_eq_deck_values (initial : DirectiveMap) (pages : List (List PageStep))
    (pages_ne : pages ≠ []) :
    (∀ key, key ≠ "class" → key ≠ "note" → key ≠ "splitSize" →
      (baselineAfter initial pages).get? key =
        leftBy (initial.get? key) (pages.flatMap (deckValues key))) ∧
    ((∀ steps ∈ pages, .text "" ∉ deckValues "class" steps) →
      (baselineAfter initial pages).get? "class" = inheritedClass initial pages) ∧
    (baselineAfter initial pages).get? "note" = none ∧
    (baselineAfter initial pages).get? "splitSize" = none ∧
    (∀ others : List (List PageStep), others.map deckWrites = pages.map deckWrites →
      baselineAfter initial others = baselineAfter initial pages) ∧
    (∀ front back before after key value, key ≠ "" →
      pages = front ++ (before ++ .assign ("_" ++ key) value :: after) :: back →
      baselineAfter initial (front ++ (before ++ after) :: back) =
        baselineAfter initial pages) := by
  obtain ⟨earlier, last, rfl⟩ := pages.eq_nil_or_concat'.resolve_left pages_ne
  refine ⟨?_, get?_baselineAfter_class initial, ?_, ?_, fun _ => baselineAfter_congr initial, ?_⟩
  · intro key class_ne note_ne size_ne
    have free : key ∉ pageOnlyKeys := by simp [pageOnlyKeys, note_ne, size_ne]
    exact get?_baselineAfter_of_ne_class initial _ class_ne free
  · rw [baselineAfter_concat, get?_next_ofSteps, if_pos (by simp [pageOnlyKeys])]
  · rw [baselineAfter_concat, get?_next_ofSteps, if_pos (by simp [pageOnlyKeys])]
  · intro front back before after key value key_ne shape
    apply baselineAfter_congr
    simp [shape, deckWrites_underscore before after key_ne]

/-- Two pages: one overrides its colour for itself, the other adds up a class. -/
theorem baselineAfter_two_pages :
    let pages : List (List PageStep) :=
      [[.assign "color" (.text "blue"), .assign "_color" (.text "red"),
          .assign "class" (.text "a")],
        [.assignIn .deck "class" (.flag true), .apply { classes := ["lead"] },
          .assign "class" (.text "big"), .assign "note" (.text "slow")]]
    pages ≠ [] ∧ (∀ steps ∈ pages, .text "" ∉ deckValues "class" steps) ∧
      (baselineAfter Dict.empty pages).get? "color" = some (.text "blue") ∧
      (baselineAfter Dict.empty pages).get? "class" = some (.text "lead big") ∧
      (baselineAfter Dict.empty pages).get? "note" = none := by
  intro pages
  have pages_ne : pages ≠ [] := List.cons_ne_nil _ _
  have nonempty : ∀ steps ∈ pages, .text "" ∉ deckValues "class" steps := by decide
  obtain ⟨ordinary, class_eq, note, -⟩ := baselineAfter_eq_deck_values Dict.empty pages pages_ne
  refine ⟨pages_ne, nonempty, ?_, ?_, note⟩
  · rw [ordinary "color" (by decide) (by decide) (by decide)]
    decide
  · rw [class_eq nonempty]
    decide

end PageDirectives

end SlideDeck
