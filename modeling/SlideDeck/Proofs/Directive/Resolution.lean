import SlideDeck.Proofs.Directive.Inheritance

/-!
# Resolution of directives on a page

The directives of a page lie in layers: the baseline, what the page assigned for the whole deck, and
what it assigned for itself. A look-up takes the innermost layer that knows the key
(`resolved_by_scope`). The class is kept once more, as the texts of both scopes in source order, and
the layers answer for it only while these texts are none (`resolved_class_by_order`).
-/

namespace SlideDeck

namespace PageDirectives

/-- The values that a page assigns to a key for itself only. -/
def pageValues (key : String) (steps : List PageStep) : List Value :=
  Write.values .page key (steps.flatMap PageStep.writes)

/-- The values that a page assigns to its class in source order, whatever their scope. -/
def classValues (steps : List PageStep) : List Value :=
  ((steps.flatMap PageStep.writes).filter fun w => w.key = "class").map Write.value

/-! ## The class texts of a page -/

theorem classes_foldl_write (p : PageDirectives) {writes : List Write}
    (settled : ∀ w ∈ writes, w.Settled) :
    (writes.foldl write p).classes =
      ((writes.filter fun w => w.key = "class").map Write.value).foldl nextClasses p.classes := by
  induction writes generalizing p with
  | nil => rfl
  | cons w writes ih =>
      obtain ⟨here, rest⟩ := List.forall_mem_cons.mp settled
      rw [List.foldl_cons, ih (p.write w) rest, write_eq p here]
      by_cases named : w.key = "class" <;> simp [named]

/-- The texts that are kept are those behind the last flag or unset text. -/
theorem foldl_nextClasses (values : List Value) :
    values.foldl nextClasses [] = classTexts values := by
  induction values using List.reverseRecOn with
  | nil => rfl
  | append_singleton values value ih =>
      rw [List.foldl_append, ih, classTexts_append_singleton]
      cases value with
      | flag b => rfl
      | text s =>
          by_cases unset : s = "-" <;>
            simp [nextClasses, unsetText, addsClass, Value.text?, unset]

theorem classes_ofSteps (baseline : DirectiveMap) (steps : List PageStep) :
    (ofSteps baseline steps).classes = classTexts (classValues steps) := by
  rw [ofSteps_eq, classes_foldl_write _ (settled_of_mem_flatMap steps)]
  exact foldl_nextClasses _

/-! ## The layers -/

theorem get?_resolved_ofSteps (baseline : DirectiveMap) (steps : List PageStep) (key : String) :
    (ofSteps baseline steps).resolved.get? key =
      if key = "class" ∧ classTexts (classValues steps) ≠ [] then
        some (.text (" ".intercalate (classTexts (classValues steps))))
      else
        laidOver key (laidOver key (baseline.get? key) (deckValues key steps))
          (pageValues key steps) := by
  have deck_layer := get?_performAll_changes baseline steps .deck baseline key
  have page_layer := get?_performAll_changes baseline steps .page
    (performAll baseline (ofSteps baseline steps).deck) key
  simp only [changes] at deck_layer page_layer
  simp only [resolved, baseline_ofSteps, classes_ofSteps, List.isEmpty_iff]
  by_cases silent : classTexts (classValues steps) = []
  · simp only [silent, if_true, ne_eq, not_true_eq_false, and_false, if_false, page_layer,
      deck_layer]
    rfl
  · by_cases named : key = "class"
    · simp [silent, named, Dict.get?_insert]
    · simp only [silent, if_false, Dict.get?_insert, Ne.symm named, named, false_and, page_layer,
        deck_layer]
      rfl

/-- An ordinary key has the last value assigned for the page, else the last one assigned for the
deck, else that of the baseline. -/
theorem get?_resolved_of_ne_class (baseline : DirectiveMap) (steps : List PageStep) {key : String}
    (key_ne : key ≠ "class") :
    (ofSteps baseline steps).resolved.get? key =
      leftBy (leftBy (baseline.get? key) (deckValues key steps)) (pageValues key steps) := by
  rw [get?_resolved_ofSteps, if_neg fun named => key_ne named.1, laidOver_of_ne_class key_ne,
    laidOver_of_ne_class key_ne]

/-- The values of either scope are among those of both. -/
theorem mem_classValues {scope : Scope} {steps : List PageStep} {value : Value}
    (member : value ∈ Write.values scope "class" (steps.flatMap PageStep.writes)) :
    value ∈ classValues steps := by
  obtain ⟨w, held, rfl⟩ := List.mem_map.mp member
  obtain ⟨written, placed⟩ := List.mem_filter.mp held
  have named : w.key = "class" := (of_decide_eq_true placed).2
  exact List.mem_map_of_mem (List.mem_filter.mpr ⟨written, decide_eq_true named⟩)

/-- The class of non-empty values: all texts behind the last flag or unset text of the page, or what
the layers hold if there is none. -/
theorem get?_resolved_class (baseline : DirectiveMap) {steps : List PageStep}
    (nonempty : .text "" ∉ classValues steps) :
    (ofSteps baseline steps).resolved.get? "class" =
      if classTexts (classValues steps) ≠ [] then
        some (.text (" ".intercalate (classTexts (classValues steps))))
      else if pageValues "class" steps ≠ [] then classLeftBy (pageValues "class" steps)
      else if deckValues "class" steps ≠ [] then classLeftBy (deckValues "class" steps)
      else baseline.get? "class" := by
  have page_nonempty : .text "" ∉ pageValues "class" steps := mt mem_classValues nonempty
  have deck_nonempty : .text "" ∉ deckValues "class" steps := mt mem_classValues nonempty
  rw [get?_resolved_ofSteps, laidOver_class page_nonempty, laidOver_class deck_nonempty]
  simp only [true_and, ne_eq, ite_not]

/-! ## A page without assignments of its own -/

theorem classLeftBy_of_classTexts {values : List Value} (texts_ne : classTexts values ≠ []) :
    classLeftBy values = some (.text (" ".intercalate (classTexts values))) := by
  rcases values.eq_nil_or_concat' with rfl | ⟨front, last, rfl⟩
  · exact absurd rfl texts_ne
  · have adds : addsClass last := by
      by_contra resets
      simp [classTexts_append_singleton, resets] at texts_ne
    simp only [classLeftBy, List.getLast?_concat, adds, if_true]

theorem classValues_eq_deckValues {steps : List PageStep} (silent : pageValues "class" steps = []) :
    classValues steps = deckValues "class" steps := by
  refine congrArg (List.map Write.value) (List.filter_congr fun w written => ?_)
  have not_page : w.key = "class" → w.scope ≠ .page := by
    intro named own
    have member : w.value ∈ pageValues "class" steps :=
      List.mem_map_of_mem (List.mem_filter.mpr ⟨written, decide_eq_true ⟨own, named⟩⟩)
    exact List.not_mem_nil (silent ▸ member)
  by_cases named : w.key = "class"
  · cases scope : w.scope with
    | deck => simp [named]
    | page => exact absurd scope (not_page named)
  · simp [named]

theorem get?_next_eq_resolved (baseline : DirectiveMap) {steps : List PageStep}
    (nonempty : .text "" ∉ classValues steps) {key : String} (key_carries : key ∉ pageOnlyKeys)
    (silent : pageValues key steps = []) :
    (ofSteps baseline steps).next.get? key = (ofSteps baseline steps).resolved.get? key := by
  by_cases named : key = "class"
  · subst named
    have same := classValues_eq_deckValues silent
    rw [get?_next_class baseline (same ▸ nonempty), get?_resolved_class baseline nonempty, same,
      silent]
    by_cases texts : classTexts (deckValues "class" steps) = []
    · simp [texts]
    · have values_ne : deckValues "class" steps ≠ [] := by
        intro none_assigned
        rw [none_assigned] at texts
        exact texts rfl
      rw [if_neg values_ne, if_pos texts, classLeftBy_of_classTexts texts]
  · rw [get?_next_of_ne_class baseline steps named key_carries,
      get?_resolved_of_ne_class baseline steps named, silent]
    rfl

/-- A page-only key is never assigned for the deck. -/
theorem deckValues_of_pageOnly {key : String} (only : key ∈ pageOnlyKeys) (steps : List PageStep) :
    deckValues key steps = [] := by
  rw [deckValues, Write.values, List.map_eq_nil_iff, List.filter_eq_nil_iff]
  intro w written reaches
  obtain ⟨deck, rfl⟩ : w.scope = .deck ∧ w.key = key := of_decide_eq_true reaches
  rw [settled_of_mem_flatMap steps w written only] at deck
  cases deck

/-- The directives of a page, key by key. A key other than the class has the last value that the
page assigned for itself, else the last that it assigned for the deck, else that of the baseline;
`note` and `splitSize` are never assigned for the deck. A page that assigns nothing else for itself
alone hands its directives on as they are, the class included. -/
theorem resolved_by_scope (baseline : DirectiveMap) (steps : List PageStep) :
    (∀ key, key ≠ "class" →
      (ofSteps baseline steps).resolved.get? key =
        leftBy (leftBy (baseline.get? key) (deckValues key steps)) (pageValues key steps)) ∧
    deckValues "note" steps = [] ∧ deckValues "splitSize" steps = [] ∧
    (.text "" ∉ classValues steps →
      (∀ key, key ≠ "note" → key ≠ "splitSize" → pageValues key steps = []) →
      ∀ key, key ≠ "note" → key ≠ "splitSize" →
        (ofSteps baseline steps).next.get? key = (ofSteps baseline steps).resolved.get? key) := by
  refine ⟨fun key => get?_resolved_of_ne_class baseline steps,
    deckValues_of_pageOnly (by simp [pageOnlyKeys]) steps,
    deckValues_of_pageOnly (by simp [pageOnlyKeys]) steps, ?_⟩
  intro nonempty silent key note_ne size_ne
  have carries : key ∉ pageOnlyKeys := by simp [pageOnlyKeys, note_ne, size_ne]
  exact get?_next_eq_resolved baseline nonempty carries (silent key note_ne size_ne)

/-- A page with a note and a class of two texts takes its colour off for all pages. -/
theorem resolved_by_scope_notedPage :
    let baseline : DirectiveMap := Dict.ofList [("class", .text "plain"), ("color", .text "blue")]
    let steps : List PageStep :=
      [.assign "class" (.text "a"), .assign "note" (.text "slow"), .assign "color" (.text "-"),
        .apply { classes := ["b"] }]
    "color" ≠ "class" ∧ .text "" ∉ classValues steps ∧
      (∀ key, key ≠ "note" → key ≠ "splitSize" → pageValues key steps = []) ∧
      "class" ≠ "note" ∧ "class" ≠ "splitSize" ∧
      (ofSteps baseline steps).resolved.get? "color" = none ∧
      (ofSteps baseline steps).resolved.get? "note" = some (.text "slow") ∧
      (ofSteps baseline steps).next.get? "class" = some (.text "a b") := by
  intro baseline steps
  have nonempty : .text "" ∉ classValues steps := by decide
  have silent : ∀ key, key ≠ "note" → key ≠ "splitSize" → pageValues key steps = [] := by
    intro key note_ne size_ne
    have written : (steps.flatMap PageStep.writes).filter (fun w => w.scope = .page) =
        [{ scope := .page, key := "note", value := .text "slow" }] := by decide
    rw [pageValues, Write.values, List.map_eq_nil_iff, List.filter_eq_nil_iff]
    intro w member reaches
    obtain ⟨own, rfl⟩ : w.scope = .page ∧ w.key = key := of_decide_eq_true reaches
    have noted : w ∈ (steps.flatMap PageStep.writes).filter fun w => w.scope = .page :=
      List.mem_filter.mpr ⟨member, decide_eq_true own⟩
    rw [written, List.mem_singleton] at noted
    exact note_ne (noted ▸ rfl)
  obtain ⟨ordinary, -, -, handed_on⟩ := resolved_by_scope baseline steps
  refine ⟨by decide, nonempty, silent, by decide, by decide, ?_, ?_, ?_⟩
  · rw [ordinary "color" (by decide)]
    decide
  · rw [ordinary "note" (by decide)]
    decide
  · rw [handed_on nonempty silent "class" (by decide) (by decide)]
    decide

/-! ## The class as a fold of both scopes -/

/-- Texts behind an unset text, or behind nothing, are the class texts. -/
theorem classTexts_append_texts {earlier : List Value}
    (resets : ∀ last ∈ earlier.getLast?, last = .text "-") {added : List String}
    (kept : "-" ∉ added) : classTexts (earlier ++ added.map .text) = added := by
  induction added using List.reverseRecOn with
  | nil =>
      rcases earlier.eq_nil_or_concat' with rfl | ⟨front, last, rfl⟩
      · rfl
      · obtain rfl := resets last (by simp)
        simp [classTexts_append_singleton, addsClass]
  | append_singleton added s ih =>
      have s_ne : s ≠ "-" := fun same => kept (same ▸ List.mem_append_right _ List.mem_cons_self)
      rw [List.map_append, List.map_singleton, ← List.append_assoc, classTexts_append_singleton,
        ih fun member => kept (List.mem_append_left _ member)]
      simp [addsClass, s_ne, Value.text?]

theorem classLeftBy_eq_none_iff {values : List Value}
    (texts : ∀ value ∈ values, ∃ s, value = .text s) :
    classLeftBy values = none ↔ ∀ last ∈ values.getLast?, last = .text "-" := by
  rcases values.eq_nil_or_concat' with rfl | ⟨front, last, rfl⟩
  · simp [classLeftBy]
  · obtain ⟨s, rfl⟩ := texts last (by simp)
    by_cases unset : s = "-" <;> simp [classLeftBy, leftBy, addsClass, unset]

/-- The class of a page whose class values are non-empty texts. Without any it is that of the
baseline. Texts behind the last unset text are joined, whatever their scopes. When an unset text
comes last, the class is what the values of the page's own scope alone leave, so it is absent just if
that scope was not assigned a text later than it was unset. -/
theorem resolved_class_by_order (baseline : DirectiveMap) (steps : List PageStep)
    (texts : ∀ value ∈ classValues steps, ∃ s, value = .text s ∧ s ≠ "") :
    (classValues steps = [] →
      (ofSteps baseline steps).resolved.get? "class" = baseline.get? "class") ∧
    (∀ earlier added, classValues steps = earlier ++ added.map .text → added ≠ [] → "-" ∉ added →
      (∀ last ∈ earlier.getLast?, last = .text "-") →
      (ofSteps baseline steps).resolved.get? "class" = some (.text (" ".intercalate added))) ∧
    ((classValues steps).getLast? = some (.text "-") →
      (ofSteps baseline steps).resolved.get? "class" = classLeftBy (pageValues "class" steps) ∧
      ((ofSteps baseline steps).resolved.get? "class" = none ↔
        ∀ last ∈ (pageValues "class" steps).getLast?, last = .text "-")) := by
  have nonempty : .text "" ∉ classValues steps := by
    intro member
    obtain ⟨s, same, s_ne⟩ := texts _ member
    exact s_ne (Value.text.inj same).symm
  have resolved_eq := get?_resolved_class baseline nonempty
  refine ⟨?_, ?_, ?_⟩
  · intro silent
    have none_of : ∀ scope, Write.values scope "class" (steps.flatMap PageStep.writes) = [] :=
      fun scope => List.eq_nil_iff_forall_not_mem.mpr fun value member =>
        List.not_mem_nil (silent ▸ mem_classValues member)
    have page_none : pageValues "class" steps = [] := none_of .page
    have deck_none : deckValues "class" steps = [] := none_of .deck
    rw [resolved_eq, silent, page_none, deck_none]
    rfl
  · intro earlier added values added_ne kept resets
    rw [resolved_eq, values, classTexts_append_texts resets kept, if_pos added_ne]
  · intro last
    have texts_none : classTexts (classValues steps) = [] := by
      have cleared : classTexts (classValues steps ++ ([] : List String).map .text) = [] :=
        classTexts_append_texts (by simp [last]) List.not_mem_nil
      simpa using cleared
    have left : (ofSteps baseline steps).resolved.get? "class" =
        classLeftBy (pageValues "class" steps) := by
      rw [resolved_eq, texts_none]
      by_cases own : pageValues "class" steps = []
      · -- then the deck holds all class values, and the last of them is the unset text
        rw [← classValues_eq_deckValues own]
        have values_ne : classValues steps ≠ [] := by
          rintro none_assigned
          simp [none_assigned] at last
        simp [own, values_ne, classLeftBy, last, addsClass, leftBy]
      · simp [own]
    have own_texts : ∀ value ∈ pageValues "class" steps, ∃ s, value = .text s :=
      fun value member => (texts value (mem_classValues member)).imp fun _ => And.left
    exact ⟨left, left ▸ classLeftBy_eq_none_iff own_texts⟩

/-- A class of the page alone is unset, and texts of both scopes follow. -/
theorem resolved_class_by_order_mixed :
    let steps : List PageStep :=
      [.assign "_class" (.text "a"), .assign "class" (.text "-"), .assign "class" (.text "b"),
        .apply { attrs := ⟨[("_class", .text "c")]⟩ }]
    (∀ value ∈ classValues steps, ∃ s, value = .text s ∧ s ≠ "") ∧
      (ofSteps Dict.empty steps).resolved.get? "class" = some (.text "b c") := by
  intro steps
  have values : classValues steps = [.text "a", .text "-"] ++ ["b", "c"].map .text := by decide
  have texts : ∀ value ∈ classValues steps, ∃ s, value = .text s ∧ s ≠ "" := by simp [values]
  obtain ⟨-, joined, -⟩ := resolved_class_by_order Dict.empty steps texts
  refine ⟨texts, ?_⟩
  rw [joined [.text "a", .text "-"] ["b", "c"] values (by decide) (by decide) (by simp)]
  decide

/-- The last class assignment unsets the class for the deck, and the text that the page assigned for
itself before shows again. -/
theorem resolved_class_unset_for_deck :
    let steps : List PageStep := [.assign "_class" (.text "a"), .assign "class" (.text "-")]
    (classValues steps).getLast? = some (.text "-") ∧
      (ofSteps Dict.empty steps).resolved.get? "class" = some (.text "a") := by
  decide

end PageDirectives

end SlideDeck
