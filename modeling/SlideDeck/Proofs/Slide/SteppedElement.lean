import SlideDeck.Proofs.Attribute.Merge
import SlideDeck.Proofs.Slide.Steps

/-!
# The steps of one element

What registering an element with step keys does to its attributes, and which classes its entry has
at each step (`exists_registers`). A single key without a value is spelled out; otherwise the values
are the class lists, and the last key for a step decides it.
-/

namespace SlideDeck.Slide

/-- The keys that name step `n`, in order. -/
def namers (attrs : Attributes) (n : Nat) : List String := attrs.keys.filter (NamesStep · n)

/-- The text under a key; a key without a text counts as empty. -/
def textAt (attrs : Attributes) (key : String) : String := (attrs.getText? key).getD ""

/-- The only key that names a step has no value. -/
def IsBare (attrs : Attributes) (key : String) : Prop :=
  attrs.keys.filter (fun key => ∃ n, NamesStep key n) = [key] ∧
    ∃ value, attrs.get? key = some value ∧ value.isFlag = true

theorem mem_namers {attrs : Attributes} {n : Nat} {key : String} :
    key ∈ namers attrs n ↔ key ∈ attrs.keys ∧ NamesStep key n := by
  simp [namers]

/-- Setting a key that does not name the step. -/
theorem namers_insert {key : String} {n : Nat} (other : ¬NamesStep key n) (attrs : Attributes)
    (value : Value) : namers (attrs.insert key value) n = namers attrs n := by
  rw [namers, Attributes.keys_insert, namers]
  split_ifs
  · rfl
  · rw [List.filter_append, List.filter_cons_of_neg (by simpa using other), List.filter_nil,
      List.append_nil]

theorem namers_appendWords {key : String} {n : Nat} (other : ¬NamesStep key n) (attrs : Attributes)
    (words : String) : namers (attrs.appendWords key words) n = namers attrs n := by
  obtain same | ⟨s, set⟩ := attrs.appendWords_cases key words
  · rw [same]
  · rw [set, namers_insert other]

theorem textAt_insert (attrs : Attributes) (key other s : String) :
    textAt (attrs.insert key (.text s)) other = if key = other then s else textAt attrs other := by
  rw [textAt, Attributes.getText?, Attributes.get?_insert]
  split_ifs
  · rfl
  · rfl

theorem textAt_appendWords {key other : String} (ne : key ≠ other) (attrs : Attributes)
    (words : String) : textAt (attrs.appendWords key words) other = textAt attrs other := by
  have same := Attributes.get?_foldl_appendWords_of_ne ne [words] attrs
  rw [textAt, Attributes.getText?, textAt, Attributes.getText?]
  exact congrArg (fun value => (value.bind Value.text?).getD "") same

theorem stepKeys_eq (attrs : Attributes) :
    stepKeys attrs = attrs.keys.filterMap fun key =>
      (stepKey? key).map fun (word, n) => (key, word, n) := by
  rw [stepKeys, Attributes.keys, List.filterMap_map]
  rfl

/-- The step keys whose step satisfies `p`. -/
theorem map_fst_filter_stepKeys (attrs : Attributes) (p : Nat → Bool) :
    ((stepKeys attrs).filter fun k => p k.2.2).map Prod.fst =
      attrs.keys.filter fun key => (stepOf? key).any p := by
  rw [stepKeys_eq]
  induction attrs.keys with
  | nil => rfl
  | cons key rest ih =>
      cases read : stepKey? key with
      | none =>
          have silent : stepOf? key = none := by rw [stepOf?, read, Option.map_none]
          simp [read, silent, ih]
      | some found =>
          have named : stepOf? key = some found.2 := by rw [stepOf?, read, Option.map_some]
          cases fits : p found.2 <;> simp [read, named, fits, ih]

theorem map_fst_stepKeys (attrs : Attributes) :
    (stepKeys attrs).map Prod.fst = attrs.keys.filter fun key => ∃ n, NamesStep key n := by
  have all := map_fst_filter_stepKeys attrs fun _ => true
  rw [List.filter_eq_self.mpr fun _ _ => rfl] at all
  rw [all]
  refine List.filter_congr fun key _ => ?_
  simp [← isStepKey_iff, isStepKey, stepOf?]

theorem map_fst_namers (attrs : Attributes) (n : Nat) :
    ((stepKeys attrs).filter fun k => k.2.2 = n).map Prod.fst = namers attrs n := by
  rw [map_fst_filter_stepKeys attrs fun m => m = n, namers]
  refine List.filter_congr fun key _ => ?_
  simp only [← stepOf?_eq_some_iff]
  cases stepOf? key <;> simp

/-- The class list of a step is that of the last key for it. -/
theorem get?_classesByStep (attrs : Attributes) (keys : List (String × String × Nat)) (n : Nat) :
    (classesByStep attrs keys).get? n =
      ((keys.filter fun k => k.2.2 = n).map Prod.fst).getLast?.map (textAt attrs) := by
  induction keys using List.reverseRecOn with
  | nil => rfl
  | append_singleton keys key ih =>
      obtain ⟨key, word, m⟩ := key
      rw [classesByStep, List.foldl_append, ← classesByStep, List.foldl_cons, List.foldl_nil,
        Dict.get?_insert, ih, List.filter_append, List.map_append]
      by_cases same : m = n
      · rw [if_pos same, List.filter_cons_of_pos (by simpa using same)]
        simp [textAt]
      · rw [if_neg same, List.filter_cons_of_neg (by simpa using same)]
        simp

/-- The attributes of an element with its bare step key spelled out. -/
def spelledOut (attrs : Attributes) (key word : String) : Attributes :=
  ((attrs.insert (word ++ "-0") (.text hiddenClass)).insert key (.text revealedClass)).addClass
    hiddenClass

/-- What becomes of an element with step keys. -/
theorem normalizeSteps_cases {attrs : Attributes} (stepped : Stepped attrs) :
    (∃ key word n, word ∈ ["click", "step"] ∧ NamesStep key n ∧ IsBare attrs key ∧
      normalizeSteps attrs = some (spelledOut attrs key word,
        ((Dict.empty : Dict Nat String).insert 0 hiddenClass).insert n revealedClass)) ∨
    ((∀ key, ¬IsBare attrs key) ∧
      normalizeSteps attrs = some (attrs, classesByStep attrs (stepKeys attrs))) := by
  have listed := map_fst_stepKeys attrs
  unfold normalizeSteps
  split
  case h_1 none =>
    rw [stepKeys_eq_nil_iff, isStepped_iff_stepped.mpr stepped] at none
    cases none
  case h_2 key word n only =>
    rw [only, List.map_singleton] at listed
    split_ifs with bare
    · have read : stepKey? key = some (word, n) := by
        have member : (key, word, n) ∈ stepKeys attrs := by
          rw [only]
          exact List.mem_singleton_self _
        rw [stepKeys_eq, List.mem_filterMap] at member
        obtain ⟨other, -, found⟩ := member
        obtain ⟨pair, read, same⟩ := Option.map_eq_some_iff.mp found
        cases same
        exact read
      refine .inl ⟨key, word, n, (stepKey?_eq_some_iff.mp read).1, ?_, ⟨listed.symm, ?_⟩, rfl⟩
      · rw [← stepOf?_eq_some_iff, stepOf?, read, Option.map_some]
      · cases held : attrs.get? key with
        | none => simp [held] at bare
        | some value => exact ⟨value, rfl, by simpa [held] using bare⟩
    · refine .inr ⟨fun other isBare => bare ?_, by rw [only]⟩
      obtain ⟨named, value, held, flag⟩ := isBare
      obtain rfl : key = other := List.head_eq_of_cons_eq (listed.trans named)
      simp [held, flag]
  case h_3 several =>
    refine .inr ⟨fun other isBare => ?_, rfl⟩
    have single : (stepKeys attrs).length = 1 := by
      rw [← List.length_map Prod.fst, listed, isBare.1, List.length_singleton]
    obtain ⟨⟨key, word, n⟩, only⟩ := List.length_eq_one_iff.mp single
    exact several key word n only

/-- The keys whose values may change when the steps are collected: step keys, the class and the
step id. -/
def IsStepAttribute (key : String) : Prop :=
  (∃ n, NamesStep key n) ∨ key = "class" ∨ key = "data-step-id"

theorem cut_stepKey {word : String} (known : word ∈ ["click", "step"]) (digits : List Char) :
    Text.cutAtFirst (· = '-') (word ++ "-" ++ String.ofList digits).toList =
      some (word.toList, '-', digits) := by
  have written : (word ++ "-" ++ String.ofList digits).toList = word.toList ++ '-' :: digits := by
    simp
  rw [written]
  exact Text.cutAtFirst_append (fun _ => ne_hyphen_of_mem_word known) (by decide) digits

/-- A key with a numeral that does not fit into 32 bits is no step key, nor one of the others. -/
theorem not_isStepAttribute_of_le {word : String} (known : word ∈ ["click", "step"])
    {digits : List Char} (large : UInt32.size ≤ Nat.ofDigitChars 10 digits 0) :
    ¬IsStepAttribute (word ++ "-" ++ String.ofList digits) := by
  have cut := cut_stepKey known digits
  rintro (⟨n, other, other_known, numeral, key_eq, -, rfl, small⟩ | same | same)
  · rw [key_eq, Text.cutAtFirst_append (fun _ => ne_hyphen_of_mem_word other_known) (by decide),
      Option.some_inj, Prod.mk.injEq, Prod.mk.injEq] at cut
    obtain ⟨-, -, rfl⟩ := cut
    exact absurd small (Nat.not_lt.mpr large)
  · rw [same] at cut
    cases cut
  · rw [same] at cut
    have fixed : Text.cutAtFirst (· = '-') "data-step-id".toList =
        some ("data".toList, '-', "step-id".toList) := by decide
    rw [fixed, Option.some_inj, Prod.mk.injEq, String.toList_inj] at cut
    obtain ⟨rfl, -⟩ := cut
    exact absurd known (by decide)

/-- `Registers attrs marked entry` says that an element with the attributes `attrs` is registered as
`entry` and left with the attributes `marked`. -/
structure Registers (attrs marked : Attributes) (entry : StepEntry) : Prop where
  stepped : Stepped attrs
  id : marked.get? "data-step-id" = some (.text entry.id)
  frame : attrs.Frame IsStepAttribute marked
  shown : attrs.Shown → marked.Shown
  steps : ∀ n ≠ 0, HasStep marked n → HasStep attrs n
  bare : ∀ key n, IsBare attrs key → NamesStep key n →
    entry.steps.get? n = some (textAt marked key)
  last : ∀ n, (∀ key, IsBare attrs key → ¬NamesStep key n) →
    entry.steps.get? n = (namers marked n).getLast?.map (textAt marked)

/-- The class, which the pass sets beside the keys of steps, names no step. -/
theorem not_namesStep_class (n : Nat) : ¬NamesStep "class" n := not_namesStep (by decide) n

/-- The step id names no step. -/
theorem not_namesStep_id (n : Nat) : ¬NamesStep "data-step-id" n := not_namesStep (by decide) n

theorem ne_of_namesStep {key other : String} {n : Nat} (names : NamesStep key n)
    (silent : ∀ n, ¬NamesStep other n) : other ≠ key := by
  rintro rfl
  exact silent n names

theorem hasStep_iff {attrs : Attributes} {n : Nat} : HasStep attrs n ↔ namers attrs n ≠ [] := by
  simp [namers, HasStep]

/-- The step id does not matter to the keys and texts of steps. -/
theorem namers_insert_id (attrs : Attributes) (value : Value) (n : Nat) :
    namers (attrs.insert "data-step-id" value) n = namers attrs n :=
  namers_insert (not_namesStep_id n) attrs value

theorem textAt_insert_id {key : String} {n : Nat} (names : NamesStep key n) (attrs : Attributes)
    (id : String) : textAt (attrs.insert "data-step-id" (.text id)) key = textAt attrs key := by
  rw [textAt_insert, if_neg (ne_of_namesStep names not_namesStep_id)]

/-- An element whose values are its class lists gets its id, and nothing else changes. -/
theorem registers_literal {attrs : Attributes} (stepped : Stepped attrs)
    (literal : ∀ key, ¬IsBare attrs key) (id : String) :
    Registers attrs (attrs.insert "data-step-id" (.text id))
      ⟨id, classesByStep attrs (stepKeys attrs)⟩ where
  stepped := stepped
  id := by rw [Attributes.get?_insert, if_pos rfl]
  frame := Attributes.frame_insert (.inr (.inr rfl)) _ attrs
  shown attrs_shown := attrs_shown.insertText _ _
  steps n _ has := by
    rwa [hasStep_iff, namers_insert_id, ← hasStep_iff] at has
  bare key _ isBare := absurd isBare (literal key)
  last n _ := by
    rw [get?_classesByStep, map_fst_namers, namers_insert_id]
    refine Option.map_congr fun key member => ?_
    have names := (mem_namers.mp (List.mem_of_getLast? member)).2
    exact (textAt_insert_id names attrs id).symm

/-! ### A bare step key -/

section

variable {attrs : Attributes} {key : String}

theorem IsBare.mem_keys (bare : IsBare attrs key) : key ∈ attrs.keys := by
  have member : key ∈ attrs.keys.filter fun key => ∃ n, NamesStep key n := by
    rw [bare.1]
    exact List.mem_singleton_self key
  exact (List.mem_filter.mp member).1

theorem IsBare.eq (bare : IsBare attrs key) {other : String} {n : Nat}
    (member : other ∈ attrs.keys) (names : NamesStep other n) : other = key := by
  have listed : other ∈ attrs.keys.filter fun key => ∃ n, NamesStep key n :=
    List.mem_filter.mpr ⟨member, by simpa using ⟨n, names⟩⟩
  rw [bare.1] at listed
  exact List.mem_singleton.mp listed

/-- No other step is named. -/
theorem IsBare.namers_eq_nil (bare : IsBare attrs key) {n : Nat} (other : ¬NamesStep key n) :
    namers attrs n = [] := by
  refine List.filter_eq_nil_iff.mpr fun found member names => ?_
  have names := of_decide_eq_true names
  obtain rfl := bare.eq member names
  exact other names

theorem namers_spelledOut {n : Nat} (other : ¬NamesStep key n) (attrs : Attributes)
    (word : String) :
    namers (spelledOut attrs key word) n =
      namers (attrs.insert (word ++ "-0") (.text hiddenClass)) n := by
  rw [spelledOut, Attributes.addClass, namers_appendWords (not_namesStep_class n),
    namers_insert other]

theorem textAt_spelledOut {other : String} {n : Nat} (names : NamesStep other n)
    (attrs : Attributes) (key word : String) :
    textAt (spelledOut attrs key word) other =
      if key = other then revealedClass
      else if word ++ "-0" = other then hiddenClass else textAt attrs other := by
  rw [spelledOut, Attributes.addClass,
    textAt_appendWords (ne_of_namesStep names not_namesStep_class), textAt_insert, textAt_insert]

/-- A bare key that does not name the step in front of all others leaves that step to a new key. -/
theorem IsBare.namers_spelledOut_zero (bare : IsBare attrs key) {word : String}
    (known : word ∈ ["click", "step"]) (other : ¬NamesStep key 0) :
    namers (spelledOut attrs key word) 0 = [word ++ "-0"] := by
  have new : word ++ "-0" ∉ attrs.keys := by
    intro member
    have names := namesStep_zero known
    rw [bare.eq member names] at names
    exact other names
  rw [namers_spelledOut other, namers, Attributes.keys_insert, if_neg new, List.filter_append,
    ← namers, bare.namers_eq_nil other,
    List.filter_cons_of_pos (by simpa using namesStep_zero known)]
  rfl

theorem IsBare.namers_spelledOut_pos (bare : IsBare attrs key) {word : String} {n : Nat}
    (known : word ∈ ["click", "step"]) (pos : n ≠ 0) (other : ¬NamesStep key n) :
    namers (spelledOut attrs key word) n = [] := by
  have silent : ¬NamesStep (word ++ "-0") n := fun names =>
    pos (names.unique (namesStep_zero known))
  rw [namers_spelledOut other, namers_insert silent, bare.namers_eq_nil other]

/-- An element with a bare key gets that key and the step in front of all others spelled out. -/
theorem registers_spelledOut {word : String} {m : Nat} (known : word ∈ ["click", "step"])
    (names : NamesStep key m) (bare : IsBare attrs key) (id : String) :
    Registers attrs ((spelledOut attrs key word).insert "data-step-id" (.text id))
      ⟨id, ((Dict.empty : Dict Nat String).insert 0 hiddenClass).insert m revealedClass⟩ where
  stepped := ⟨m, key, bare.mem_keys, names⟩
  id := by rw [Attributes.get?_insert, if_pos rfl]
  frame := by
    have step : ∀ {other : String} {n : Nat}, NamesStep other n → IsStepAttribute other :=
      fun names => .inl ⟨_, names⟩
    exact (((Attributes.frame_insert (step (namesStep_zero known)) _ attrs).trans
      (Attributes.frame_insert (step names) _ _)).trans
      (Attributes.frame_appendWords (.inr (.inl rfl)) _ _)).trans
      (Attributes.frame_insert (.inr (.inr rfl)) _ _)
  shown attrs_shown :=
    (((attrs_shown.insertText _ _).insertText _ _).addClass _).insertText _ _
  steps n pos has := by
    by_cases own : NamesStep key n
    · exact ⟨key, bare.mem_keys, own⟩
    · rw [hasStep_iff, namers_insert_id, bare.namers_spelledOut_pos known pos own] at has
      exact absurd rfl has
  bare other n bare' names' := by
    obtain rfl : other = key := bare.eq bare'.mem_keys names'
    obtain rfl := names.unique names'
    rw [Dict.get?_insert, if_pos rfl, textAt_insert_id names', textAt_spelledOut names', if_pos rfl]
  last n other := by
    have own : ¬NamesStep key n := other key bare
    have ne : m ≠ n := fun same => own (same ▸ names)
    rw [Dict.get?_insert, if_neg ne, Dict.get?_insert, Dict.get?_empty, namers_insert_id]
    split_ifs with zero
    · subst zero
      have zeroth := namesStep_zero known
      have apart : key ≠ word ++ "-0" := fun same => own (same ▸ zeroth)
      rw [bare.namers_spelledOut_zero known own, List.getLast?_singleton, Option.map_some,
        textAt_insert_id zeroth, textAt_spelledOut zeroth, if_neg apart, if_pos rfl]
    · rw [bare.namers_spelledOut_pos known (Ne.symm zero) own]
      rfl

end

/-! ### Registering -/

/-- The registry with more entries. -/
def StepRegistry.extend (r : StepRegistry) (new : List StepEntry) : StepRegistry where
  entries := r.entries ++ new
  maxStep := new.foldl (fun last entry => max last (greatestStep entry.steps)) r.maxStep

theorem StepRegistry.extend_nil (r : StepRegistry) : r.extend [] = r := by
  rw [extend, List.append_nil]
  rfl

theorem StepRegistry.extend_extend (r : StepRegistry) (new more : List StepEntry) :
    (r.extend new).extend more = r.extend (new ++ more) := by
  simp only [extend, List.append_assoc, List.foldl_append]

theorem StepRegistry.length_extend (r : StepRegistry) (new : List StepEntry) :
    (r.extend new).entries.length = r.entries.length + new.length :=
  List.length_append

/-- An element with step keys is registered behind the others. -/
theorem exists_registers (page : Nat) {attrs : Attributes} (stepped : Stepped attrs)
    (r : StepRegistry) :
    ∃ marked entry, registerSteps page attrs r = (marked, r.extend [entry]) ∧
      entry.id = stepId page (r.entries.length + 1) ∧ Registers attrs marked entry := by
  obtain ⟨key, word, n, known, names, bare, normal⟩ | ⟨literal, normal⟩ :=
    normalizeSteps_cases stepped
  · exact ⟨_, _, by rw [registerSteps, normal]; rfl, rfl, registers_spelledOut known names bare _⟩
  · exact ⟨_, _, by rw [registerSteps, normal]; rfl, rfl, registers_literal stepped literal _⟩

theorem registerSteps_of_not_stepped (page : Nat) {attrs : Attributes}
    (unstepped : ¬Stepped attrs) (r : StepRegistry) : registerSteps page attrs r = (attrs, r) := by
  have none : normalizeSteps attrs = none := by
    rw [normalizeSteps, stepKeys_eq_nil_iff.mpr]
    rwa [← Bool.not_eq_true, isStepped_iff_stepped]
  rw [registerSteps, none]

end SlideDeck.Slide
