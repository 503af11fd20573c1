import SlideDeck.Proofs.Slide.Element
import SlideDeck.Slide.Frame
import SlideDeck.Slide.Steps

/-!
# Step keys

A step key such as `click-2` is one of two words, a hyphen and a decimal numeral that fits into 32
bits, and names the step of that number (`stepOf?_eq_some_iff`). The ids that stepped elements get
tell the page and the number of the element on it (`stepId_inj`).
-/

namespace SlideDeck.Slide

/-- True of a key such as `click-2`. -/
def isStepKey (key : String) : Bool := (stepKey? key).isSome

/-- True of attributes with a step key. -/
def isStepped (attrs : Attributes) : Bool := attrs.entries.any fun e => isStepKey e.1

/-- The id of the element that is registered as number `k` on a page. -/
def stepId (page k : Nat) : String := "p" ++ toString page ++ "-s" ++ toString k

/-- A key names step `n` if it is one of two words, a hyphen and a decimal numeral of `n`, which
fits into 32 bits. -/
def NamesStep (key : String) (n : Nat) : Prop :=
  ∃ word ∈ ["click", "step"], ∃ digits : List Char,
    key.toList = word.toList ++ '-' :: digits ∧
      (digits ≠ [] ∧ ∀ c ∈ digits, c.isDigit = true) ∧
      Nat.ofDigitChars 10 digits 0 = n ∧ n < UInt32.size

/-- One of the keys names step `n`. -/
def HasStep (attrs : Attributes) (n : Nat) : Prop := ∃ key ∈ attrs.keys, NamesStep key n

/-- One of the keys names a step. -/
def Stepped (attrs : Attributes) : Prop := ∃ n, HasStep attrs n

/-! ## Reading keys -/

theorem isStepped_iff {attrs : Attributes} :
    isStepped attrs = true ↔ ∃ key ∈ attrs.keys, isStepKey key = true := by
  simp [isStepped, Attributes.keys]

theorem stepKeys_eq_nil_iff {attrs : Attributes} :
    stepKeys attrs = [] ↔ isStepped attrs = false := by
  simp [stepKeys, isStepped, isStepKey]

theorem stepNumber?_eq_some_iff {digits : List Char} {n : Nat} :
    stepNumber? digits = some n ↔
      (digits ≠ [] ∧ ∀ c ∈ digits, c.isDigit = true) ∧
        Nat.ofDigitChars 10 digits 0 = n ∧ n < UInt32.size := by
  have value : digits.foldl (fun n c => 10 * n + (c.toNat - 0x30)) 0 =
      Nat.ofDigitChars 10 digits 0 := rfl
  have size : Nat.pow 2 32 = UInt32.size := rfl
  rw [stepNumber?, value, size]
  by_cases numeral : digits ≠ [] ∧ ∀ c ∈ digits, c.isDigit = true
  · have taken : (digits.isEmpty || !digits.all Char.isDigit) = false := by
      simpa [List.all_eq_true] using numeral
    rw [taken, if_neg Bool.false_ne_true]
    dsimp only
    split_ifs with small
    · rw [Option.some_inj]
      exact ⟨fun same => ⟨numeral, same, same ▸ small⟩, fun all => all.2.1⟩
    · refine ⟨nofun, fun all => ?_⟩
      obtain ⟨-, rfl, fits⟩ := all
      exact absurd fits small
  · have refused : (digits.isEmpty || !digits.all Char.isDigit) = true := by
      by_contra taken
      exact numeral (by simpa [List.all_eq_true] using taken)
    rw [refused, if_pos rfl]
    exact ⟨nofun, fun all => absurd all.1 numeral⟩

/-- The words of step keys have no hyphen. -/
theorem ne_hyphen_of_mem_word {word : String} (known : word ∈ ["click", "step"]) {c : Char}
    (member : c ∈ word.toList) : decide (c = '-') = false := by
  have words : ∀ word ∈ ["click", "step"], word.toList.all (fun c => !decide (c = '-')) = true := by
    decide
  simpa using List.all_eq_true.mp (words word known) c member

theorem stepKey?_eq_some_iff {key word : String} {n : Nat} :
    stepKey? key = some (word, n) ↔
      word ∈ ["click", "step"] ∧ ∃ digits : List Char,
        key.toList = word.toList ++ '-' :: digits ∧ stepNumber? digits = some n := by
  constructor
  · intro read
    unfold stepKey? at read
    split at read
    case h_1 front mark digits cut =>
      obtain ⟨key_eq, mark_eq, -⟩ := Text.eq_of_cutAtFirst cut
      obtain rfl : mark = '-' := of_decide_eq_true mark_eq
      split_ifs at read with known
      obtain ⟨m, number, pair⟩ := Option.map_eq_some_iff.mp read
      obtain ⟨rfl, rfl⟩ := Prod.mk.inj pair
      refine ⟨?_, digits, ?_, number⟩
      · have listed : front = "click".toList ∨ front = "step".toList := by
          simpa only [Bool.or_eq_true, decide_eq_true_eq] using known
        obtain rfl | rfl := listed <;> decide
      · rw [key_eq, String.toList_ofList]
    case h_2 => cases read
  · rintro ⟨known, digits, key_eq, number⟩
    have cut : Text.cutAtFirst (· = '-') key.toList = some (word.toList, '-', digits) := by
      rw [key_eq]
      exact Text.cutAtFirst_append (fun _ => ne_hyphen_of_mem_word known) (by decide) digits
    have listed : word = "click" ∨ word = "step" := by simpa using known
    simp only [stepKey?, cut, String.toList_inj]
    rw [if_pos (by simpa using listed), number, Option.map_some, String.ofList_toList]

/-- The step that a key names. -/
def stepOf? (key : String) : Option Nat := (stepKey? key).map Prod.snd

theorem stepOf?_eq_some_iff {key : String} {n : Nat} :
    stepOf? key = some n ↔ NamesStep key n := by
  simp only [stepOf?, Option.map_eq_some_iff, Prod.exists, exists_eq_right, stepKey?_eq_some_iff,
    stepNumber?_eq_some_iff, NamesStep]

instance (key : String) (n : Nat) : Decidable (NamesStep key n) :=
  decidable_of_iff (stepOf? key = some n) stepOf?_eq_some_iff

theorem isStepKey_iff {key : String} : isStepKey key = true ↔ ∃ n, NamesStep key n := by
  simp only [← stepOf?_eq_some_iff, ← Option.isSome_iff_exists, stepOf?, Option.isSome_map,
    isStepKey]

instance (key : String) : Decidable (∃ n, NamesStep key n) :=
  decidable_of_iff (isStepKey key = true) isStepKey_iff

theorem isStepped_iff_stepped {attrs : Attributes} : isStepped attrs = true ↔ Stepped attrs := by
  simp only [isStepped_iff, isStepKey_iff, Stepped, HasStep]
  exact ⟨fun ⟨key, member, n, names⟩ => ⟨n, key, member, names⟩,
    fun ⟨n, key, member, names⟩ => ⟨key, member, n, names⟩⟩

instance : DecidablePred Stepped := fun attrs =>
  decidable_of_iff (isStepped attrs = true) isStepped_iff_stepped

/-- A key names one step at most. -/
theorem NamesStep.unique {key : String} {m n : Nat} (first : NamesStep key m)
    (second : NamesStep key n) : m = n := by
  rw [← stepOf?_eq_some_iff] at first second
  exact Option.some_inj.mp (first.symm.trans second)

theorem not_namesStep {key : String} (other : stepOf? key = none) (n : Nat) :
    ¬NamesStep key n := by
  rw [← stepOf?_eq_some_iff, other]
  exact nofun

/-- The key of the step in front of all others. -/
theorem namesStep_zero {word : String} (known : word ∈ ["click", "step"]) :
    NamesStep (word ++ "-0") 0 :=
  ⟨word, known, ['0'], by simp, by simp, by decide, by decide⟩

/-! ## Keys in markup -/

theorem isAttributeName_iff {name : String} :
    isAttributeName name = true ↔
      name.toList ≠ [] ∧ ∀ c ∈ name.toList, isAttributeName (String.singleton c) = true := by
  simp [isAttributeName]

/-- A digit may stand in the name of an attribute. -/
theorem isAttributeName_digit {c : Char} (digit : c.isDigit = true) :
    isAttributeName (String.singleton c) = true := by
  have all : ∀ n ∈ List.range' 48 10,
      isAttributeName (String.singleton (Char.ofNat n)) = true := by decide
  have bounds : 48 ≤ c.toNat ∧ c.toNat ≤ 57 := by
    simpa [Char.isDigit, UInt32.le_iff_toNat_le] using digit
  have member : c.toNat ∈ List.range' 48 10 := List.mem_range'_1.mpr (by omega)
  rw [← Char.ofNat_toNat c]
  exact all c.toNat member

/-- A step key is written out as the name of an attribute. -/
theorem isAttributeName_of_isStepKey {key : String} (step : isStepKey key = true) :
    isAttributeName key = true := by
  obtain ⟨n, word, known, digits, key_eq, ⟨-, digits_only⟩, -⟩ := isStepKey_iff.mp step
  have words : ["click", "step"].all
      (fun word => word.toList.all fun c => isAttributeName (String.singleton c)) = true := rfl
  have word_only := List.all_eq_true.mp (List.all_eq_true.mp words word known)
  refine isAttributeName_iff.mpr ⟨?_, fun c member => ?_⟩
  · rw [key_eq]
    exact List.append_ne_nil_of_right_ne_nil _ (List.cons_ne_nil _ _)
  · rw [key_eq, List.mem_append, List.mem_cons] at member
    obtain front | rfl | behind := member
    · exact word_only c front
    · decide
    · exact isAttributeName_digit (digits_only c behind)

/-- The section of a page has no step key. -/
theorem isStepped_section (frame : Frame) {key : String} (plain : isStepKey key = false)
    (value : String) (children : List Node) :
    ∃ attrs, frame.section_ key value children = .element "section" attrs children false ∧
      isStepped attrs = false := by
  obtain ⟨className, style, id⟩ := frame
  refine ⟨_, rfl, Bool.eq_false_iff.mpr fun stepped => ?_⟩
  obtain ⟨other, member, step⟩ := isStepped_iff.mp stepped
  have fixed : ∀ name ∈ ["class", "id", "style"], isStepKey name = false := by decide
  have known : other ∈ ["class", "id", "style"] ∨ other = key := by
    have listed := Attributes.mem_keys_ofList member
    clear member step stepped
    cases id <;> cases style <;> simp at listed ⊢ <;> tauto
  obtain listed | rfl := known
  · rw [fixed other listed] at step
    cases step
  · rw [plain] at step
    cases step

/-! ## Ids -/

theorem toList_toString (n : Nat) : (toString n).toList = Nat.toDigits 10 n := by
  rw [Nat.toString_eq_repr, Nat.toList_repr]

theorem toString_inj {m n : Nat} (same : toString m = toString n) : m = n := by
  have digits : Nat.toDigits 10 m = Nat.toDigits 10 n := by
    rw [← toList_toString, ← toList_toString, same]
  have values := congrArg (fun l => Nat.ofDigitChars 10 l 0) digits
  simpa only [Nat.ofDigitChars_toDigits (by decide : 1 < 10) (by decide : 10 ≤ 10)] using values

/-- A number is written without a hyphen. -/
theorem ne_hyphen_of_mem_toString {n : Nat} {c : Char} (member : c ∈ (toString n).toList) :
    decide (c = '-') = false := by
  rw [toList_toString] at member
  have digit := Nat.isDigit_of_mem_toDigits (by decide) (by decide) member
  refine decide_eq_false ?_
  rintro rfl
  cases digit

theorem toList_stepId (page k : Nat) :
    (stepId page k).toList =
      'p' :: ((toString page).toList ++ '-' :: 's' :: (toString k).toList) := by
  simp [stepId]

/-- An id tells the page and the number. -/
theorem stepId_inj {page other k l : Nat} (same : stepId page k = stepId other l) :
    page = other ∧ k = l := by
  have texts := congrArg String.toList same
  rw [toList_stepId, toList_stepId] at texts
  -- the number of a page has no hyphen, so both ids are cut at the same place
  have cut := congrArg (Text.cutAtFirst (· = '-')) (List.cons.inj texts).2
  rw [Text.cutAtFirst_append (fun _ => ne_hyphen_of_mem_toString) (by decide),
    Text.cutAtFirst_append (fun _ => ne_hyphen_of_mem_toString) (by decide), Option.some_inj,
    Prod.mk.injEq, Prod.mk.injEq] at cut
  obtain ⟨pages, -, numbers⟩ := cut
  exact ⟨toString_inj (String.toList_inj.mp pages),
    toString_inj (String.toList_inj.mp (List.cons.inj numbers).2)⟩

end SlideDeck.Slide
