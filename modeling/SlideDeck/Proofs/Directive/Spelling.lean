import SlideDeck.Proofs.Attribute.Assignment
import SlideDeck.Proofs.Directive.Resolution

/-!
# The two spellings of a key

An annotation can write a key plainly or behind an underscore, and the two spellings reach different
scopes. The directives of a run of annotations therefore depend on the last value of each spelling
(`get?_resolved_annotations`), and on the order between the two only for the page-only keys, which
have one scope (`get?_resolved_pageOnly`).
-/

namespace SlideDeck

/-- The assignments to a key in either spelling, in order. -/
def spelled (key : String) (made : List (String × Value)) : List (String × Value) :=
  made.filter fun e => e.1 = key ∨ e.1 = "_" ++ key

namespace PageDirectives

theorem scopeOf_eq_deck_iff {key : String} (plain : key.toList.head? ≠ some '_')
    (written : String) : scopeOf written = (.deck, key) ↔ written = key := by
  unfold scopeOf
  split
  case h_1 c rest underscored =>
    constructor
    · simp
    · rintro rfl
      simp [underscored] at plain
  case h_2 => simp

theorem scopeOf_eq_page_iff {key : String} (key_ne : key ≠ "") (written : String) :
    scopeOf written = (.page, key) ↔ written = "_" ++ key := by
  unfold scopeOf
  split
  case h_1 c rest underscored =>
    rw [Prod.mk.injEq, String.ext_iff, String.ext_iff, underscored]
    simp
  case h_2 other =>
    constructor
    · simp
    · rintro rfl
      obtain ⟨c, rest, chars⟩ := List.exists_cons_of_ne_nil (mt String.toList_eq_nil_iff.mp key_ne)
      exact absurd (by simp [chars]) (other c rest)

end PageDirectives

namespace Write

open PageDirectives

theorem value_ofKey (written : String) (value : Value) : (ofKey written value).value = value := by
  rw [ofKey_eq]
  rfl

theorem ofKey_deck_iff {key written : String} (plain : key.toList.head? ≠ some '_')
    (free : key ∉ pageOnlyKeys) (value : Value) :
    ((ofKey written value).scope = .deck ∧ (ofKey written value).key = key) ↔ written = key := by
  rw [ofKey_eq, ← scopeOf_eq_deck_iff plain written]
  obtain ⟨scope, bare⟩ := scopeOf written
  simp only [ofScope, Prod.mk.injEq]
  constructor
  · rintro ⟨deck, rfl⟩
    exact ⟨by rwa [if_neg free] at deck, rfl⟩
  · rintro ⟨rfl, rfl⟩
    exact ⟨if_neg free, rfl⟩

theorem ofKey_page_iff {key written : String} (key_ne : key ≠ "") (free : key ∉ pageOnlyKeys)
    (value : Value) :
    ((ofKey written value).scope = .page ∧ (ofKey written value).key = key) ↔
      written = "_" ++ key := by
  rw [ofKey_eq, ← scopeOf_eq_page_iff key_ne written]
  obtain ⟨scope, bare⟩ := scopeOf written
  simp only [ofScope, Prod.mk.injEq]
  constructor
  · rintro ⟨page, rfl⟩
    exact ⟨by rwa [if_neg free] at page, rfl⟩
  · rintro ⟨rfl, rfl⟩
    exact ⟨if_neg free, rfl⟩

/-- Both spellings of a page-only key reach the page. -/
theorem ofKey_pageOnly_iff {key written : String} (key_ne : key ≠ "")
    (plain : key.toList.head? ≠ some '_') (only : key ∈ pageOnlyKeys) (value : Value) :
    ((ofKey written value).scope = .page ∧ (ofKey written value).key = key) ↔
      (written = key ∨ written = "_" ++ key) := by
  rw [ofKey_eq, ← scopeOf_eq_page_iff key_ne written, ← scopeOf_eq_deck_iff plain written]
  obtain ⟨scope, bare⟩ := scopeOf written
  simp only [ofScope, Prod.mk.injEq]
  constructor
  · rintro ⟨-, rfl⟩
    cases scope
    · exact .inl ⟨rfl, rfl⟩
    · exact .inr ⟨rfl, rfl⟩
  · rintro (⟨-, rfl⟩ | ⟨-, rfl⟩) <;> exact ⟨if_pos only, rfl⟩

end Write

/-! ## Assignments in either spelling -/

section

variable {key : String} {made : List (String × Value)}

/-- The assignments do not mix the spellings of a key. -/
def OneSpelling (key : String) (made : List (String × Value)) : Prop :=
  valuesAt key made = [] ∨ valuesAt ("_" ++ key) made = []

instance (key : String) (made : List (String × Value)) : Decidable (OneSpelling key made) :=
  inferInstanceAs (Decidable (_ ∨ _))

theorem valuesAt_eq_nil_iff : valuesAt key made = [] ↔ ∀ e ∈ made, e.1 ≠ key := by
  simp [valuesAt, List.filter_eq_nil_iff]

theorem valuesAt_spelled (key : String) (made : List (String × Value)) :
    valuesAt key (spelled key made) = valuesAt key made ∧
      valuesAt ("_" ++ key) (spelled key made) = valuesAt ("_" ++ key) made := by
  simp only [valuesAt, spelled, List.filter_filter]
  refine ⟨congrArg (List.map Prod.snd) (List.filter_congr fun e _ => ?_),
    congrArg (List.map Prod.snd) (List.filter_congr fun e _ => ?_)⟩ <;> simp +contextual

theorem OneSpelling.map_spelled (one : OneSpelling key made) :
    (spelled key made).map Prod.snd = valuesAt key made ++ valuesAt ("_" ++ key) made := by
  rcases one with none_plain | none_behind
  · rw [none_plain, List.nil_append]
    refine congrArg (List.map Prod.snd) (List.filter_congr fun e member => ?_)
    simp [valuesAt_eq_nil_iff.mp none_plain e member]
  · rw [none_behind, List.append_nil]
    refine congrArg (List.map Prod.snd) (List.filter_congr fun e member => ?_)
    simp [valuesAt_eq_nil_iff.mp none_behind e member]

/-- Reading an annotation keeps the spellings that it has. -/
theorem OneSpelling.of_parse {source : String} (one : OneSpelling key (assignments source)) :
    OneSpelling key (Bag.parse source).assignments := by
  simpa only [OneSpelling, ← List.getLast?_eq_none_iff, getLast?_valuesAt_parse] using one

/-- Unless a plain assignment comes last and one behind an underscore stands before it, the layers
agree with the order of both spellings. -/
theorem leftBy_spelled (before : Option Value)
    (agrees : ∀ last ∈ (spelled key made).getLast?,
      last.1 = key → valuesAt ("_" ++ key) made = []) :
    PageDirectives.leftBy (PageDirectives.leftBy before (valuesAt key made))
        (valuesAt ("_" ++ key) made) =
      PageDirectives.leftBy before ((spelled key made).map Prod.snd) := by
  obtain ⟨plain_values, behind_values⟩ := valuesAt_spelled key made
  rcases (spelled key made).eq_nil_or_concat' with none_spelled | ⟨front, last, shape⟩
  · rw [← plain_values, ← behind_values, none_spelled]
    rfl
  · have either : last ∈ spelled key made := by simp [shape]
    rcases of_decide_eq_true (List.mem_filter.mp either).2 with plain | behind
    · have none_behind := agrees last (by simp [shape]) plain
      have one : OneSpelling key made := .inr none_behind
      rw [one.map_spelled, none_behind, List.append_nil]
      rfl
    · rw [← behind_values, shape, valuesAt_append]
      simp [valuesAt, behind, PageDirectives.leftBy]

end

theorem getLast?_flatMap_congr {α β : Type} {f g : α → List β} {l : List α}
    (same : ∀ a ∈ l, (f a).getLast? = (g a).getLast?) :
    (l.flatMap f).getLast? = (l.flatMap g).getLast? := by
  induction l with
  | nil => rfl
  | cons a l ih =>
      obtain ⟨here, behind⟩ := List.forall_mem_cons.mp same
      simp only [List.flatMap_cons, List.getLast?_append, here, ih behind]

/-! ## A run of annotations -/

namespace PageDirectives

/-- The directives of a page on which the given annotations are applied in turn. -/
def ofAnnotations (baseline : DirectiveMap) (sources : List String) : PageDirectives :=
  ofSteps baseline (sources.map fun source => .apply (Bag.parse source))

theorem writes_apply (bag : Bag) :
    PageStep.writes (.apply bag) = bag.assignments.map fun e => .ofKey e.1 e.2 := by
  simp only [PageStep.writes, Bag.assignments, namesAt, List.map_append]
  split_ifs <;> rfl

theorem leftBy_congr (before : Option Value) {values others : List Value}
    (same : values.getLast? = others.getLast?) : leftBy before values = leftBy before others := by
  rw [leftBy, same, leftBy]

/-- The values of a scope that a key reaches in the given spellings only. -/
theorem values_annotations {scope : Scope} {key : String} (spelling : String → Prop)
    [DecidablePred spelling]
    (reaches : ∀ written value, ((Write.ofKey written value).scope = scope ∧
      (Write.ofKey written value).key = key) ↔ spelling written) (sources : List String) :
    Write.values scope key
        ((sources.map fun source => PageStep.apply (Bag.parse source)).flatMap PageStep.writes) =
      sources.flatMap fun source =>
        ((Bag.parse source).assignments.filter fun e => spelling e.1).map Prod.snd := by
  have test : ((fun w : Write => decide (w.scope = scope ∧ w.key = key)) ∘
      fun e : String × Value => Write.ofKey e.1 e.2) = fun e => decide (spelling e.1) :=
    funext fun e => decide_eq_decide.mpr (reaches e.1 e.2)
  have value : (Write.value ∘ fun e : String × Value => Write.ofKey e.1 e.2) = Prod.snd :=
    funext fun e => Write.value_ofKey e.1 e.2
  simp only [Write.values, List.flatMap_map, writes_apply, List.filter_flatMap, List.filter_map,
    test, List.map_flatMap, List.map_map, value]

theorem getLast?_valuesAt_flatMap (key : String) (sources : List String) :
    (sources.flatMap fun source => valuesAt key (Bag.parse source).assignments).getLast? =
      (valuesAt key (sources.flatMap assignments)).getLast? := by
  rw [valuesAt, List.filter_flatMap, List.map_flatMap]
  exact getLast?_flatMap_congr fun source _ => getLast?_valuesAt_parse source key

/-- A key that is not for one page only has the last value written behind an underscore, else the
last one written plainly, else that of the baseline. -/
theorem get?_resolved_annotations (baseline : DirectiveMap) (sources : List String) {key : String}
    (key_ne : key ≠ "") (class_ne : key ≠ "class") (plain : key.toList.head? ≠ some '_')
    (free : key ∉ pageOnlyKeys) :
    (ofAnnotations baseline sources).resolved.get? key =
      leftBy (leftBy (baseline.get? key) (valuesAt key (sources.flatMap assignments)))
        (valuesAt ("_" ++ key) (sources.flatMap assignments)) := by
  have deck : deckValues key (sources.map fun source => .apply (Bag.parse source)) =
      sources.flatMap fun source => valuesAt key (Bag.parse source).assignments :=
    values_annotations (· = key) (fun _ => Write.ofKey_deck_iff plain free) sources
  have page : pageValues key (sources.map fun source => .apply (Bag.parse source)) =
      sources.flatMap fun source => valuesAt ("_" ++ key) (Bag.parse source).assignments :=
    values_annotations (· = "_" ++ key) (fun _ => Write.ofKey_page_iff key_ne free) sources
  rw [ofAnnotations, get?_resolved_of_ne_class _ _ class_ne, deck, page,
    leftBy_congr _ (getLast?_valuesAt_flatMap ("_" ++ key) sources),
    leftBy_congr (baseline.get? key) (getLast?_valuesAt_flatMap key sources)]

/-- A page-only key has the last value in either spelling, if no annotation mixes the two. -/
theorem get?_resolved_pageOnly (baseline : DirectiveMap) (sources : List String) {key : String}
    (key_ne : key ≠ "") (class_ne : key ≠ "class") (plain : key.toList.head? ≠ some '_')
    (only : key ∈ pageOnlyKeys) (one : ∀ source ∈ sources, OneSpelling key (assignments source)) :
    (ofAnnotations baseline sources).resolved.get? key =
      leftBy (baseline.get? key) ((spelled key (sources.flatMap assignments)).map Prod.snd) := by
  have page : pageValues key (sources.map fun source => .apply (Bag.parse source)) =
      sources.flatMap fun source => (spelled key (Bag.parse source).assignments).map Prod.snd :=
    values_annotations (fun written => written = key ∨ written = "_" ++ key)
      (fun _ => Write.ofKey_pageOnly_iff key_ne plain only) sources
  have last : ∀ source ∈ sources,
      ((spelled key (Bag.parse source).assignments).map Prod.snd).getLast? =
        ((spelled key (assignments source)).map Prod.snd).getLast? := by
    intro source member
    have read := (one source member).of_parse
    rw [read.map_spelled, (one source member).map_spelled, List.getLast?_append,
      List.getLast?_append, getLast?_valuesAt_parse, getLast?_valuesAt_parse]
  have ordered : (spelled key (sources.flatMap assignments)).map Prod.snd =
      sources.flatMap fun source => (spelled key (assignments source)).map Prod.snd := by
    rw [spelled, List.filter_flatMap, List.map_flatMap]
    rfl
  rw [ofAnnotations, get?_resolved_of_ne_class _ _ class_ne, deckValues_of_pageOnly only, page,
    ordered, leftBy_congr _ (getLast?_flatMap_congr last)]
  rfl

end PageDirectives

end SlideDeck
