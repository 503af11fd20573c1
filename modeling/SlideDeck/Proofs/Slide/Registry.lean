import SlideDeck.Proofs.Slide.SteppedElement

/-!
# The step registry

Collecting the steps of a forest registers the elements with step keys in document order, changes
nothing else but their attributes, and finds the greatest step (`collectSteps_registers`). The
classes that an element is registered with at a step are those of one attribute that names the step
(`registered_classes`), so those of another attribute for the same step are lost
(`registered_classes_sameStep`).
-/

namespace SlideDeck.Slide

/-! ## A forest -/

/-- The attributes of the elements of a forest in document order. -/
def attributesOf (nodes : List Node) : List Attributes := (elements nodes).map Element.attrs

/-- The attributes of the elements with step keys in document order. -/
def steppedOf (nodes : List Node) : List Attributes := (attributesOf nodes).filter Stepped

theorem attributesOf_element (tag : String) (attrs : Attributes) (children : List Node)
    (transparent : Bool) (rest : List Node) :
    attributesOf (.element tag attrs children transparent :: rest) =
      [attrs] ++ (attributesOf children ++ attributesOf rest) := by
  simp [attributesOf, elements, elementsIn]

mutual

/-- A node without the attributes of its elements. -/
def unattributedIn : Node → Node
  | .element tag _ children transparent => .element tag .empty (unattributed children) transparent
  | n => n

/-- A forest without the attributes of its elements. -/
def unattributed : List Node → List Node
  | [] => []
  | n :: rest => unattributedIn n :: unattributed rest

end

/-- A run over elements leaves the attributes `before` as `after` and registers `entries`, the first
of them as number `k` of the page: elements without step keys stay as they are, and every other
element is registered under the next number. -/
inductive Registration (page : Nat) :
    Nat → List Attributes → List Attributes → List StepEntry → Prop
  | nil (k : Nat) : Registration page k [] [] []
  | unstepped {k : Nat} {attrs : Attributes} {before after : List Attributes}
      {entries : List StepEntry} (unstepped : ¬Stepped attrs)
      (behind : Registration page k before after entries) :
      Registration page k (attrs :: before) (attrs :: after) entries
  | stepped {k : Nat} {attrs marked : Attributes} {entry : StepEntry}
      {before after : List Attributes} {entries : List StepEntry}
      (id : entry.id = stepId page k) (registers : Registers attrs marked entry)
      (behind : Registration page (k + 1) before after entries) :
      Registration page k (attrs :: before) (marked :: after) (entry :: entries)

theorem Registration.append {page k : Nat} {before after before' after' : List Attributes}
    {entries entries' : List StepEntry} (first : Registration page k before after entries)
    (second : Registration page (k + entries.length) before' after' entries') :
    Registration page k (before ++ before') (after ++ after') (entries ++ entries') := by
  induction first with
  | nil => exact second
  | unstepped unstepped _ ih => exact .unstepped unstepped (ih second)
  | stepped id registers _ ih =>
      refine .stepped id registers (ih ?_)
      rw [List.length_cons] at second
      rwa [Nat.add_assoc, Nat.add_comm 1]

theorem collectAll_element (page : Nat) (tag : String) (attrs : Attributes) (children : List Node)
    (transparent : Bool) (rest : List Node) (r : StepRegistry) :
    collectAll page (.element tag attrs children transparent :: rest) r =
      let (attrs, r) := registerSteps page attrs r
      let (children, r) := collectAll page children r
      let (rest, r) := collectAll page rest r
      (.element tag attrs children transparent :: rest, r) := rfl

/-- What collecting does to one element in front of others. -/
theorem exists_registration (page : Nat) (attrs : Attributes) (r : StepRegistry) :
    ∃ marked own, registerSteps page attrs r = (marked, r.extend own) ∧
      Registration page (r.entries.length + 1) [attrs] [marked] own := by
  by_cases stepped : Stepped attrs
  · obtain ⟨marked, entry, step, id, registers⟩ := exists_registers page stepped r
    exact ⟨marked, [entry], step, .stepped id registers (.nil _)⟩
  · refine ⟨attrs, [], ?_, .unstepped stepped (.nil _)⟩
    rw [registerSteps_of_not_stepped page stepped, StepRegistry.extend_nil]

/-- Collecting the steps of a forest registers its elements behind those that were registered
before, and changes nothing but attributes. -/
theorem collectAll_registration (page : Nat) (nodes : List Node) (r : StepRegistry) :
    (∃ new, (collectAll page nodes r).2 = r.extend new ∧
      Registration page (r.entries.length + 1) (attributesOf nodes)
        (attributesOf (collectAll page nodes r).1) new) ∧
      unattributed (collectAll page nodes r).1 = unattributed nodes := by
  induction nodes using Node.forest_induction generalizing r with
  | nil => exact ⟨⟨[], (r.extend_nil).symm, .nil _⟩, rfl⟩
  | element tag attrs children transparent rest inner outer =>
      obtain ⟨marked, own, step, here⟩ := exists_registration page attrs r
      obtain ⟨⟨deeper, children_registry, inside⟩, children_same⟩ := inner (r.extend own)
      obtain ⟨⟨later, rest_registry, behind⟩, rest_same⟩ := outer ((r.extend own).extend deeper)
      simp only [collectAll_element, step, children_registry]
      refine ⟨⟨own ++ (deeper ++ later), ?_, ?_⟩, ?_⟩
      · rw [rest_registry, StepRegistry.extend_extend, StepRegistry.extend_extend]
      · -- the numbers go on from the element to its children and from them to the nodes behind
        rw [StepRegistry.length_extend, Nat.add_right_comm] at inside behind
        rw [StepRegistry.length_extend, Nat.add_right_comm r.entries.length] at behind
        rw [attributesOf_element, attributesOf_element]
        exact here.append (inside.append behind)
      · rw [unattributed, unattributed, unattributedIn, unattributedIn, children_same, rest_same]
  | _ n rest ih =>
      obtain ⟨⟨new, registry, registered⟩, same⟩ := ih r
      exact ⟨⟨new, registry, registered⟩, congrArg (_ :: ·) same⟩

/-! ## The greatest step -/

/-- The greatest number with a property, or `0` if there is none. -/
def IsLastStep (P : Nat → Prop) (m : Nat) : Prop := (∀ n, P n → n ≤ m) ∧ (P m ∨ m = 0)

theorem isLastStep_none : IsLastStep (fun _ => False) 0 := ⟨fun _ => False.elim, .inr rfl⟩

theorem IsLastStep.or {P Q : Nat → Prop} {m n : Nat} (first : IsLastStep P m)
    (second : IsLastStep Q n) : IsLastStep (fun k => P k ∨ Q k) (max m n) := by
  obtain ⟨below_m, attained_m⟩ := first
  obtain ⟨below_n, attained_n⟩ := second
  refine ⟨fun k holds => ?_, ?_⟩
  · rcases holds with holds | holds
    · exact (below_m k holds).trans (le_max_left m n)
    · exact (below_n k holds).trans (le_max_right m n)
  · rcases le_total m n with le | le
    · rw [max_eq_right le]
      exact attained_n.imp_left .inr
    · rw [max_eq_left le]
      exact attained_m.imp_left .inl

/-- The step in front of all others makes no difference. -/
theorem IsLastStep.congr {P Q : Nat → Prop} {m : Nat} (last : IsLastStep P m)
    (same : ∀ n ≠ 0, P n ↔ Q n) : IsLastStep Q m := by
  obtain ⟨below, attained⟩ := last
  refine ⟨fun n holds => ?_, ?_⟩
  · by_cases zero : n = 0
    · exact zero ▸ Nat.zero_le m
    · exact below n ((same n zero).mpr holds)
  · by_cases zero : m = 0
    · exact .inr zero
    · exact .inl ((same m zero).mp (attained.resolve_right zero))

theorem IsLastStep.foldl {α : Type} {R : α → Nat → Prop} {value : α → Nat}
    (each : ∀ a, IsLastStep (R a) (value a)) (l : List α) {P : Nat → Prop} {m : Nat}
    (start : IsLastStep P m) :
    IsLastStep (fun n => P n ∨ ∃ a ∈ l, R a n) (l.foldl (fun m a => max m (value a)) m) := by
  induction l generalizing P m with
  | nil => exact start.congr fun n _ => by simp
  | cons a rest ih =>
      refine (ih (start.or (each a))).congr fun n _ => ?_
      simp only [List.mem_cons, exists_eq_or_imp, or_assoc]

theorem isLastStep_greatestStep (steps : Dict Nat String) :
    IsLastStep (· ∈ steps.keys) (greatestStep steps) := by
  have each : ∀ key : Nat, IsLastStep (· = key) key :=
    fun key => ⟨fun n same => same.le, .inl rfl⟩
  refine (IsLastStep.foldl each steps.keys isLastStep_none).congr fun n _ => ?_
  simp

theorem isLastStep_maxStep (new : List StepEntry) :
    IsLastStep (fun n => ∃ entry ∈ new, n ∈ entry.steps.keys)
      (StepRegistry.extend {} new).maxStep := by
  refine (IsLastStep.foldl (fun entry : StepEntry => isLastStep_greatestStep entry.steps) new
    isLastStep_none).congr fun n _ => ?_
  rw [false_or]

/-! ## The registered elements -/

namespace Registers

variable {attrs marked : Attributes} {entry : StepEntry}

theorem hasStep_marked (registers : Registers attrs marked entry) {n : Nat}
    (has : HasStep attrs n) : HasStep marked n := by
  obtain ⟨key, member, names⟩ := has
  exact ⟨key, registers.frame.keys.subset member, names⟩

theorem stepped_marked (registers : Registers attrs marked entry) : Stepped marked :=
  registers.stepped.imp fun _ => registers.hasStep_marked

/-- The steps of an entry are those that the keys of the element name. -/
theorem mem_keys_iff (registers : Registers attrs marked entry) {n : Nat} :
    n ∈ entry.steps.keys ↔ HasStep marked n := by
  rw [Dict.mem_keys_iff]
  by_cases own : ∃ key, IsBare attrs key ∧ NamesStep key n
  · obtain ⟨key, bare, names⟩ := own
    have has : HasStep marked n := registers.hasStep_marked ⟨key, bare.mem_keys, names⟩
    simp [registers.bare key n bare names, has]
  · have other : ∀ key, IsBare attrs key → ¬NamesStep key n :=
      fun key bare names => own ⟨key, bare, names⟩
    rw [registers.last n other, Option.isSome_map, List.getLast?_isSome, hasStep_iff]

end Registers

namespace Registration

variable {page k : Nat} {before after : List Attributes} {entries : List StepEntry}

theorem ids (registration : Registration page k before after entries) :
    entries.map StepEntry.id = (List.range' k entries.length).map (stepId page) := by
  induction registration with
  | nil => rfl
  | unstepped _ _ ih => exact ih
  | stepped id _ _ ih => rw [List.map_cons, id, ih]; rfl

/-- The elements with step keys, before and behind the run, and their entries. -/
theorem rows (registration : Registration page k before after entries) :
    ∃ rows : List (Attributes × Attributes × StepEntry),
      before.filter Stepped = rows.map (fun row => row.1) ∧
      after.filter Stepped = rows.map (fun row => row.2.1) ∧
      entries = rows.map (fun row => row.2.2) ∧
      ∀ row ∈ rows, Registers row.1 row.2.1 row.2.2 := by
  induction registration with
  | nil => exact ⟨[], rfl, rfl, rfl, fun _ member => (List.not_mem_nil member).elim⟩
  | unstepped unstepped _ ih =>
      obtain ⟨rows, first, second, third, each⟩ := ih
      exact ⟨rows, by simpa [unstepped] using first, by simpa [unstepped] using second, third, each⟩
  | @stepped _ attrs marked entry _ _ _ _ registers _ ih =>
      obtain ⟨rows, first, second, third, each⟩ := ih
      refine ⟨(attrs, marked, entry) :: rows, ?_, ?_, ?_,
        List.forall_mem_cons.mpr ⟨registers, each⟩⟩
      · simpa [registers.stepped] using first
      · simpa [registers.stepped_marked] using second
      · rw [third, List.map_cons]

/-- What a run changes of each element. -/
theorem changes (registration : Registration page k before after entries) :
    List.Forall₂ (fun attrs marked => (Stepped marked ↔ Stepped attrs) ∧
      (¬Stepped attrs → marked = attrs) ∧ attrs.Frame IsStepAttribute marked) before after := by
  induction registration with
  | nil => exact .nil
  | unstepped _ _ ih => exact .cons ⟨Iff.rfl, fun _ => rfl, .refl _⟩ ih
  | stepped _ registers _ ih =>
      exact .cons ⟨iff_of_true registers.stepped_marked registers.stepped,
        fun unstepped => absurd registers.stepped unstepped, registers.frame⟩ ih

theorem length_filter_before (registration : Registration page k before after entries) :
    (before.filter Stepped).length = entries.length := by
  obtain ⟨rows, first, -, third, -⟩ := registration.rows
  rw [first, third, List.length_map, List.length_map]

/-- The registered elements are marked with their ids. -/
theorem marks (registration : Registration page k before after entries) :
    (after.filter Stepped).map (fun marked => marked.get? "data-step-id") =
      entries.map fun entry => some (.text entry.id) := by
  obtain ⟨rows, -, second, third, each⟩ := registration.rows
  rw [second, third, List.map_map, List.map_map]
  exact List.map_congr_left fun row member => (each row member).id

/-- The steps of the entries are those that keys name behind the run. -/
theorem exists_mem_keys_iff (registration : Registration page k before after entries) (n : Nat) :
    (∃ entry ∈ entries, n ∈ entry.steps.keys) ↔ ∃ marked ∈ after, HasStep marked n := by
  induction registration with
  | nil => simp
  | unstepped unstepped _ ih =>
      have none : ¬HasStep _ n := fun has => unstepped ⟨n, has⟩
      simp [ih, none]
  | stepped _ registers _ ih => simp [ih, registers.mem_keys_iff]

/-- A run adds at most the step in front of all others. -/
theorem exists_hasStep_iff (registration : Registration page k before after entries) {n : Nat}
    (pos : n ≠ 0) :
    (∃ marked ∈ after, HasStep marked n) ↔ ∃ attrs ∈ before, HasStep attrs n := by
  induction registration with
  | nil => rfl
  | unstepped _ _ ih => simp [ih]
  | stepped _ registers _ ih =>
      have same : HasStep _ n ↔ HasStep _ n :=
        ⟨registers.steps n pos, registers.hasStep_marked⟩
      simp [ih, same]

end Registration

/-! ## Sound forests -/

/-- The stepped elements among `es` are those of the entries `new`, which are numbered from `start`
on. -/
structure Registered (page start : Nat) (es : List Element) (new : List StepEntry) : Prop where
  ids : new.map StepEntry.id = (List.range' start new.length).map (stepId page)
  marked : (es.filter fun e => isStepped e.attrs).map (fun e => e.attrs.get? "data-step-id") =
    new.map fun entry => some (.text entry.id)

namespace Registered

variable {page start : Nat}

theorem unstepped {e : Element} (unstepped : isStepped e.attrs = false) :
    Registered page start [e] [] := by
  refine ⟨rfl, ?_⟩
  rw [List.filter_cons_of_neg (by simp [unstepped])]
  rfl

theorem append {left right : List Element} {new more : List StepEntry}
    (first : Registered page start left new)
    (second : Registered page (start + new.length) right more) :
    Registered page start (left ++ right) (new ++ more) := by
  refine ⟨?_, ?_⟩
  · rw [List.map_append, first.ids, second.ids, ← List.map_append, List.range'_append_1,
      List.length_append]
  · rw [List.filter_append, List.map_append, first.marked, second.marked, List.map_append]

end Registered

theorem Registration.registered {page k : Nat} {before : List Attributes} {nodes : List Node}
    {entries : List StepEntry}
    (registration : Registration page k before (attributesOf nodes) entries) :
    Registered page k (elements nodes) entries where
  ids := registration.ids
  marked := by
    rw [← registration.marks, attributesOf, List.filter_map, List.map_map]
    congr 1
    refine List.filter_congr fun e _ => ?_
    rw [Function.comp_apply, Bool.eq_iff_iff, decide_eq_true_iff, isStepped_iff_stepped]

/-- Registering an element leaves it with attributes that the markup shows. -/
theorem shown_registerSteps (page : Nat) {attrs : Attributes} (shown : attrs.Shown)
    (r : StepRegistry) : (registerSteps page attrs r).1.Shown := by
  by_cases stepped : Stepped attrs
  · obtain ⟨marked, entry, step, -, registers⟩ := exists_registers page stepped r
    rw [step]
    exact registers.shown shown
  · rwa [registerSteps_of_not_stepped page stepped]

/-- Collecting keeps a forest sound: a transparent element has no step key. -/
theorem sound_collectAll (page : Nat) {nodes : List Node} (sound : Sound nodes)
    (r : StepRegistry) : Sound (collectAll page nodes r).1 := by
  induction nodes using Node.forest_induction generalizing r with
  | nil => exact sound_nil
  | element tag attrs children transparent rest inner outer =>
      obtain ⟨here, inside, behind⟩ := sound_element.mp sound
      have hollow : children = [] →
          (collectAll page children (registerSteps page attrs r).2).1 = [] := by
        rintro rfl
        rfl
      rw [collectAll_element]
      refine sound_element.mpr
        ⟨here.update (fun hidden => ?_) ?_ hollow, inner inside _, outer behind _⟩
      · obtain rfl : attrs = .empty := here.bare hidden
        have unstepped : ¬Stepped .empty := fun ⟨_, _, member, _⟩ => List.not_mem_nil member
        rw [registerSteps_of_not_stepped page unstepped]
      · exact shown_registerSteps page here.shown r
  | _ n rest ih => exact (ih (sound_cons.mp sound).2 r).cons rfl

/-- Collecting keeps a forest sound, gives the stepped elements ids in document order, and registers
each of them behind those that were registered before. -/
theorem collectAll_spec (page : Nat) {nodes : List Node} (sound : Sound nodes) (r : StepRegistry) :
    Sound (collectAll page nodes r).1 ∧
      ∃ new, (collectAll page nodes r).2.entries = r.entries ++ new ∧
        Registered page (r.entries.length + 1) (elements (collectAll page nodes r).1) new := by
  obtain ⟨⟨new, made, registration⟩, -⟩ := collectAll_registration page nodes r
  exact ⟨sound_collectAll page sound r, new, by rw [made, StepRegistry.extend],
    registration.registered⟩

/-! ## Completeness -/

/-- Collecting the steps of a forest registers exactly the elements with step keys, in document
order, the `k`-th with number `k` of the page in its id, and finds the greatest step that a key of
the forest names, before and behind the pass and among the entries. Nothing else changes: not an
element without step keys, no tag, child or text, and of a stepped element no key but its step keys,
its class and its id. A numeral that does not fit into 32 bits makes no step key. -/
theorem collectSteps_registers (page : Nat) (nodes : List Node) :
    let after := (collectSteps page nodes).1
    let registry := (collectSteps page nodes).2
    let ids := (List.range' 1 (steppedOf nodes).length).map (stepId page)
    (registry.entries.map StepEntry.id = ids ∧
      (steppedOf after).map (fun marked => marked.get? "data-step-id") =
        ids.map fun id => some (.text id)) ∧
    List.Forall₂ (fun attrs marked => (Stepped marked ↔ Stepped attrs) ∧
        (¬Stepped attrs → marked = attrs) ∧ attrs.Frame IsStepAttribute marked)
      (attributesOf nodes) (attributesOf after) ∧
    unattributed after = unattributed nodes ∧
    IsLastStep (fun n => ∃ attrs ∈ attributesOf nodes, HasStep attrs n) registry.maxStep ∧
    IsLastStep (fun n => ∃ marked ∈ attributesOf after, HasStep marked n) registry.maxStep ∧
    IsLastStep (fun n => ∃ entry ∈ registry.entries, n ∈ entry.steps.keys) registry.maxStep ∧
    ∀ word ∈ ["click", "step"], ∀ digits : List Char,
      UInt32.size ≤ Nat.ofDigitChars 10 digits 0 →
        ¬IsStepAttribute (word ++ "-" ++ String.ofList digits) := by
  intro after registry ids
  obtain ⟨⟨new, made, registration⟩, same⟩ := collectAll_registration page nodes {}
  have registered : Registration page 1 (attributesOf nodes) (attributesOf after) new :=
    registration
  have registry_eq : registry = StepRegistry.extend {} new := made
  have entries_eq : registry.entries = new := by rw [registry_eq]; rfl
  have ids_eq : new.map StepEntry.id = ids := by
    rw [registered.ids, ← registered.length_filter_before, ← steppedOf]
  have last : IsLastStep (fun n => ∃ entry ∈ new, n ∈ entry.steps.keys) registry.maxStep := by
    rw [registry_eq]
    exact isLastStep_maxStep new
  have last_after := last.congr fun n _ => registered.exists_mem_keys_iff n
  have last_before := last_after.congr fun n pos => registered.exists_hasStep_iff pos
  rw [entries_eq]
  refine ⟨⟨ids_eq, ?_⟩, registered.changes, same, last_before, last_after, last,
    fun word known digits large => not_isStepAttribute_of_le known large⟩
  rw [steppedOf, registered.marks, ← ids_eq, List.map_map]
  rfl

/-- The classes of the `k`-th element with step keys. Its entry has a class list for each step that
its keys name behind the pass, and for no other step. The list is the text of one key that names the
step: of the bare key, if there is one and it names the step, and else of the last one. So no class
is lost at a step that a single key names. -/
theorem registered_classes (page : Nat) (nodes : List Node) {k : Nat} {marked : Attributes}
    (shown : (steppedOf (collectSteps page nodes).1)[k]? = some marked) :
    ∃ attrs entry, (steppedOf nodes)[k]? = some attrs ∧
      (collectSteps page nodes).2.entries[k]? = some entry ∧
      marked.get? "data-step-id" = some (.text entry.id) ∧
      (∀ n, (entry.steps.get? n).isSome = true ↔ HasStep marked n) ∧
      (∀ key n, IsBare attrs key → NamesStep key n →
        entry.steps.get? n = some (textAt marked key)) ∧
      (∀ n, (∀ key, IsBare attrs key → ¬NamesStep key n) →
        entry.steps.get? n = (namers marked n).getLast?.map (textAt marked)) ∧
      ∀ key n, namers marked n = [key] → entry.steps.get? n = some (textAt marked key) := by
  obtain ⟨⟨new, made, registration⟩, -⟩ := collectAll_registration page nodes {}
  have entries_eq : (collectSteps page nodes).2.entries = new := by
    rw [collectSteps, made]
    rfl
  obtain ⟨rows, before_rows, after_rows, entry_rows, each⟩ := registration.rows
  rw [collectSteps, steppedOf, after_rows, List.getElem?_map, Option.map_eq_some_iff] at shown
  obtain ⟨⟨attrs, found, entry⟩, row, found_eq⟩ := shown
  obtain rfl : found = marked := found_eq
  have registers : Registers attrs found entry := each _ (List.mem_of_getElem? row)
  refine ⟨attrs, entry, ?_, ?_, registers.id, fun n => ?_, registers.bare, registers.last,
    fun key n only => ?_⟩
  · rw [steppedOf, before_rows, List.getElem?_map, row, Option.map_some]
  · rw [entries_eq, entry_rows, List.getElem?_map, row, Option.map_some]
  · rw [← Dict.mem_keys_iff, registers.mem_keys_iff]
  · by_cases own : ∃ key, IsBare attrs key ∧ NamesStep key n
    · obtain ⟨bareKey, bare, names⟩ := own
      have member : bareKey ∈ namers found n :=
        mem_namers.mpr ⟨registers.frame.keys.subset bare.mem_keys, names⟩
      rw [only, List.mem_singleton] at member
      rw [registers.bare bareKey n bare names, member]
    · rw [registers.last n fun other bare names => own ⟨other, bare, names⟩, only,
        List.getLast?_singleton, Option.map_some]

/-- The attributes of a block with class lists for its steps, two of them for the same step. -/
def steppedAttributes : Attributes :=
  ⟨[("click-2", .text "fade in"), ("step-3", .flag true), ("click-03", .text "x y")]⟩

/-- A block with class lists around a paragraph with a bare key. -/
def steppedBlock : List Node :=
  [.element "div" steppedAttributes
    [.element "p" ⟨[("step-1", .flag true)]⟩ [.text "shown later"] false] false]

theorem registered_classes_steppedBlock :
    let registry := (collectSteps 1 steppedBlock).2
    let block := steppedAttributes.insert "data-step-id" (.text "p1-s1")
    let paragraph : Attributes :=
      ⟨[("step-1", .text "opacity-100"), ("step-0", .text "opacity-0"),
        ("class", .text "opacity-0"), ("data-step-id", .text "p1-s2")]⟩
    (steppedOf (collectSteps 1 steppedBlock).1)[0]? = some block ∧
      (steppedOf (collectSteps 1 steppedBlock).1)[1]? = some paragraph ∧
      (∃ entry, registry.entries[0]? = some entry ∧ entry.steps.get? 2 = some "fade in" ∧
        entry.steps.get? 3 = some "x y") ∧
      ∃ entry, registry.entries[1]? = some entry ∧ entry.steps.get? 0 = some "opacity-0" ∧
        entry.steps.get? 1 = some "opacity-100" := by
  intro registry block paragraph
  have first : (steppedOf (collectSteps 1 steppedBlock).1)[0]? = some block := by decide +kernel
  have second : (steppedOf (collectSteps 1 steppedBlock).1)[1]? = some paragraph := by
    decide +kernel
  refine ⟨first, second, ?_, ?_⟩
  · obtain ⟨attrs, entry, before, held, -, -, -, last, only⟩ :=
      registered_classes 1 steppedBlock first
    refine ⟨entry, held, only "click-2" 2 (by decide), ?_⟩
    have before_eq : (steppedOf steppedBlock)[0]? = some steppedAttributes := by decide +kernel
    obtain rfl := Option.some_inj.mp (before.symm.trans before_eq)
    have literal : ∀ key, ¬IsBare steppedAttributes key := by
      rintro key ⟨single, -⟩
      have three : (steppedAttributes.keys.filter fun key => ∃ n, NamesStep key n).length = 3 := by
        decide +kernel
      rw [single] at three
      cases three
    exact last 3 fun key bare => absurd bare (literal key)
  · obtain ⟨attrs, entry, before, held, -, -, -, last, only⟩ :=
      registered_classes 1 steppedBlock second
    exact ⟨entry, held, only "step-0" 0 (by decide), only "step-1" 1 (by decide)⟩

/-- Where two keys of an element name one step, the classes of the first are not registered. -/
theorem registered_classes_sameStep :
    let nodes := [.element "p" ⟨[("click-1", .text "a"), ("step-1", .text "b")]⟩ [] false]
    let marked : Attributes :=
      ⟨[("click-1", .text "a"), ("step-1", .text "b"), ("data-step-id", .text "p1-s1")]⟩
    steppedOf (collectSteps 1 nodes).1 = [marked] ∧ NamesStep "click-1" 1 ∧
      (collectSteps 1 nodes).2.entries.map (fun entry => entry.steps.get? 1) = [some "b"] ∧
      ['a'] ∈ Text.words (textAt marked "click-1").toList ∧ ['a'] ∉ Text.words "b".toList := by
  decide +kernel

end SlideDeck.Slide
