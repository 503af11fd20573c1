import Mathlib.Data.List.Induction
import Mathlib.Tactic.Common
import SlideDeck.Proofs.Slide.Offsets

/-!
# Targets of image words

Every word of an alternative text has one target: the part of the style that it says something
about. A word leaves all other parts alone and reads none of them (`writes_apply`), so a part is
what the words of its target make of it (`agrees_foldl`), and words of different targets may change
places (`parse_eq_of_sameTargets`). Offsets of different sides share a list, which is sorted at the
end.
-/

namespace SlideDeck.Slide

/-- The parts of an image style that words speak of. -/
inductive StyleTarget where
  /-- Filters. -/
  | filters
  /-- The fit. -/
  | fit
  /-- The place as a word. -/
  | position
  /-- Repetition as a word. -/
  | repetition
  /-- The horizontal place. -/
  | x
  /-- The vertical place. -/
  | y
  /-- The width. -/
  | width
  /-- The height. -/
  | height
  /-- Horizontal repetition. -/
  | repeatX
  /-- Vertical repetition. -/
  | repeatY
  /-- The size of a layer. -/
  | size
  /-- The offsets from a side. -/
  | offset (side : String)
  /-- Whether the image is a background layer. -/
  | background
  /-- Whether it is taken out of the flow. -/
  | absolute
  /-- Whether layers stack vertically. -/
  | vertical
  /-- Classes that pass through. -/
  | classes
  /-- Ids that pass through. -/
  | ids
  /-- Attributes that pass through. -/
  | attributes
deriving DecidableEq, Repr

/-- The target of a word without a value. -/
def StyleTarget.ofWord (key : String) : StyleTarget :=
  if fitWords.contains key then .fit
  else if positionWords.contains key then .position
  else if repeatWords.contains key then .repetition
  else if key = "bg" || key = "background" then .background
  else if key = "absolute" then .absolute
  else if key = "vertical" then .vertical
  else .attributes

/-- The target of a word with a value. -/
def StyleTarget.ofValue (key : String) : StyleTarget :=
  if key = "x" then .x
  else if key = "y" then .y
  else if key = "w" then .width
  else if key = "h" then .height
  else if key = "rx" then .repeatX
  else if key = "ry" then .repeatY
  else if key = "size" then .size
  else if offsetSides.contains key then .offset key
  else .attributes

/-- True of the name of a filter. -/
def isFilter (key : String) : Bool := filterDefaults.any fun f => f.1 = key

/-- The target of a token. -/
def StyleTarget.ofToken : Token → StyleTarget
  | .className _ => .classes
  | .idName _ => .ids
  | .pair key none => if isFilter key then .filters else .ofWord key
  | .pair key (some _) => if isFilter key then .filters else .ofValue key

/-- The tokens with a target, in order. -/
def tokensAt (target : StyleTarget) (tokens : List Token) : List Token :=
  tokens.filter fun token => StyleTarget.ofToken token = target

/-- For every target, two lists hold the same tokens in the same order. -/
def SameTargets (left right : List Token) : Prop :=
  ∀ target, tokensAt target left = tokensAt target right

theorem tokensAt_eq_nil {target : StyleTarget} {tokens : List Token}
    (absent : target ∉ tokens.map StyleTarget.ofToken) : tokensAt target tokens = [] :=
  List.filter_eq_nil_iff.mpr fun token member same =>
    absent (List.mem_map.mpr ⟨token, member, of_decide_eq_true same⟩)

/-- Only the targets that are met have to be compared. -/
theorem sameTargets_iff {left right : List Token} :
    SameTargets left right ↔
      ∀ target ∈ (left ++ right).map StyleTarget.ofToken,
        tokensAt target left = tokensAt target right := by
  refine ⟨fun same target _ => same target, fun same target => ?_⟩
  by_cases met : target ∈ (left ++ right).map StyleTarget.ofToken
  · exact same target met
  · rw [List.map_append, List.mem_append, not_or] at met
    rw [tokensAt_eq_nil met.1, tokensAt_eq_nil met.2]

instance (left right : List Token) : Decidable (SameTargets left right) :=
  decidable_of_iff _ sameTargets_iff.symm

/-- The offset from a side that a token gives. -/
def offsetAt? (side : String) : Token → Option (String × String)
  | .pair key (some value) => if key = side then some (side, value) else none
  | _ => none

namespace ImageStyle

/-- Two styles agree on a target. Offsets are compared for one side at a time. -/
def Agrees (target : StyleTarget) (s t : ImageStyle) : Prop :=
  match target with
  | .filters => s.filters = t.filters
  | .fit => s.fit = t.fit
  | .position => s.position = t.position
  | .repetition => s.repetition = t.repetition
  | .x => s.x = t.x
  | .y => s.y = t.y
  | .width => s.width = t.width
  | .height => s.height = t.height
  | .repeatX => s.repeatX = t.repeatX
  | .repeatY => s.repeatY = t.repeatY
  | .size => s.size = t.size
  | .offset side => s.offsets.filter (fun o => o.1 = side) = t.offsets.filter (fun o => o.1 = side)
  | .background => s.background = t.background
  | .absolute => s.absolute = t.absolute
  | .vertical => s.vertical = t.vertical
  | .classes => s.extra.classes = t.extra.classes
  | .ids => s.extra.ids = t.extra.ids
  | .attributes => s.extra.attrs = t.extra.attrs

theorem Agrees.refl (target : StyleTarget) (s : ImageStyle) : Agrees target s s := by
  cases target <;> rfl

theorem Agrees.symm {target : StyleTarget} {s t : ImageStyle} (agrees : Agrees target s t) :
    Agrees target t s := by
  cases target <;> exact Eq.symm agrees

theorem Agrees.trans {target : StyleTarget} {s t u : ImageStyle} (first : Agrees target s t)
    (second : Agrees target t u) : Agrees target s u := by
  cases target <;> exact Eq.trans first second

/-- A change of a target: it leaves all other targets alone, and what it makes of the target depends
on the target only. -/
structure Writes (target : StyleTarget) (change : ImageStyle → ImageStyle) : Prop where
  /-- Styles that agree on the target still do. -/
  own : ∀ s t, Agrees target s t → Agrees target (change s) (change t)
  /-- Every other target stays. -/
  frame : ∀ other, target ≠ other → ∀ s, Agrees other (change s) s

/-- A choice between two changes is a change of the target that is chosen with it. -/
theorem Writes.ite {p : Prop} [Decidable p] {left right : StyleTarget}
    {first second : ImageStyle → ImageStyle} (here : Writes left first)
    (there : Writes right second) :
    Writes (if p then left else right) fun s => if p then first s else second s := by
  by_cases chosen : p
  · simpa only [if_pos chosen] using here
  · simpa only [if_neg chosen] using there

/-! ## One token -/

/-- A key that passes through. -/
theorem writes_attribute (key : String) (value : Value) :
    Writes .attributes fun s =>
      { s with extra := { s.extra with attrs := s.extra.attrs.insert key value } } where
  own _ _ same := congrArg (fun a : Attributes => a.insert key value) same
  frame other ne s := by cases other <;> first | rfl | exact absurd rfl ne

/-- An offset goes behind those of its side, and leaves those of the other sides alone. -/
theorem writes_offset (side value : String) :
    Writes (.offset side) fun s => { s with offsets := s.offsets ++ [(side, value)] } where
  own s t same := by
    simp only [Agrees, List.filter_append] at same ⊢
    rw [same]
  frame other ne s := by
    cases other with
    | offset another =>
        have differs : side ≠ another := fun equal => ne (congrArg StyleTarget.offset equal)
        simp [Agrees, differs]
    | _ => rfl

theorem writes_applyWord (key : String) :
    Writes (StyleTarget.ofWord key) fun s => s.applyWord key := by
  unfold StyleTarget.ofWord applyWord
  refine .ite ?_ (.ite ?_ (.ite ?_ (.ite ?_ (.ite ?_ (.ite ?_
    (writes_attribute key (.flag true)))))))
  all_goals exact {
    own := fun _ _ _ => rfl
    frame := fun other ne s => by cases other <;> first | rfl | exact absurd rfl ne }

theorem writes_applyValue (key value : String) :
    Writes (StyleTarget.ofValue key) fun s => s.applyValue key value := by
  unfold StyleTarget.ofValue applyValue
  refine .ite ?_ (.ite ?_ (.ite ?_ (.ite ?_ (.ite ?_ (.ite ?_ (.ite ?_
    (.ite (writes_offset key value) (writes_attribute key (.text value)))))))))
  all_goals exact {
    own := fun _ _ _ => rfl
    frame := fun other ne s => by cases other <;> first | rfl | exact absurd rfl ne }

/-- A filter goes behind the others. -/
theorem writes_filter (filter : String) :
    Writes .filters fun s => { s with filters := s.filters ++ [filter] } where
  own _ _ same := congrArg (· ++ [filter]) same
  frame other ne s := by cases other <;> first | rfl | exact absurd rfl ne

theorem isFilter_eq (key : String) :
    isFilter key = (filterDefaults.find? fun f => f.1 = key).isSome :=
  List.isSome_find?.symm

/-- A key writes its target, with or without a value. -/
theorem writes_applyPair (key : String) (value : Option String) :
    Writes (StyleTarget.ofToken (.pair key value)) fun s => s.applyPair key value := by
  unfold applyPair
  cases found : filterDefaults.find? fun f => f.1 = key with
  | some filter =>
      have known : isFilter key = true := by rw [isFilter_eq, found, Option.isSome_some]
      have target : StyleTarget.ofToken (.pair key value) = .filters := by
        cases value <;> exact if_pos known
      rw [target]
      exact writes_filter _
  | none =>
      have unknown : ¬isFilter key = true := by simp [isFilter_eq, found]
      cases value with
      | none =>
          rw [StyleTarget.ofToken, if_neg unknown]
          exact writes_applyWord key
      | some value =>
          rw [StyleTarget.ofToken, if_neg unknown]
          exact writes_applyValue key value

/-- A token writes its target: it leaves all other targets alone and reads none of them. -/
theorem writes_apply (token : Token) :
    Writes (StyleTarget.ofToken token) fun s => s.apply token := by
  cases token with
  | className name => exact {
      own := fun _ _ same => congrArg (· ++ [name]) same
      frame := fun other ne s => by cases other <;> first | rfl | exact absurd rfl ne }
  | idName name => exact {
      own := fun _ _ same => congrArg (· ++ [name]) same
      frame := fun other ne s => by cases other <;> first | rfl | exact absurd rfl ne }
  | pair key value => exact writes_applyPair key value

/-! ## All tokens -/

/-- What tokens make of a target is what those with this target make of it. -/
theorem agrees_foldl (target : StyleTarget) (tokens : List Token) {s t : ImageStyle}
    (agrees : Agrees target s t) :
    Agrees target (tokens.foldl apply s) ((tokensAt target tokens).foldl apply t) := by
  induction tokens generalizing s t with
  | nil => exact agrees
  | cons token tokens ih =>
      have writes := writes_apply token
      by_cases same : StyleTarget.ofToken token = target
      · have first : tokensAt target (token :: tokens) = token :: tokensAt target tokens := by
          simp [tokensAt, same]
        rw [first]
        exact ih (same ▸ writes.own s t (same ▸ agrees))
      · have first : tokensAt target (token :: tokens) = tokensAt target tokens := by
          simp [tokensAt, same]
        rw [first]
        -- the token is left out on the right, where it would have changed nothing
        exact ih ((writes.frame target same s).trans agrees)

/-- Lists with the same tokens for every target make the same of every target. -/
theorem agrees_of_sameTargets {left right : List Token} (same : SameTargets left right)
    (target : StyleTarget) (s : ImageStyle) :
    Agrees target (left.foldl apply s) (right.foldl apply s) := by
  have here := agrees_foldl target left (.refl target s)
  have there := agrees_foldl target right (.refl target s)
  rw [same target] at here
  exact here.trans there.symm

/-- Styles that agree on every target are equal once their offsets are sorted. -/
theorem eq_of_agrees {s t : ImageStyle} (agrees : ∀ target, Agrees target s t)
    (s_known : ∀ o ∈ s.offsets, o.1 ∈ offsetSides) (t_known : ∀ o ∈ t.offsets, o.1 ∈ offsetSides) :
    { s with offsets := sortOffsets s.offsets } =
      { t with offsets := sortOffsets t.offsets } := by
  have offsets : sortOffsets s.offsets = sortOffsets t.offsets := by
    rw [sortOffsets_eq s_known, sortOffsets_eq t_known]
    exact List.flatMap_congr fun side _ => agrees (.offset side)
  have extra : s.extra = t.extra := by
    have entries : s.extra.attrs = t.extra.attrs := agrees .attributes
    have classes : s.extra.classes = t.extra.classes := agrees .classes
    have ids : s.extra.ids = t.extra.ids := agrees .ids
    have whole : (⟨s.extra.attrs, s.extra.classes, s.extra.ids⟩ : Bag) =
        ⟨t.extra.attrs, t.extra.classes, t.extra.ids⟩ := by rw [entries, classes, ids]
    exact whole
  rw [ImageStyle.mk.injEq]
  exact ⟨agrees .filters, agrees .fit, agrees .position, agrees .x, agrees .y, agrees .width,
    agrees .height, offsets, agrees .repetition, agrees .repeatX, agrees .repeatY, agrees .size,
    agrees .background, agrees .absolute, agrees .vertical, extra⟩

/-! ## Offsets -/

theorem ofWord_ne_offset (key side : String) : StyleTarget.ofWord key ≠ .offset side := by
  unfold StyleTarget.ofWord
  repeat'
    refine iteInduction (motive := fun t : StyleTarget => t ≠ .offset side) (fun _ => ?_)
      fun _ => ?_
  all_goals exact nofun

theorem eq_of_ofValue {key side : String} (target : StyleTarget.ofValue key = .offset side) :
    key = side ∧ side ∈ offsetSides := by
  revert target
  unfold StyleTarget.ofValue
  repeat'
    refine iteInduction
      (motive := fun t : StyleTarget => t = .offset side → key = side ∧ side ∈ offsetSides)
      (fun chosen => ?_) fun _ => ?_
  all_goals first
    | intro same
      obtain rfl := StyleTarget.offset.inj same
      exact ⟨rfl, List.contains_iff_mem.mp chosen⟩
    | exact nofun

/-- Only one of the four sides with a value has an offset as its target. -/
theorem eq_pair_of_target {side : String} {token : Token}
    (target : StyleTarget.ofToken token = .offset side) :
    side ∈ offsetSides ∧ ∃ value, token = .pair side (some value) := by
  rcases token with name | name | ⟨key, _ | value⟩
  · cases target
  · cases target
  · rw [StyleTarget.ofToken] at target
    split at target
    · cases target
    · exact absurd target (ofWord_ne_offset key side)
  · rw [StyleTarget.ofToken] at target
    split at target
    · cases target
    · obtain ⟨rfl, known⟩ := eq_of_ofValue target
      exact ⟨known, value, rfl⟩

theorem target_pair {side : String} (known : side ∈ offsetSides) (value : String) :
    StyleTarget.ofToken (.pair side (some value)) = .offset side := by
  have facts : ∀ side ∈ offsetSides,
      isFilter side = false ∧ StyleTarget.ofValue side = .offset side := by decide
  obtain ⟨no_filter, target⟩ := facts side known
  rw [StyleTarget.ofToken, no_filter, if_neg Bool.false_ne_true, target]

/-- A side with a value adds an offset. -/
theorem offsets_apply {side : String} (known : side ∈ offsetSides) (s : ImageStyle)
    (value : String) :
    (s.apply (.pair side (some value))).offsets = s.offsets ++ [(side, value)] := by
  simp only [offsetSides, List.mem_cons, List.not_mem_nil, or_false] at known
  rcases known with rfl | rfl | rfl | rfl <;> rfl

/-- The offsets from a side are those that the tokens give, in their order. -/
theorem offsets_foldl {side : String} (known : side ∈ offsetSides) (tokens : List Token) :
    (tokens.foldl apply {}).offsets.filter (fun o => o.1 = side) =
      tokens.filterMap (offsetAt? side) := by
  induction tokens using List.reverseRecOn with
  | nil => rfl
  | append_singleton tokens token ih =>
      rw [List.foldl_append, List.foldl_cons, List.foldl_nil, List.filterMap_append, ← ih]
      by_cases target : StyleTarget.ofToken token = .offset side
      · obtain ⟨-, value, rfl⟩ := eq_pair_of_target target
        rw [offsets_apply known, List.filter_append]
        simp [offsetAt?]
      · have nothing : offsetAt? side token = none := by
          rcases token with name | name | ⟨key, _ | value⟩
          · rfl
          · rfl
          · rfl
          · refine if_neg fun same => target ?_
            rw [same]
            exact target_pair known value
        have kept : Agrees (.offset side) ((tokens.foldl apply {}).apply token)
            (tokens.foldl apply {}) := (writes_apply token).frame _ target _
        rw [List.filterMap_cons, nothing]
        exact Eq.trans kept (List.append_nil _).symm

/-- A token adds no offset but from one of the four sides. -/
theorem known_apply {s : ImageStyle} (known : ∀ o ∈ s.offsets, o.1 ∈ offsetSides)
    (token : Token) : ∀ o ∈ (s.apply token).offsets, o.1 ∈ offsetSides := by
  intro o member
  by_cases target : StyleTarget.ofToken token = .offset o.1
  · exact (eq_pair_of_target target).1
  · have kept : Agrees (.offset o.1) (s.apply token) s := (writes_apply token).frame _ target s
    have inside : o ∈ (s.apply token).offsets.filter fun p => p.1 = o.1 :=
      List.mem_filter.mpr ⟨member, decide_eq_true rfl⟩
    rw [kept] at inside
    exact known o (List.mem_filter.mp inside).1

theorem known_foldl (tokens : List Token) :
    ∀ o ∈ (tokens.foldl apply {}).offsets, o.1 ∈ offsetSides := by
  induction tokens using List.reverseRecOn with
  | nil => simp
  | append_singleton tokens token ih =>
      rw [List.foldl_append]
      exact known_apply ih token

theorem offsets_parse (source : String) :
    (parse source).offsets =
      offsetSides.flatMap fun side => (tokenize source).filterMap (offsetAt? side) :=
  (sortOffsets_eq (known_foldl (tokenize source))).trans
    (List.flatMap_congr fun _ known => offsets_foldl known (tokenize source))

/-- Words of different targets may change places. Two annotations that hold the same tokens in the
same order for every target are read as the same style, so they give the same inline style, the
same background style, and are taken out of the flow alike. The offsets stand in the order top,
left, right, bottom, and those of one side in the order of their tokens; in this order they stand
together in the inline style, and what stands before and behind them gives other properties. -/
theorem parse_eq_of_sameTargets {left right : String}
    (same : SameTargets (tokenize left) (tokenize right)) :
    let offsets := ["top", "left", "right", "bottom"].flatMap fun side =>
      (tokenize left).filterMap (offsetAt? side)
    parse left = parse right ∧ (parse left).inlineStyle = (parse right).inlineStyle ∧
      (∀ url, (parse left).backgroundStyle url = (parse right).backgroundStyle url) ∧
      (parse left).isAbsolute = (parse right).isAbsolute ∧
      (parse left).offsets = offsets ∧
      ∃ before behind,
        (∀ part ∈ before ++ behind,
          ∃ name ∈ otherProperties, ∃ value, part = name ++ ": " ++ value) ∧
        let parts := before ++ offsets.map (fun o => o.1 ++ ": " ++ o.2) ++ behind
        (parse left).inlineStyle =
          if parts.isEmpty then none else some ("; ".intercalate parts) := by
  intro offsets
  have equal : parse left = parse right :=
    eq_of_agrees (fun target => agrees_of_sameTargets same target {}) (known_foldl (tokenize left))
      (known_foldl (tokenize right))
  have offsets_eq : (parse left).offsets = offsets := offsets_parse left
  obtain ⟨before, behind, others, style⟩ := exists_inlineStyle_eq (parse left)
  rw [offsets_eq] at style
  refine ⟨equal, congrArg _ equal, fun url => ?_, congrArg _ equal, offsets_eq, before, behind,
    others, style⟩
  rw [equal]

/-- Offsets of two sides among filters, sizes and classes. -/
theorem parse_eq_of_sameTargets_shuffled :
    SameTargets (tokenize "left:0 top:1em blur .a top:2em sepia w:3px")
        (tokenize "w:3px top:1em blur top:2em left:0 sepia .a") ∧
      parse "left:0 top:1em blur .a top:2em sepia w:3px" =
        parse "w:3px top:1em blur top:2em left:0 sepia .a" ∧
      (parse "left:0 top:1em blur .a top:2em sepia w:3px").offsets =
        [("top", "1em"), ("top", "2em"), ("left", "0")] ∧
      (parse "left:0 top:1em blur .a top:2em sepia w:3px").inlineStyle =
        some "filter: blur(10px) sepia(1); width: 3px; top: 1em; top: 2em; left: 0" := by
  have left : tokenize "left:0 top:1em blur .a top:2em sepia w:3px" =
      [.pair "left" (some "0"), .pair "top" (some "1em"), .pair "blur" none, .className "a",
        .pair "top" (some "2em"), .pair "sepia" none, .pair "w" (some "3px")] := by
    decide +kernel
  have right : tokenize "w:3px top:1em blur top:2em left:0 sepia .a" =
      [.pair "w" (some "3px"), .pair "top" (some "1em"), .pair "blur" none,
        .pair "top" (some "2em"), .pair "left" (some "0"), .pair "sepia" none,
        .className "a"] := by
    decide +kernel
  have same : SameTargets (tokenize "left:0 top:1em blur .a top:2em sepia w:3px")
      (tokenize "w:3px top:1em blur top:2em left:0 sepia .a") := by
    rw [left, right]
    decide +kernel
  obtain ⟨equal, -, -, -, offsets, -⟩ := parse_eq_of_sameTargets same
  have sorted : (parse "left:0 top:1em blur .a top:2em sepia w:3px").offsets =
      [("top", "1em"), ("top", "2em"), ("left", "0")] := by
    rw [offsets, left]
    decide +kernel
  have whole : parse "left:0 top:1em blur .a top:2em sepia w:3px" =
      { (tokenize "left:0 top:1em blur .a top:2em sepia w:3px").foldl apply {} with
        offsets := (parse "left:0 top:1em blur .a top:2em sepia w:3px").offsets } := rfl
  refine ⟨same, equal, sorted, ?_⟩
  rw [whole, sorted, left]
  decide +kernel

end ImageStyle

end SlideDeck.Slide
