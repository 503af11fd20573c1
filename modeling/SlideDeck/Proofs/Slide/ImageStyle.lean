import SlideDeck.Proofs.Attribute.Assignment
import SlideDeck.Slide.ImageStyle

/-!
# Words of alternative texts

A word of an alternative text says how the image is shown, or it passes through as an attribute.
What passes through is made by assignments alone (`extra_induction`), and a key that is no word of
style has the last value that the words assign to it (`get?_extra`).
-/

namespace SlideDeck.Slide.ImageStyle

/-- The words that give a place or a size. -/
def placeWords : List String := ["x", "y", "w", "h", "rx", "ry", "size"]

/-- The words that say whether an image is in the background, out of the flow or stacked. -/
def flagWords : List String := ["bg", "background", "absolute", "vertical"]

/-- The words that say how an image is shown. -/
def styleWords : List String :=
  filterDefaults.map Prod.fst ++ fitWords ++ positionWords ++ offsetSides ++ repeatWords ++
    placeWords ++ flagWords

/-- A pair is assigned as an attribute, or leaves the attributes alone. -/
theorem extra_applyPair (s : ImageStyle) (key : String) (value : Option String) :
    (s.applyPair key value).extra.attrs = s.extra.attrs ∨
      (s.applyPair key value).extra.attrs =
        s.extra.attrs.insert key (value.elim (.flag true) .text) := by
  unfold applyPair
  split
  · exact .inl rfl
  · cases value with
    | none =>
        dsimp only
        unfold applyWord
        split_ifs <;> first | exact .inl rfl | exact .inr rfl
    | some value =>
        dsimp only
        unfold applyValue
        split_ifs <;> first | exact .inl rfl | exact .inr rfl

/-- A pair whose key is no word of style is assigned. -/
theorem extra_applyPair_of_not_mem {key : String} (passes : key ∉ styleWords) (s : ImageStyle)
    (value : Option String) :
    (s.applyPair key value).extra.attrs =
      s.extra.attrs.insert key (value.elim (.flag true) .text) := by
  simp only [styleWords, List.mem_append, not_or] at passes
  obtain ⟨⟨⟨⟨⟨⟨filter, fit⟩, position⟩, offset⟩, repetition⟩, place⟩, flag⟩ := passes
  have no_filter : filterDefaults.find? (fun f => f.1 = key) = none :=
    List.find?_eq_none.mpr fun f member same =>
      filter (List.mem_map.mpr ⟨f, member, of_decide_eq_true same⟩)
  simp only [placeWords, flagWords, List.mem_cons, List.not_mem_nil, or_false, not_or] at place flag
  unfold applyPair
  rw [no_filter]
  cases value with
  | none => simp [applyWord, fit, position, repetition, flag]
  | some value => simp [applyValue, offset, place]

/-- The value of a key is the last one assigned to it, unless the key is a word of style. -/
theorem get?_apply {key : String} (passes : key ∉ styleWords) (s : ImageStyle) (token : Token) :
    (s.apply token).extra.attrs.get? key =
      (valuesAt key token.assignment?.toList).getLast?.or (s.extra.attrs.get? key) := by
  cases token with
  | className name => rfl
  | idName name => rfl
  | pair other value =>
      have step : s.apply (.pair other value) = s.applyPair other value := rfl
      rw [step]
      by_cases same : other = key
      · subst same
        rw [extra_applyPair_of_not_mem passes, Attributes.get?_insert, if_pos rfl]
        simp [Token.assignment?, valuesAt]
      · have kept : (s.applyPair other value).extra.attrs.get? key = s.extra.attrs.get? key := by
          rcases s.extra_applyPair other value with kept | set
          · rw [kept]
          · rw [set, Attributes.get?_insert, if_neg same]
        rw [kept]
        simp [Token.assignment?, valuesAt, same]

theorem extra_parse (source : String) :
    (parse source).extra = ((tokenize source).foldl apply {}).extra := by
  rw [parse]

/-- What holds of no attributes and stays true under assignments holds of what passes through. -/
theorem extra_induction {motive : Attributes → Prop} (empty : motive .empty)
    (insert : ∀ a (key : String) (value : Option String), motive a →
      motive (a.insert key (value.elim (.flag true) .text))) (source : String) :
    motive (parse source).extra.attrs := by
  rw [extra_parse]
  induction tokenize source using List.reverseRecOn with
  | nil => exact empty
  | append_singleton tokens token ih =>
      rw [List.foldl_append, List.foldl_cons, List.foldl_nil]
      cases token with
      | className name => exact ih
      | idName name => exact ih
      | pair key value =>
          rcases extra_applyPair (tokens.foldl apply {}) key value with same | set
          · exact same ▸ ih
          · exact set ▸ insert _ key value ih

theorem nodup_keys_extra (source : String) : (parse source).extra.attrs.keys.Nodup :=
  extra_induction (motive := fun a => a.keys.Nodup) List.nodup_nil
    (fun _ key _ distinct => Attributes.nodup_keys_insert distinct key _) source

/-- A key that is no word of style has the last value that the words assign to it. -/
theorem get?_extra {key : String} (passes : key ∉ styleWords) (source : String) :
    (parse source).extra.attrs.get? key =
      (valuesAt key ((tokenize source).filterMap Token.assignment?)).getLast? := by
  rw [extra_parse]
  induction tokenize source using List.reverseRecOn with
  | nil => rfl
  | append_singleton tokens token ih =>
      have last : [token].filterMap Token.assignment? = token.assignment?.toList := by
        cases assigned : token.assignment? <;> simp [assigned]
      rw [List.foldl_append, List.foldl_cons, List.foldl_nil, get?_apply passes, ih,
        List.filterMap_append, valuesAt_append, List.getLast?_append, last]

end SlideDeck.Slide.ImageStyle
