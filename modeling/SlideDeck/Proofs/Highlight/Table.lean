import Mathlib.Tactic.Common
import SlideDeck.Highlight.Request

/-!
# The table of tried languages

A table that agrees with the highlighter only remembers its answers: resolving requests with it
gives what resolving each of them alone gives, and leaves a table that agrees again.
-/

namespace SlideDeck.Highlight

/-- True of a language that the highlighter loads. -/
def loads (h : Highlighter) (lang : String) : Bool :=
  match h.load lang with
  | .ok () => true
  | .error _ => false

/-- The table says of each language that it knows what the highlighter says. -/
def Agrees (h : Highlighter) (table : LanguageTable) : Prop :=
  ∀ lang available, table.get? lang = some available → available = loads h lang

theorem agrees_empty (h : Highlighter) : Agrees h Dict.empty := by
  intro lang available known
  simp at known

/-- Resolve one request without a table. -/
def resolveAlone (h : Highlighter) (r : Request) : Result :=
  if r.lang = plaintext ∨ loads h r.lang = true then
    { handle := r.handle, nodes := markup h r.code r.lang, used := r.lang, unknown := none }
  else
    { handle := r.handle, nodes := markup h r.code plaintext, used := plaintext
      unknown := some r.lang }

/-- Trying a language gives the answer of the highlighter, known before or not. -/
theorem ensure_of_agrees {h : Highlighter} {table : LanguageTable} (agrees : Agrees h table)
    (lang : String) :
    (ensure h table lang).1 = loads h lang ∧ Agrees h (ensure h table lang).2 := by
  unfold ensure
  cases known : table.get? lang with
  | some available => exact ⟨agrees lang available known, agrees⟩
  | none =>
      refine ⟨rfl, fun other available found => ?_⟩
      rw [Dict.get?_insert] at found
      split_ifs at found with same
      · rw [← same, ← Option.some.inj found]
        rfl
      · exact agrees other available found

theorem resolve_of_agrees {h : Highlighter} {table : LanguageTable} (agrees : Agrees h table)
    (r : Request) :
    (resolve h table r).1 = resolveAlone h r ∧ Agrees h (resolve h table r).2 := by
  obtain ⟨answer, still⟩ := ensure_of_agrees agrees r.lang
  unfold resolve resolveAlone
  by_cases plain : r.lang = plaintext
  · simp only [plain, if_true, true_or]
    exact ⟨trivial, agrees⟩
  · cases loaded : loads h r.lang <;> simp [plain, answer, loaded, still]

/-- Resolving requests in order with a table that agrees is resolving each of them alone. -/
theorem resolveAll_of_agrees {h : Highlighter} {table : LanguageTable} (agrees : Agrees h table)
    (requests : List Request) :
    (resolveAll h table requests).1 = requests.map (resolveAlone h) ∧
      Agrees h (resolveAll h table requests).2 := by
  induction requests generalizing table with
  | nil => exact ⟨rfl, agrees⟩
  | cons r rest ih =>
      obtain ⟨first, still⟩ := resolve_of_agrees agrees r
      obtain ⟨later, left⟩ := ih still
      simp only [resolveAll, List.map_cons, first, later]
      exact ⟨trivial, left⟩

/-! ## Any table -/

/-- Whether a language is available: what the table remembers, or else what the highlighter says. -/
def available (h : Highlighter) (table : LanguageTable) (lang : String) : Bool :=
  (table.get? lang).getD (loads h lang)

theorem fst_ensure (h : Highlighter) (table : LanguageTable) (lang : String) :
    (ensure h table lang).1 = available h table lang := by
  unfold ensure available
  cases table.get? lang <;> rfl

theorem get?_snd_ensure (h : Highlighter) (table : LanguageTable) (lang other : String) :
    (ensure h table lang).2.get? other =
      if lang = other then some (available h table lang) else table.get? other := by
  unfold ensure available
  cases known : table.get? lang with
  | some answer =>
      split_ifs with same
      · rw [← same, known, Option.getD_some]
      · rfl
  | none => exact Dict.get?_insert table lang other _

/-- Trying a language changes no answer. -/
theorem available_ensure (h : Highlighter) (table : LanguageTable) (lang other : String) :
    available h (ensure h table lang).2 other = available h table other := by
  rw [available, get?_snd_ensure]
  split_ifs with same
  · rw [← same, Option.getD_some]
  · rfl

theorem available_resolve (h : Highlighter) (table : LanguageTable) (r : Request)
    (lang : String) : available h (resolve h table r).2 lang = available h table lang := by
  unfold resolve
  split_ifs
  · rfl
  · exact available_ensure h table r.lang lang

end SlideDeck.Highlight
