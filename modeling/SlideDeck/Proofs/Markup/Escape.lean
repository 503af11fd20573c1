import Mathlib.Data.List.Basic
import SlideDeck.Proofs.Markup.Reference

/-!
# Escaping

Escaping can be undone and leaves nothing active behind: the escaped text has none of the characters
that open a tag, end a value or start a template expression, and its ampersands start one of seven
references. It is the same whether it is done character by character or piece by piece, with an
encoder of quoted values for the pieces between braces (`escapeBy_reversible`).
-/

namespace SlideDeck.Markup

open Slide (escapeChar escapeChars)

/-- The references that escaping writes. -/
def references : List (List Char) :=
  ["&amp;", "&lt;", "&gt;", "&quot;", "&#x27;", "&#123;", "&#125;"].map String.toList

/-- True of the two characters around a template expression. -/
def isBrace (c : Char) : Bool := c = '\x7b' || c = '\x7d'

/-- The characters that a quoted value cannot have as they are. -/
def activeInValue : List Char := ['&', '<', '>', '"', '\x27']

/-- An encoder of quoted values writes five characters as references and copies all others. -/
def EncodesValues (encode : List Char → List Char) : Prop :=
  ∀ s, encode s = s.flatMap fun c => if c ∈ activeInValue then escapeChar c else [c]

/-- Escapes a text piece by piece: what stands in front of a brace is encoded by itself, and the
brace becomes a reference. -/
def escapeBy (encode : List Char → List Char) (s : List Char) : List Char :=
  match _cut : Text.cutAtFirst isBrace s with
  | none => encode s
  | some (before, brace, after) =>
    encode before ++
      ((if brace = '\x7b' then "&#123;".toList else "&#125;".toList) ++ escapeBy encode after)
termination_by s.length
decreasing_by
  rw [(Text.eq_of_cutAtFirst _cut).1, List.length_append, List.length_cons]
  omega

/-! ## Pieces -/

theorem not_isBrace_of_cutAtFirst {s : List Char} (uncut : Text.cutAtFirst isBrace s = none) :
    ∀ c ∈ s, isBrace c = false := by
  induction s with
  | nil => nofun
  | cons c s ih =>
      rw [Text.cutAtFirst] at uncut
      split_ifs at uncut with brace
      exact List.forall_mem_cons.mpr
        ⟨Bool.eq_false_iff.mpr brace, ih (Option.map_eq_none_iff.mp uncut)⟩

/-- A character that is neither a brace nor active in a value is copied. -/
theorem escapeChar_of_not_active {c : Char} (brace : isBrace c = false)
    (active : c ∉ activeInValue) : escapeChar c = [c] := by
  unfold escapeChar
  split
  case h_8 => rfl
  all_goals simp_all [isBrace, activeInValue]

/-- Encoding a text without braces escapes it. -/
theorem EncodesValues.eq_escapeChars {encode : List Char → List Char}
    (encodes : EncodesValues encode) {s : List Char} (free : ∀ c ∈ s, isBrace c = false) :
    encode s = escapeChars s := by
  rw [encodes, escapeChars]
  refine List.flatMap_congr fun c member => ?_
  split_ifs with active
  · rfl
  · exact (escapeChar_of_not_active (free c member) active).symm

theorem escapeChar_of_isBrace {c : Char} (brace : isBrace c = true) :
    escapeChar c = if c = '\x7b' then "&#123;".toList else "&#125;".toList := by
  rw [isBrace, Bool.or_eq_true, decide_eq_true_eq, decide_eq_true_eq] at brace
  rcases brace with rfl | rfl <;> rfl

/-- Escaping piece by piece is escaping character by character. -/
theorem escapeBy_eq_escapeChars {encode : List Char → List Char} (encodes : EncodesValues encode)
    (s : List Char) : escapeBy encode s = escapeChars s := by
  fun_induction escapeBy encode s with
  | case1 s cut => exact encodes.eq_escapeChars (not_isBrace_of_cutAtFirst cut)
  | case2 s before brace after cut ih =>
      obtain ⟨made, marked, free⟩ := Text.eq_of_cutAtFirst cut
      rw [made, escapeChars_append, encodes.eq_escapeChars free, ih, ← escapeChar_of_isBrace marked]
      rfl

/-! ## References -/

/-- An ampersand in the escaped form of a character starts it, and the form is a reference. -/
theorem escapeChar_ampersand {c : Char} {before after : List Char}
    (made : escapeChar c = before ++ '&' :: after) :
    before = [] ∧ escapeChar c ∈ references := by
  have alone : '&' ∉ (escapeChar c).tail := by
    unfold escapeChar
    split
    case h_8 => exact List.not_mem_nil
    all_goals decide
  constructor
  · cases before with
    | nil => rfl
    | cons first before =>
        rw [made, List.cons_append, List.tail_cons] at alone
        exact absurd (List.mem_append_right before List.mem_cons_self) alone
  · have member : '&' ∈ escapeChar c := by
      rw [made]
      exact List.mem_append_right before List.mem_cons_self
    revert member
    unfold escapeChar
    split
    case h_8 not_amp _ _ _ _ _ _ =>
      intro member
      exact absurd (List.mem_singleton.mp member).symm not_amp
    all_goals exact fun _ => by decide

/-- Every ampersand of an escaped text starts a reference. -/
theorem exists_reference {s before after : List Char}
    (made : escapeChars s = before ++ '&' :: after) : ∃ r ∈ references, r <+: '&' :: after := by
  induction s generalizing before with
  | nil => simp [escapeChars] at made
  | cons c s ih =>
      rw [escapeChars, List.flatMap_cons, ← escapeChars, List.append_eq_append_iff] at made
      obtain ⟨front, -, later⟩ | ⟨front, here, later⟩ := made
      · exact ih later
      · cases front with
        | nil =>
            have behind : escapeChars s = [] ++ '&' :: after := later.symm
            exact ih behind
        | cons d front =>
            rw [List.cons_append, List.cons.injEq] at later
            obtain ⟨rfl, rfl⟩ := later
            obtain ⟨rfl, reference⟩ := escapeChar_ampersand here
            refine ⟨_, reference, ?_⟩
            rw [here]
            exact List.prefix_append ('&' :: front) (escapeChars s)

/-- Escaping can be undone and leaves nothing active behind. Done piece by piece, with an encoder of
quoted values between braces, it is the same as character by character. The escaped text has none of
the characters that open a tag, end a value or start a template expression, each of its ampersands
starts one of seven references, it is read back as the text, and the escaped form of a text is made
of those of its parts. -/
theorem escapeBy_reversible {encode : List Char → List Char} (encodes : EncodesValues encode)
    (s t : List Char) :
    escapeBy encode s = escapeChars s ∧
    (∀ c ∈ escapeBy encode s, isInert c = true) ∧
    (∀ before after, escapeBy encode s = before ++ '&' :: after →
      ∃ r ∈ references, r <+: '&' :: after) ∧
    decode (escapeBy encode s) = s ∧
    escapeBy encode (s ++ t) = escapeBy encode s ++ escapeBy encode t := by
  simp only [escapeBy_eq_escapeChars encodes]
  exact ⟨trivial, fun _ => isInert_of_mem_escapeChars, fun _ _ => exists_reference,
    decode_escapeChars s, escapeChars_append s t⟩

/-- The form of a character in a quoted value. -/
def valueChar : Char → List Char
  | '&' => "&amp;".toList
  | '<' => "&lt;".toList
  | '>' => "&gt;".toList
  | '"' => "&quot;".toList
  | '\x27' => "&#x27;".toList
  | c => [c]

/-- The form of a text in a quoted value. -/
def encodeValue (s : List Char) : List Char := s.flatMap valueChar

theorem encodesValues_encodeValue : EncodesValues encodeValue := by
  have forms : valueChar = fun c => if c ∈ activeInValue then escapeChar c else [c] := by
    funext c
    unfold valueChar
    split
    case h_6 => simp_all [activeInValue]
    all_goals rfl
  intro s
  rw [encodeValue, forms]

/-- Braces, markup and text that looks like a reference. -/
theorem escapeBy_reversible_template :
    EncodesValues encodeValue ∧
      escapeBy encodeValue "a < \"\x7bb\x7d\" &lt;é".toList =
        "a &lt; &quot;&#123;b&#125;&quot; &amp;lt;é".toList ∧
      decode (escapeBy encodeValue "a < \"\x7bb\x7d\" &lt;é".toList) =
        "a < \"\x7bb\x7d\" &lt;é".toList := by
  obtain ⟨written, -, -, read, -⟩ :=
    escapeBy_reversible encodesValues_encodeValue "a < \"\x7bb\x7d\" &lt;é".toList []
  exact ⟨encodesValues_encodeValue, written.trans (by decide), read⟩

end SlideDeck.Markup
