import Mathlib.Tactic.Common
import SlideDeck.Slide.Render
import SlideDeck.Text.Entity

/-!
# Character references in markup

Text and attribute values of markup are read by replacing character references. Reading undoes
escaping (`decode_escapeChars`), and escaped text holds none of the characters that could end it.
-/

namespace SlideDeck.Markup

open Slide (escapeChar escapeChars escape)

/-- The characters that have a name in all markup. -/
def namedCharacters : List (List Char × Char) :=
  [("amp".toList, '&'), ("lt".toList, '<'), ("gt".toList, '>'), ("quot".toList, '"'),
    ("apos".toList, '\x27')]

/-- The character that a reference stands for, by what is written between its ampersand and its
semicolon: a name, or the code point in decimal or hexadecimal digits. -/
def referenceChar? (body : List Char) : Option Char :=
  match body with
  | '#' :: 'x' :: digits | '#' :: 'X' :: digits => (Text.natOfDigits? 16 digits).map Char.ofNat
  | '#' :: digits => (Text.natOfDigits? 10 digits).map Char.ofNat
  | name => (namedCharacters.find? fun e => e.1 = name).map Prod.snd

/-- Replaces references. `reference` holds what was read behind an ampersand that is open, the last
character first; what turns out to be no reference stays as it is written. -/
def decodeFrom : Option (List Char) → List Char → List Char
  | none, [] => []
  | none, c :: rest => if c = '&' then decodeFrom (some []) rest else c :: decodeFrom none rest
  | some reference, [] => '&' :: reference.reverse
  | some reference, c :: rest =>
    if c = ';' then
      match referenceChar? reference.reverse with
      | some d => d :: decodeFrom none rest
      | none => '&' :: reference.reverse ++ ';' :: decodeFrom none rest
    else if c = '&' then '&' :: reference.reverse ++ decodeFrom (some []) rest
    else decodeFrom (some (c :: reference)) rest

/-- The text that written text stands for. -/
def decode (s : List Char) : List Char := decodeFrom none s

/-- The escaped form of a character is read as that character, whatever follows. -/
theorem decode_escapeChar_append (c : Char) (rest : List Char) :
    decode (escapeChar c ++ rest) = c :: decode rest := by
  unfold escapeChar
  split
  case h_8 not_amp _ _ _ _ _ _ =>
    have plain : c ≠ '&' := not_amp
    simp only [decode, List.singleton_append, decodeFrom, plain, if_false]
  all_goals rfl

/-- Reading undoes escaping. -/
theorem decode_escapeChars (s : List Char) : decode (escapeChars s) = s := by
  induction s with
  | nil => rfl
  | cons c s ih => rw [escapeChars, List.flatMap_cons, decode_escapeChar_append, ← escapeChars, ih]

theorem escapeChars_append (s t : List Char) :
    escapeChars (s ++ t) = escapeChars s ++ escapeChars t := List.flatMap_append

theorem escape_append (s t : String) : escape (s ++ t) = escape s ++ escape t := by
  rw [escape, String.toList_append, escapeChars_append, escape, escape]

/-- True of the characters that open no tag, end no value and start no template expression. -/
def isInert (c : Char) : Bool :=
  !(c = '<' || c = '>' || c = '"' || c = '\x27' || c = '\x7b' || c = '\x7d')

theorem all_isInert_escapeChar (c : Char) : (escapeChar c).all isInert = true := by
  unfold escapeChar
  split
  case h_8 => simp_all [isInert]
  all_goals rfl

/-- Escaped text is inert. -/
theorem isInert_of_mem_escapeChars {s : List Char} {d : Char} (member : d ∈ escapeChars s) :
    isInert d = true := by
  obtain ⟨c, -, member⟩ := List.mem_flatMap.mp member
  exact List.all_eq_true.mp (all_isInert_escapeChar c) d member

theorem not_mem_escape {c : Char} (active : isInert c = false) (s : String) : c ∉ escape s :=
  fun member => Bool.false_ne_true (active.symm.trans (isInert_of_mem_escapeChars member))

end SlideDeck.Markup
