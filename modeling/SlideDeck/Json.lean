import SlideDeck.Decimal.Shortest

/-!
# Metadata values

The values that the header of a deck consists of: null, truth values, numbers, texts, arrays and
objects. A number is an exact integer or a finite floating point number.
-/

namespace SlideDeck

/-- A number of a metadata value. -/
inductive JsonNumber where
  /-- A whole number. -/
  | int (n : Int)
  /-- A floating point number. -/
  | float (x : Decimal.Binary64)
deriving DecidableEq, Repr, Inhabited

/-- The text of a number. -/
def JsonNumber.text : JsonNumber → String
  | int n => toString n
  | float x => x.text

/-- A metadata value. -/
inductive Json where
  /-- The absent value. -/
  | null
  /-- A truth value. -/
  | bool (b : Bool)
  /-- A number. -/
  | number (n : JsonNumber)
  /-- A text. -/
  | string (s : String)
  /-- A sequence of values. -/
  | array (items : List Json)
  /-- Values under keys; a key occurs once. -/
  | object (entries : List (String × Json))
deriving Repr, Inhabited

namespace Json

/-- The value of the first entry with a key. -/
def field? (entries : List (String × Json)) (key : String) : Option Json :=
  (entries.find? fun e => e.1 == key).map Prod.snd

/-- The text of a text value. -/
def text? : Json → Option String
  | string s => some s
  | _ => none

end Json

/-- The header of a deck: values under keys. -/
abbrev Metadata := List (String × Json)

end SlideDeck
