import SlideDeck.Text.Blank

/-!
# Attributes

Values of attributes and directives, and the ordered attribute maps of slide elements. A map keeps
its keys in the order in which they were first inserted; `class` and `id` hold lists of words that
grow at their end.
-/

namespace SlideDeck

/-- The value of an attribute or a directive. -/
inductive Value where
  /-- A text, already without its quotes. -/
  | text (s : String)
  /-- A truth value; a bare word reads as `true`. -/
  | flag (b : Bool)
deriving DecidableEq, Repr, Inhabited

namespace Value

/-- The text of a text value. -/
def text? : Value → Option String
  | text s => some s
  | flag _ => none

/-- True when there is no explicit value: a truth value or the empty text. -/
def isFlag : Value → Bool
  | text s => s.isEmpty
  | flag _ => true

/-- True when the value switches its key on: a non-empty text or `true`. -/
def isTruthy : Value → Bool
  | text s => !s.isEmpty
  | flag b => b

end Value

/-- An attribute map in order of first insertion. -/
structure Attributes where
  /-- The entries in output order. -/
  entries : List (String × Value) := []
deriving DecidableEq, Repr, Inhabited

namespace Attributes

/-- The map without entries. -/
def empty : Attributes := ⟨[]⟩

/-- The number of entries. -/
def size (a : Attributes) : Nat := a.entries.length

/-- True when there is no entry. -/
def isEmpty (a : Attributes) : Bool := a.entries.isEmpty

/-- The value of the first entry with a key. -/
def find (key : String) : List (String × Value) → Option Value
  | [] => none
  | (k, v) :: rest => if k = key then some v else find key rest

/-- Sets a key in its place, or behind all others when it is new. -/
def place (key : String) (value : Value) : List (String × Value) → List (String × Value)
  | [] => [(key, value)]
  | (k, v) :: rest => if k = key then (k, value) :: rest else (k, v) :: place key value rest

/-- The entries without the first one of a key. -/
def drop (key : String) : List (String × Value) → List (String × Value)
  | [] => []
  | (k, v) :: rest => if k = key then rest else (k, v) :: drop key rest

/-- The value of a key. -/
def get? (a : Attributes) (key : String) : Option Value := find key a.entries

/-- The text of a key. -/
def getText? (a : Attributes) (key : String) : Option String := (a.get? key).bind Value.text?

/-- True when a key is present. -/
def contains (a : Attributes) (key : String) : Bool := (a.get? key).isSome

/-- The map with a key set to a value, in its old place if it had one. -/
def insert (a : Attributes) (key : String) (value : Value) : Attributes :=
  ⟨place key value a.entries⟩

/-- The map without a key. -/
def erase (a : Attributes) (key : String) : Attributes := ⟨drop key a.entries⟩

/-- The map of a list of entries, inserted from the left. -/
def ofList (entries : List (String × Value)) : Attributes :=
  entries.foldl (fun a e => a.insert e.1 e.2) empty

/-- Appends trimmed text to the word list stored under a key; blank text adds nothing. -/
def appendWords (a : Attributes) (key : String) (words : String) : Attributes :=
  let added := Text.trim words.toList
  if added.isEmpty then a
  else
    match a.getText? key with
    | some old =>
      if old.isEmpty then a.insert key (.text (String.ofList added))
      else a.insert key (.text (old ++ " " ++ String.ofList added))
    | none => a.insert key (.text (String.ofList added))

/-- Appends class names. -/
def addClass (a : Attributes) (names : String) : Attributes := a.appendWords "class" names

/-- Appends id names. -/
def addId (a : Attributes) (names : String) : Attributes := a.appendWords "id" names

end Attributes

/-- What one annotation says: attributes, and the class and id names written in shorthand. -/
structure Bag where
  /-- Attributes written as keys, explicit `class` and `id` included. -/
  attrs : Attributes := {}
  /-- Names of the shorthand class tokens in source order. -/
  classes : List String := []
  /-- Names of the shorthand id tokens in source order. -/
  ids : List String := []
deriving DecidableEq, Repr, Inhabited

/-- True when the annotation says nothing. -/
def Bag.isEmpty (bag : Bag) : Bool :=
  bag.attrs.isEmpty && bag.classes.isEmpty && bag.ids.isEmpty

namespace Attributes

/-- Merges one entry of an annotation: texts of `class` and `id` are appended, all else is set. -/
def mergeEntry (a : Attributes) (entry : String × Value) : Attributes :=
  match entry with
  | ("class", .text names) => a.addClass names
  | ("id", .text names) => a.addId names
  | (key, value) => a.insert key value

/-- Merges an annotation: its entries, then its shorthand classes, then its shorthand ids. -/
def merge (a : Attributes) (bag : Bag) : Attributes :=
  let a := bag.attrs.entries.foldl mergeEntry a
  let a := bag.classes.foldl addClass a
  bag.ids.foldl addId a

end Attributes

end SlideDeck
