import SlideDeck.Json
import SlideDeck.Yaml.Alias

/-!
# The values of YAML nodes

The type of a plain scalar is read off its text: null, a truth value, an integer of 64 bits, a
floating point number or a text. A core tag forces a type, and a local tag wraps the value of its
node in an object. Keys become texts; a key that is null or a collection is refused, and so are two
equal keys of one mapping.
-/

namespace SlideDeck.Yaml

/-- The value of a scalar: a metadata value without collections, infinities and the number that is
none being kept apart. -/
inductive Atom where
  /-- The absent value. -/
  | null
  /-- A truth value. -/
  | bool (b : Bool)
  /-- A whole number. -/
  | int (n : Int)
  /-- A finite floating point number. -/
  | float (x : Decimal.Binary64)
  /-- A floating point value that is not finite. -/
  | notFinite
  /-- A text. -/
  | string (s : String)
deriving Repr

/-- The texts of null. -/
def isNullText (s : String) : Bool := s == "null" || s == "Null" || s == "NULL" || s == "~"

/-- The truth value that a text is. -/
def bool? (s : String) : Option Bool :=
  if s == "true" || s == "True" || s == "TRUE" then some true
  else if s == "false" || s == "False" || s == "FALSE" then some false
  else none

/-- The text behind one plus sign at its start. -/
def dropPlus : List Char → List Char
  | '+' :: rest => rest
  | s => s

/-- The text behind one sign at its start. -/
def dropSign : List Char → List Char
  | '+' :: rest | '-' :: rest => rest
  | s => s

/-- True of a text that starts with a sign. -/
def hasSign : List Char → Bool
  | '+' :: _ | '-' :: _ => true
  | _ => false

/-- True of digits that start with a superfluous zero; such a text is no number. -/
def isPaddedNumber (s : List Char) : Bool :=
  match dropSign s with
  | '0' :: c :: rest => (c :: rest).all Char.isDigit
  | _ => false

/-- The base that a number is written in and its digits, for a base named in front of them. -/
def basedDigits? : List Char → Option (Nat × List Char)
  | '0' :: 'x' :: rest => some (16, rest)
  | '0' :: 'o' :: rest => some (8, rest)
  | '0' :: 'b' :: rest => some (2, rest)
  | _ => none

/-- The natural number that a text with at most one plus sign is. -/
def nat? (s : List Char) : Option Nat :=
  let body := dropPlus s
  let decimal := if hasSign body || isPaddedNumber s then none else Text.natOfDigits? 10 body
  match basedDigits? body with
  | some (base, digits) => (Text.natOfDigits? base digits).orElse fun _ => decimal
  | none => decimal

/-- The natural number that a text with one minus sign is the negative of. -/
def negated? (s : List Char) : Option Nat :=
  match s with
  | '-' :: body =>
    let decimal := if isPaddedNumber s then none else Text.natOfDigits? 10 body
    match basedDigits? body with
    | some (base, digits) => (Text.natOfDigits? base digits).orElse fun _ => decimal
    | none => decimal
  | _ => none

/-- What a text is as an integer. -/
inductive IntReading where
  /-- No integer. -/
  | none
  /-- An integer that 64 bits hold. -/
  | value (n : Int)
  /-- An integer that only 128 bits hold; it has no value. -/
  | tooLarge

/-- Reads an integer. One that does not fit 128 bits is read as a floating point number later. -/
def readInt (s : List Char) : IntReading :=
  match nat? s, negated? s with
  | some n, _ =>
    if n < Nat.pow 2 64 then .value n else if n < Nat.pow 2 128 then .tooLarge else .none
  | none, some n =>
    if n ≤ Nat.pow 2 63 then .value (-(n : Int))
    else if n ≤ Nat.pow 2 127 then .tooLarge
    else .none
  | none, none => .none

/-- The exponent of a floating point number: nothing, or a mark with an optional sign and digits. -/
def exponent? : List Char → Option Int
  | [] => some 0
  | c :: rest =>
    if c = 'e' || c = 'E' then
      match rest with
      | '-' :: digits => (Text.natOfDigits? 10 digits).map fun n => -(n : Int)
      | '+' :: digits => (Text.natOfDigits? 10 digits).map fun n => (n : Int)
      | digits => (Text.natOfDigits? 10 digits).map fun n => (n : Int)
    else none

/-- The finite floating point number that a text without a sign is: digits, a point and digits, at
least one digit in all, and an exponent. -/
def unsignedFloat? (s : List Char) : Option Decimal.Binary64 := do
  let whole := s.takeWhile Char.isDigit
  let rest := s.dropWhile Char.isDigit
  let (fraction, rest) := match rest with
    | '.' :: rest => (rest.takeWhile Char.isDigit, rest.dropWhile Char.isDigit)
    | rest => ([], rest)
  let digits := whole ++ fraction
  let n ← Text.natOfDigits? 10 digits
  let e ← exponent? rest
  Decimal.Binary64.ofDecimal? n (e - fraction.length)

/-- What a text is as a floating point number. -/
def float? (s : List Char) : Option Atom :=
  let body := dropPlus s
  if body != s && hasSign body then none
  else
    let text := String.ofList body
    if text == ".inf" || text == ".Inf" || text == ".INF" then some .notFinite
    else
      let text := String.ofList s
      if text == "-.inf" || text == "-.Inf" || text == "-.INF" then some .notFinite
      else if text == ".nan" || text == ".NaN" || text == ".NAN" then some .notFinite
      else
        match body with
        | '-' :: rest => (unsignedFloat? rest).map fun x => .float x.neg
        | rest => (unsignedFloat? rest).map .float

/-- The value of a plain scalar without a tag. An integer that 64 bits do not hold is refused. -/
def plainAtom? (text : String) : Option Atom :=
  if text.isEmpty || isNullText text then some .null
  else
    match bool? text with
    | some b => some (.bool b)
    | none =>
      match readInt text.toList with
      | .value n => some (.int n)
      | .tooLarge => none
      | .none =>
        let number := if isPaddedNumber text.toList then none else float? text.toList
        some (number.getD (.string text))

/-- The start of the core tags. -/
def coreTag : String := "tag:yaml.org,2002:"

/-- The name of a local tag, which starts with an exclamation mark. -/
def localTag? (tag : Option String) : Option String :=
  match tag.map String.toList with
  | some ('!' :: c :: rest) => some (String.ofList ('!' :: c :: rest))
  | some ['!'] => some "!!"
  | _ => none

/-- The value of a scalar whose tag is not local. -/
def atom? (tag : Option String) (style : Style) (text : String) : Option Atom :=
  if tag == some (coreTag ++ "bool") then (bool? text).map .bool
  else if tag == some (coreTag ++ "int") then
    match readInt text.toList with
    | .value n => some (.int n)
    | _ => none
  else if tag == some (coreTag ++ "float") then float? text.toList
  else if tag == some (coreTag ++ "null") then if isNullText text then some .null else none
  else if tag.isNone && style == .plain then plainAtom? text
  else some (.string text)

/-- The value of a scalar, without regard to its tag. -/
def untaggedAtom? (style : Style) (text : String) : Option Atom :=
  if style == .plain then plainAtom? text else some (.string text)

/-- The metadata value of a scalar; values that are not finite have none. -/
def Atom.toJson : Atom → Json
  | null | notFinite => .null
  | bool b => .bool b
  | int n => .number (.int n)
  | float x => .number (.float x)
  | string s => .string s

/-- A key of a mapping, kept with its type as long as keys are compared. -/
inductive Key where
  /-- A text. -/
  | string (s : String)
  /-- A truth value. -/
  | bool (b : Bool)
  /-- A whole number. -/
  | int (n : Int)
  /-- A finite floating point number. -/
  | float (x : Decimal.Binary64)

namespace Key

/-- Equality of keys: of one type and with one value. -/
def same : Key → Key → Bool
  | string s, string t => s == t
  | bool a, bool b => a == b
  | int m, int n => m == n
  | float x, float y => x.sameNumber y
  | _, _ => false

/-- The text of a key. -/
def text : Key → String
  | string s => s
  | bool b => if b then "true" else "false"
  | int n => toString n
  | float x => x.text

/-- The key that a node is: a scalar that is neither null nor infinite. -/
def ofNode? : Node → Option Key
  | .scalar tag style text =>
    if (localTag? tag).isSome then none
    else
      match atom? tag style text with
      | some (.string s) => some (string s)
      | some (.bool b) => some (bool b)
      | some (.int n) => some (int n)
      | some (.float x) => some (float x)
      | _ => none
  | _ => none

end Key

/-- Puts a value under a key, in the place of an older value of the same key. -/
def setField (entries : List (String × Json)) (key : String) (value : Json) :
    List (String × Json) :=
  if entries.any fun e => e.1 == key then
    entries.map fun e => if e.1 == key then (key, value) else e
  else entries ++ [(key, value)]

/-- Wraps a value in the object that its local tag makes. -/
def wrapTag (tag : Option String) (value : Json) : Json :=
  match localTag? tag with
  | some name => .object [(name, value)]
  | none => value

mutual

/-- The metadata value of a node. An alias that was not followed has none. -/
def toJson? : Node → Option Json
  | .scalar tag style text =>
    if (localTag? tag).isSome then
      (untaggedAtom? style text).map fun a => wrapTag tag a.toJson
    else (atom? tag style text).map Atom.toJson
  | .sequence tag nodes => (itemsToJson? nodes).map fun vs => wrapTag tag (.array vs)
  | .mapping tag entries =>
    (entriesToJson? [] [] entries).map fun es => wrapTag tag (.object es)
  | .alias _ => none

/-- The values of the items of a sequence. -/
def itemsToJson? : List Node → Option (List Json)
  | [] => some []
  | n :: rest => do
    let v ← toJson? n
    let vs ← itemsToJson? rest
    some (v :: vs)

/-- The values of the entries of a mapping, given the keys and the values of the entries before. -/
def entriesToJson? (keys : List Key) (done : List (String × Json)) :
    List (Node × Node) → Option (List (String × Json))
  | [] => some done
  | (k, v) :: rest => do
    let key ← Key.ofNode? k
    let value ← toJson? v
    if keys.any key.same then none
    else entriesToJson? (key :: keys) (setField done key.text value) rest

end

/-- The metadata value of a stream of one document, or nothing if it is malformed or has a value
that metadata cannot hold. -/
def read? (stream : String) : Option Json := do
  let document ← parse? stream
  toJson? (← document.unfold?)

/-- The reading of streams, with words for what is wrong with those that are refused. -/
def reader (explain : String → String) (stream : String) : Except String Json :=
  match read? stream with
  | some value => .ok value
  | none => .error (explain stream)

/-- The reading that refuses without a word. -/
def wordless : String → Except String Json := reader fun _ => ""

end SlideDeck.Yaml
