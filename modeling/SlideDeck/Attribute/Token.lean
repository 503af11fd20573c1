import SlideDeck.Attribute.Basic

/-!
# Annotations

An annotation is the body of a comment, the words behind the language of a code fence, or the tail
of the alternative text of an image. It is cut into pieces at blank characters outside quotes
(`pieces`), and each piece is classified:

* `.a` and `.a.b` are class names, `#a` is an id name;
* `key=value` and `key:value` set a key, the first separator counting;
* `key` alone is a flag;
* a piece that is a key and a separator only takes the next piece as its value, unless that piece
  is a class, an id or a pair itself.

A key is a letter or an underscore followed by letters, digits, hyphens and underscores, all of
them ASCII. Pieces that fit none of these forms say nothing; reading never fails.
-/

namespace SlideDeck

/-- A classified part of an annotation. -/
inductive Token where
  /-- A class name. -/
  | className (name : String)
  /-- An id name. -/
  | idName (name : String)
  /-- A key with its value, or without one. -/
  | pair (key : String) (value : Option String)
deriving DecidableEq, Repr

namespace Token

/-- The two quote characters. -/
def isQuote (c : Char) : Bool := c = '"' || c = '\x27'

/-- The two characters between a key and its value. -/
def isSeparator (c : Char) : Bool := c = '=' || c = ':'

/-- ASCII letters and the underscore. -/
def isKeyStart (c : Char) : Bool := c.isAlpha || c = '_'

/-- ASCII letters and digits, the hyphen and the underscore. -/
def isKeyPart (c : Char) : Bool := c.isAlphanum || c = '-' || c = '_'

/-- True of a well-formed key. -/
def isKey : List Char → Bool
  | [] => false
  | c :: rest => isKeyStart c && rest.all isKeyPart

/-- Cuts at blank characters outside quotes. `quote` is the quote that is open and `piece` holds the
characters of the piece that is being read, the last one first. -/
def piecesFrom (quote : Option Char) (piece : List Char) : List Char → List (List Char)
  | [] => if piece.isEmpty then [] else [piece.reverse]
  | c :: rest =>
    match quote with
    | none =>
      if isQuote c then piecesFrom (some c) (c :: piece) rest
      else if Text.isBlank c then
        if piece.isEmpty then piecesFrom none [] rest
        else piece.reverse :: piecesFrom none [] rest
      else piecesFrom none (c :: piece) rest
    | some open_ => piecesFrom (if c = open_ then none else some open_) (c :: piece) rest

/-- The pieces of an annotation: its longest runs without a blank character outside quotes. -/
def pieces (s : List Char) : List (List Char) := piecesFrom none [] s

/-- A value without one quote at its start and one at its end. -/
def unquote (s : List Char) : List Char :=
  let s := match s with
    | c :: rest => if isQuote c then rest else s
    | [] => []
  match s.reverse with
  | c :: rest => if isQuote c then rest.reverse else s
  | [] => []

/-- The value written by a piece, or nothing if it is empty. -/
def value? (s : List Char) : Option String :=
  let v := unquote s
  if v.isEmpty then none else some (String.ofList v)

/-- True when a piece is a class, an id or a pair by itself. -/
def startsToken (piece : List Char) : Bool :=
  match piece with
  | '.' :: _ | '#' :: _ => true
  | _ =>
    match Text.cutAtFirst isSeparator piece with
    | some (key, _, _) => isKey key
    | none => false

/-- The tokens of a piece that stands for itself. -/
def classify (piece : List Char) : List Token :=
  match piece with
  | '.' :: names =>
    ((Text.splitAtEvery (· = '.') names).filter (fun n => !n.isEmpty)).map fun n =>
      .className (String.ofList n)
  | '#' :: name => if name.isEmpty then [] else [.idName (String.ofList name)]
  | _ =>
    match Text.cutAtFirst isSeparator piece with
    | some (key, _, value) => if isKey key then [.pair (String.ofList key) (value? value)] else []
    | none => if isKey piece then [.pair (String.ofList piece) none] else []

/-- The key of a piece that consists of a key and a final separator. -/
def openKey? (piece : List Char) : Option (List Char) :=
  match piece.reverse with
  | c :: key => if isSeparator c && isKey key.reverse then some key.reverse else none
  | [] => none

/-- The tokens of a sequence of pieces. -/
def ofPieces : List (List Char) → List Token
  | [] => []
  | [piece] => classify piece
  | piece :: next :: rest =>
    match openKey? piece with
    | some key =>
      if startsToken next then classify piece ++ ofPieces (next :: rest)
      else .pair (String.ofList key) (value? next) :: ofPieces rest
    | none => classify piece ++ ofPieces (next :: rest)

end Token

/-- The tokens of an annotation in source order. -/
def tokenize (source : String) : List Token :=
  Token.ofPieces (Token.pieces source.toList)

/-- Adds one token to what an annotation says; a key without a value is a flag. -/
def Bag.add (bag : Bag) : Token → Bag
  | .className name => { bag with classes := bag.classes ++ [name] }
  | .idName name => { bag with ids := bag.ids ++ [name] }
  | .pair key (some v) => { bag with attrs := bag.attrs.insert key (.text v) }
  | .pair key none => { bag with attrs := bag.attrs.insert key (.flag true) }

/-- What an annotation says. -/
def Bag.parse (source : String) : Bag := (tokenize source).foldl Bag.add {}

end SlideDeck
