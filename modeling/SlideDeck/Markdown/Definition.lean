import SlideDeck.Markdown.Passage
import SlideDeck.Markdown.Target

/-!
# Definitions

The definitions that the text of a paragraph starts with. A definition is a label, a colon, an
address and perhaps a title, and nothing behind them on their line.
-/

namespace SlideDeck.Markdown

/-- A definition as it is written. -/
structure Definition where
  /-- The label. -/
  label : List Char
  /-- The form of the label by which labels are compared. -/
  identifier : List Char
  /-- The target. -/
  target : Target
deriving Repr

/-- The text behind a line on which only white space is left. -/
def restOfLine? (s : List Char) : Option (List Char) :=
  match s.dropWhile isSpace with
  | [] => some []
  | c :: rest => (takeLineEnd? (c :: rest)).map Prod.snd

/-- A title behind white space, with nothing behind it on its line. -/
def titleLine? (s : List Char) : Option (List Char × List Char) :=
  match s with
  | [] => none
  | c :: _ =>
    if isSpaceOrLineEnd c then
      match title? (skipSpace s) with
      | some (title, rest) => (restOfLine? rest).map fun rest => (title, rest)
      | none => none
    else none

/-- The definition at the start of a passage, and the text behind its line. -/
def definition? (p : Passage) : Option (Definition × List Char) :=
  match p.text.dropWhile isSpace with
  | '[' :: inside =>
    match label? inside with
    | some (label, ':' :: rest) =>
      let identifier := identifierOf (onPage (p.behind inside).laterFronts label)
      match destination? p.text.length (skipSpace rest) with
      | some (url, rest) =>
        match titleLine? rest with
        | some (title, rest) => some (⟨label, identifier, .ofWritten url (some title)⟩, rest)
        | none =>
          (restOfLine? rest).map fun rest => (⟨label, identifier, .ofWritten url none⟩, rest)
      | none => none
    | _ => none
  | _ => none

/-- The definitions at the start of a passage, at most `fuel` of them, and the passage behind. -/
def definitionsFrom (fuel : Nat) (p : Passage) : List Definition × Passage :=
  match fuel with
  | 0 => ([], p)
  | fuel + 1 =>
    match definition? p with
    | some (d, rest) =>
      let (others, rest) := definitionsFrom fuel (p.behind rest)
      (d :: others, rest)
    | none => ([], p)

/-- The definitions at the start of the text of a paragraph, and the passage behind them. -/
def definitionsOf (p : Passage) : List Definition × Passage := definitionsFrom p.text.length p

end SlideDeck.Markdown
