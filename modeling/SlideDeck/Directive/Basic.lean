import SlideDeck.Attribute.Basic
import SlideDeck.Dict

/-!
# Directives

A directive written on a page holds for that page and becomes part of the baseline of every later
page; a key that starts with an underscore assigns for its page only. The text `-` removes a
directive, `note` and `splitSize` never outlive their page, and the class texts assigned on one page
add up in source order.

A page starts from the baseline the page before it left (`PageDirectives.start`), takes assignments
(`assign`, `assignIn`, `apply`) and ends in its resolved directives (`resolved`) and the baseline of
the next page (`next`).
-/

namespace SlideDeck

/-- A set of resolved directives in key order. -/
abbrev DirectiveMap := Dict String Value

namespace DirectiveMap

/-- The text of a directive. -/
def getText? (d : DirectiveMap) (key : String) : Option String := (d.get? key).bind Value.text?

/-- The text of a directive, if it is not empty. -/
def getNonEmpty? (d : DirectiveMap) (key : String) : Option String :=
  (DirectiveMap.getText? d key).filter fun s => !s.isEmpty

/-- True when a directive is switched on. -/
def isEnabled (d : DirectiveMap) (key : String) : Bool :=
  match d.get? key with
  | some v => v.isTruthy
  | none => false

end DirectiveMap

/-- What an assignment does to its key. -/
inductive Assignment where
  /-- The key gets a value. -/
  | set (value : Value)
  /-- The key is removed. -/
  | unset
deriving DecidableEq, Repr

/-- How far an assignment reaches. -/
inductive Scope where
  /-- This page and every later one. -/
  | deck
  /-- This page only. -/
  | page
deriving DecidableEq, Repr

/-- The text that removes a directive. -/
def unsetText : String := "-"

/-- The keys that never carry over to the next page. -/
def pageOnlyKeys : List String := ["note", "splitSize"]

/-- The assignments made on the page that is being compiled, over the baseline it started from. -/
structure PageDirectives where
  /-- The directives the page before left. -/
  baseline : DirectiveMap
  /-- What this page assigned for itself and for the pages after it. -/
  deck : Dict String Assignment := {}
  /-- What this page assigned for itself only. -/
  page : Dict String Assignment := {}
  /-- The class texts assigned on this page in source order, whatever their scope. -/
  classes : List String := []
deriving Repr

namespace PageDirectives

/-- Carries out one assignment. -/
def perform (d : DirectiveMap) (entry : String × Assignment) : DirectiveMap :=
  match entry.2 with
  | .set value => d.insert entry.1 value
  | .unset => d.erase entry.1

/-- Carries out assignments in key order. -/
def performAll (d : DirectiveMap) (changes : Dict String Assignment) : DirectiveMap :=
  changes.entries.foldl perform d

/-- The assignments of a page that has made none. -/
def start (baseline : DirectiveMap) : PageDirectives := { baseline }

/-- The assignment of a value over what the same scope already assigned: a class text is appended
to a non-empty class text, and every other value replaces. -/
def combine (previous : Option Assignment) (key : String) (value : Value) : Assignment :=
  match previous, value with
  | some (.set (.text old)), .text new =>
    if key = "class" && !old.isEmpty then .set (.text (old ++ " " ++ new)) else .set value
  | _, _ => .set value

/-- The class texts of the page after a value is assigned to `class`: a text is appended, and a
flag or the unset text starts afresh. -/
def nextClasses (classes : List String) : Value → List String
  | .text s => if s = unsetText then [] else classes ++ [s]
  | .flag _ => []

/-- Assigns one directive in a scope; the keys that are for one page only stay on the page. -/
def assignIn (p : PageDirectives) (scope : Scope) (key : String) (value : Value) :
    PageDirectives :=
  let scope := if key ∈ pageOnlyKeys then .page else scope
  let p := if key = "class" then { p with classes := nextClasses p.classes value } else p
  let change := fun (changes : Dict String Assignment) =>
    if value = .text unsetText then changes.insert key .unset
    else changes.insert key (combine (changes.get? key) key value)
  match scope with
  | .deck => { p with deck := change p.deck }
  | .page => { p with page := change p.page }

/-- The scope and the bare key that a written key stands for: an underscore in front of more text
means this page only. -/
def scopeOf (key : String) : Scope × String :=
  match key.toList with
  | '_' :: c :: rest => (.page, String.ofList (c :: rest))
  | _ => (.deck, key)

/-- Assigns one directive in the scope that its key is written in. -/
def assign (p : PageDirectives) (key : String) (value : Value) : PageDirectives :=
  let (scope, key) := scopeOf key
  p.assignIn scope key value

/-- Applies an annotation: its entries, then its shorthand classes and ids as one text each. -/
def apply (p : PageDirectives) (bag : Bag) : PageDirectives :=
  let p := bag.attrs.entries.foldl (fun p e => p.assign e.1 e.2) p
  let p := if bag.classes.isEmpty then p else p.assign "class" (.text (" ".intercalate bag.classes))
  if bag.ids.isEmpty then p else p.assign "id" (.text (" ".intercalate bag.ids))

/-- The directives of the page: the baseline, then what was assigned for the deck, then what was
assigned for the page; the class is all class texts of the page, if there are any. -/
def resolved (p : PageDirectives) : DirectiveMap :=
  let d := performAll (performAll p.baseline p.deck) p.page
  if p.classes.isEmpty then d else d.insert "class" (.text (" ".intercalate p.classes))

/-- The baseline of the next page. -/
def next (p : PageDirectives) : DirectiveMap :=
  pageOnlyKeys.foldl (fun d key => d.erase key) (performAll p.baseline p.deck)

end PageDirectives

end SlideDeck
