import SlideDeck.Dict
import SlideDeck.Slide.Node

/-!
# Reveal steps

An element takes part in the steps of its page through keys such as `click-2` or `step-2`, whose
values are the classes of that step. A single key without a value stands for an element that is
hidden at first and shown at its step. The stepped elements get ids in document order and are
registered with their classes by step.
-/

namespace SlideDeck.Slide

/-- The class of an element before its step. -/
def hiddenClass : String := "opacity-0"

/-- The class of an element from its step on. -/
def revealedClass : String := "opacity-100"

/-- The steps of one element. -/
structure StepEntry where
  /-- The id of the element. -/
  id : String
  /-- The classes by step. -/
  steps : Dict Nat String
deriving DecidableEq, Repr

/-- The stepped elements of a page. -/
structure StepRegistry where
  /-- The elements in document order. -/
  entries : List StepEntry := []
  /-- The greatest step. -/
  maxStep : Nat := 0
deriving DecidableEq, Repr, Inhabited

/-- The number of a step: decimal digits of a value below `2 ^ 32`. -/
def stepNumber? (digits : List Char) : Option Nat :=
  if digits.isEmpty || !digits.all Char.isDigit then none
  else
    let n := digits.foldl (fun n c => 10 * n + (c.toNat - 0x30)) 0
    if n < Nat.pow 2 32 then some n else none

/-- The word and the number of a step key. -/
def stepKey? (key : String) : Option (String × Nat) :=
  match Text.cutAtFirst (· = '-') key.toList with
  | some (word, _, digits) =>
    if word = "click".toList || word = "step".toList then
      (stepNumber? digits).map fun n => (String.ofList word, n)
    else none
  | none => none

/-- The step keys of an element: the key, its word and its number. -/
def stepKeys (attrs : Attributes) : List (String × String × Nat) :=
  attrs.entries.filterMap fun e => (stepKey? e.1).map fun (word, n) => (e.1, word, n)

/-- The classes of the steps of an element, its last key winning where two name one step. -/
def classesByStep (attrs : Attributes) (keys : List (String × String × Nat)) : Dict Nat String :=
  keys.foldl (fun d (key, _, n) => d.insert n ((attrs.getText? key).getD "")) Dict.empty

/-- The steps of an element and its attributes with a bare key spelled out; nothing for an element
without step keys. -/
def normalizeSteps (attrs : Attributes) : Option (Attributes × Dict Nat String) :=
  match stepKeys attrs with
  | [] => none
  | [(key, word, n)] =>
    if ((attrs.get? key).map Value.isFlag).getD false then
      let attrs := attrs.insert (word ++ "-0") (.text hiddenClass)
      let attrs := attrs.insert key (.text revealedClass)
      let attrs := attrs.addClass hiddenClass
      some (attrs, ((Dict.empty : Dict Nat String).insert 0 hiddenClass).insert n revealedClass)
    else some (attrs, classesByStep attrs [(key, word, n)])
  | keys => some (attrs, classesByStep attrs keys)

/-- The greatest step of an element. -/
def greatestStep (steps : Dict Nat String) : Nat := steps.keys.foldl max 0

/-- Registers the element with the given attributes, if it is stepped. -/
def registerSteps (page : Nat) (attrs : Attributes) (r : StepRegistry) :
    Attributes × StepRegistry :=
  match normalizeSteps attrs with
  | none => (attrs, r)
  | some (attrs, steps) =>
    let id := "p" ++ toString page ++ "-s" ++ toString (r.entries.length + 1)
    (attrs.insert "data-step-id" (.text id),
      { entries := r.entries ++ [{ id, steps }], maxStep := max r.maxStep (greatestStep steps) })

mutual

/-- Registers the stepped elements in a node, an element before the elements in it. -/
def collectIn (page : Nat) : Node → StepRegistry → Node × StepRegistry
  | .element tag attrs children transparent, r =>
    let (attrs, r) := registerSteps page attrs r
    let (children, r) := collectAll page children r
    (.element tag attrs children transparent, r)
  | other, r => (other, r)

/-- Registers the stepped elements in several nodes. -/
def collectAll (page : Nat) : List Node → StepRegistry → List Node × StepRegistry
  | [], r => ([], r)
  | n :: rest, r =>
    let (n, r) := collectIn page n r
    let (rest, r) := collectAll page rest r
    (n :: rest, r)

end

/-- Registers the stepped elements of a page. -/
def collectSteps (page : Nat) (nodes : List Node) : List Node × StepRegistry :=
  collectAll page nodes {}

end SlideDeck.Slide
