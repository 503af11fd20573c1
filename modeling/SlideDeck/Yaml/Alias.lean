import SlideDeck.Yaml.Node

/-!
# Aliases

A document without aliases: every alias gives way to the node of its anchor. Collections nest 128
deep at most, so a node that holds an alias of itself is refused. The number of aliases that may be
followed grows with the size of the document, so that a short document does not unfold to a huge one.
-/

namespace SlideDeck.Yaml

mutual

/-- The size of a node: one for a scalar or an alias, two for a collection besides its members. -/
def Node.size : Node → Nat
  | .scalar .. | .alias _ => 1
  | .sequence _ items => 2 + Node.sizeOfItems items
  | .mapping _ entries => 2 + Node.sizeOfEntries entries

/-- The size of several nodes. -/
def Node.sizeOfItems : List Node → Nat
  | [] => 0
  | n :: rest => Node.size n + Node.sizeOfItems rest

/-- The size of the keys and values of a mapping. -/
def Node.sizeOfEntries : List (Node × Node) → Nat
  | [] => 0
  | (k, v) :: rest => Node.size k + Node.size v + Node.sizeOfEntries rest

end

/-- The number of collections that may be nested in each other. -/
def maxDepth : Nat := 128

/-- A step that may fail and that knows how many aliases may still be followed. -/
abbrev Unfolder := StateT Nat Option

/-- The node itself, or for an alias the node of its anchor. -/
def Node.follow (anchored : List (Nat × Node)) : Node → Unfolder Node
  | .alias number => do
    match ← get with
    | 0 => failure
    | left + 1 =>
      set left
      match anchored.find? fun a => a.1 == number with
      | some (_, node) => pure node
      | none => failure
  | n => pure n

/-- A node without aliases. `depth` is the number of collections that may still be nested. -/
def Node.unfold (anchored : List (Nat × Node)) : Nat → Node → Unfolder Node
  | 0, n => do
    match ← n.follow anchored with
    | .scalar tag style text => pure (.scalar tag style text)
    | _ => failure
  | depth + 1, n => do
    match ← n.follow anchored with
    | .scalar tag style text => pure (.scalar tag style text)
    | .sequence tag items => return .sequence tag (← items.mapM (Node.unfold anchored depth))
    | .mapping tag entries =>
      return .mapping tag (← entries.mapM fun e => do
        let k ← Node.unfold anchored depth e.1
        let v ← Node.unfold anchored depth e.2
        pure (k, v))
    | .alias _ => failure

/-- The root of a document without aliases. A hundred times its size many aliases may be followed. -/
def Document.unfold? (d : Document) : Option Node :=
  ((d.root.unfold d.anchored maxDepth).run (100 * d.root.size)).map Prod.fst

end SlideDeck.Yaml
