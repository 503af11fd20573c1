import SlideDeck.Yaml.Scan

/-!
# Nodes of YAML

The tree that a token sequence describes: scalars, sequences and mappings with their tags, and aliases
of nodes that have an anchor. Anchors and aliases are known by numbers. An anchor takes the number of
names that were declared before it, its own counted when it was among them, and an alias takes the
number of the last anchor of its name. A number that several anchors have belongs to the last one.
-/

namespace SlideDeck.Yaml

/-- A node with its tag. -/
inductive Node where
  /-- A scalar. -/
  | scalar (tag : Option String) (style : Style) (text : String)
  /-- A sequence. -/
  | sequence (tag : Option String) (items : List Node)
  /-- A mapping: keys and values in source order. -/
  | mapping (tag : Option String) (entries : List (Node × Node))
  /-- The node of the anchor with a number once more. -/
  | alias (number : Nat)
deriving Inhabited

/-- A document. -/
structure Document where
  /-- The root. -/
  root : Node
  /-- The nodes with an anchor by their numbers, the one that was declared last coming first. -/
  anchored : List (Nat × Node)

/-- What a parser of nodes carries along. -/
structure Reading where
  /-- The tokens that follow. -/
  tokens : List Token
  /-- The declared tag handles with what they stand for. -/
  handles : List (List Char × List Char)
  /-- The declared names of anchors, each with the number of its last anchor. -/
  names : List (List Char × Nat) := []
  /-- The numbers of the anchors, the one that was declared last coming first. -/
  numbers : List Nat := []
  /-- The nodes with an anchor that are complete, each with the number of anchors in front of its
  own. -/
  done : List (Nat × Node) := []

/-- A step of reading that may fail. -/
abbrev Reader := StateT Reading Option

namespace Reader

/-- The next token. -/
def peek : Reader Token := do
  match (← get).tokens with
  | t :: _ => pure t
  | [] => failure

/-- Drops the next token. -/
def drop : Reader Unit := modify fun r => { r with tokens := r.tokens.drop 1 }

/-- The scalar that stands for an absent node. -/
def absent (tag : Option String := none) : Node := .scalar tag .plain ""

/-- The tag that a handle and a suffix stand for; a handle has to be declared. -/
def resolveTag (handle suffix : List Char) : Reader String := do
  if handle.isEmpty then pure (String.ofList suffix)
  else
    match (← get).handles.find? fun h => h.1 == handle with
    | some (_, start) => pure (String.ofList (start ++ suffix))
    | none => failure

/-- The anchor and the tag in front of a node, in either order. -/
def properties : Reader (Option (List Char) × Option String) := do
  match ← peek with
  | .anchor name =>
    drop
    match ← peek with
    | .tag handle suffix =>
      drop
      pure (some name, some (← resolveTag handle suffix))
    | _ => pure (some name, none)
  | .tag handle suffix =>
    drop
    match ← peek with
    | .anchor name =>
      drop
      pure (some name, some (← resolveTag handle suffix))
    | _ => pure (none, some (← resolveTag handle suffix))
  | _ => pure (none, none)

/-- Declares an anchor before its node is read, and gives the number of anchors in front of it. -/
def declare (name : List Char) : Reader Nat := do
  let r ← get
  let number := r.names.length
  set { r with
    names := (name, number) :: r.names.filter (fun n => n.1 != name), numbers := number :: r.numbers }
  pure r.numbers.length

/-- Records the node of an anchor, given the number of anchors in front of it. -/
def complete (place : Option Nat) (node : Node) : Reader Unit :=
  match place with
  | some n => modify fun r => { r with done := (n, node) :: r.done }
  | none => pure ()

/-- The alias of a name, which has to be declared. -/
def aliased (name : List Char) : Reader Node := do
  match (← get).names.find? fun n => n.1 == name with
  | some (_, number) => pure (.alias number)
  | none => failure

/-- A token that ends an entry of a block sequence that is not indented. -/
def endsEntry : Token → Bool
  | .blockEntry | .key | .value | .blockEnd => true
  | _ => false

/-- A token in front of which the key or the value of a block mapping is absent. -/
def endsMappingPart : Token → Bool
  | .key | .value | .blockEnd => true
  | _ => false

/-- The kinds of collections whose entries are read by one loop. -/
inductive Loop where
  /-- A block sequence. -/
  | blockItems
  /-- The items of a sequence that is indented like the mapping around it. -/
  | plainItems
  /-- The items of a flow sequence; the flag tells the first one. -/
  | flowItems (first : Bool)

mutual

/-- Reads a node. `block` admits block collections, and `plain` admits a sequence that is indented
like the mapping it stands in. -/
def node (block plain : Bool) : Nat → Reader Node
  | 0 => failure
  | fuel + 1 => do
    match ← peek with
    | .alias name =>
      drop
      aliased name
    | _ =>
      let (anchor, tag) ← properties
      let place ← match anchor with
        | some name => (declare name).map some
        | none => pure none
      let result ← content block plain (anchor.isSome || tag.isSome) tag fuel
      complete place result
      pure result

/-- Reads a node behind its anchor and its tag; `marked` tells that there was one of them. -/
def content (block plain marked : Bool) (tag : Option String) : Nat → Reader Node
  | 0 => failure
  | fuel + 1 => do
    match ← peek with
    | .scalar text style =>
      drop
      if tag == some "!" then pure (.scalar none style (String.ofList text))
      else pure (.scalar tag style (String.ofList text))
    | .flowSequenceStart =>
      drop
      return .sequence tag (← items (.flowItems true) fuel)
    | .flowMappingStart =>
      drop
      return .mapping tag (← flowEntries true fuel)
    | .blockEntry =>
      if plain then return .sequence tag (← items .plainItems fuel)
      else if marked then pure (absent tag) else failure
    | .blockSequenceStart =>
      if block then
        drop
        return .sequence tag (← items .blockItems fuel)
      else if marked then pure (absent tag) else failure
    | .blockMappingStart =>
      if block then
        drop
        return .mapping tag (← blockEntries fuel)
      else if marked then pure (absent tag) else failure
    | _ => if marked then pure (absent tag) else failure

/-- Reads the items of a sequence and the token that closes it. -/
def items (loop : Loop) : Nat → Reader (List Node)
  | 0 => failure
  | fuel + 1 => do
    match loop, ← peek with
    | .blockItems, .blockEntry =>
      drop
      let item ← match ← peek with
        | .blockEntry | .blockEnd => pure (absent)
        | _ => node true false fuel
      return item :: (← items loop fuel)
    | .blockItems, .blockEnd =>
      drop
      pure []
    | .blockItems, _ => failure
    | .plainItems, .blockEntry =>
      drop
      let item ← if endsEntry (← peek) then pure (absent) else node true false fuel
      return item :: (← items loop fuel)
    | .plainItems, _ => pure []
    | .flowItems _, .flowSequenceEnd =>
      drop
      pure []
    | .flowItems first, t =>
      if !first then
        if t == .flowEntry then drop else failure
      match ← peek with
      | .flowSequenceEnd =>
        drop
        pure []
      | .key =>
        drop
        let item ← flowPair fuel
        return item :: (← items (.flowItems false) fuel)
      | _ =>
        let item ← node false false fuel
        return item :: (← items (.flowItems false) fuel)

/-- Reads the single pair that a key inside a flow sequence makes a mapping of. -/
def flowPair : Nat → Reader Node
  | 0 => failure
  | fuel + 1 => do
    let k ← match ← peek with
      | .value | .flowEntry | .flowSequenceEnd => pure (absent)
      | _ => node false false fuel
    let v ← match ← peek with
      | .value =>
        drop
        match ← peek with
        | .flowEntry | .flowSequenceEnd => pure (absent)
        | _ => node false false fuel
      | _ => pure (absent)
    pure (.mapping none [(k, v)])

/-- Reads the entries of a flow mapping and the closing brace. -/
def flowEntries (first : Bool) : Nat → Reader (List (Node × Node))
  | 0 => failure
  | fuel + 1 => do
    let t ← peek
    if t == .flowMappingEnd then
      drop
      pure []
    else
      if !first then
        if t == .flowEntry then drop else failure
      match ← peek with
      | .flowMappingEnd =>
        drop
        pure []
      | .key =>
        drop
        let k ← match ← peek with
          | .value | .flowEntry | .flowMappingEnd => pure (absent)
          | _ => node false false fuel
        let v ← match ← peek with
          | .value =>
            drop
            match ← peek with
            | .flowEntry | .flowMappingEnd => pure (absent)
            | _ => node false false fuel
          | _ => pure (absent)
        return (k, v) :: (← flowEntries false fuel)
      | _ =>
        let k ← node false false fuel
        return (k, absent) :: (← flowEntries false fuel)

/-- Reads the entries of a block mapping and the token that closes it. -/
def blockEntries : Nat → Reader (List (Node × Node))
  | 0 => failure
  | fuel + 1 => do
    match ← peek with
    | .key =>
      drop
      let k ← if endsMappingPart (← peek) then pure (absent) else node true true fuel
      let v ← blockValue fuel
      return (k, v) :: (← blockEntries fuel)
    | .value =>
      let v ← blockValue fuel
      return (absent, v) :: (← blockEntries fuel)
    | .blockEnd =>
      drop
      pure []
    | _ => failure

/-- Reads the value of an entry of a block mapping, which may be absent. -/
def blockValue : Nat → Reader Node
  | 0 => failure
  | fuel + 1 => do
    match ← peek with
    | .value =>
      drop
      if endsMappingPart (← peek) then pure (absent) else node true true fuel
    | _ => pure (absent)

end

/-- The tag handles that need no declaration. -/
def defaultHandles : List (List Char × List Char) :=
  [(['!'], ['!']), (['!', '!'], "tag:yaml.org,2002:".toList)]

/-- Reads the directives in front of a document. A version is given once and is 1.1 or 1.2, and a
handle is declared once. -/
def directives : Nat → Bool → List (List Char × List Char) → Reader Unit
  | 0, _, _ => failure
  | fuel + 1, versioned, declared => do
    match ← peek with
    | .version major minor =>
      if versioned || major != 1 || (minor != 1 && minor != 2) then failure
      else
        drop
        directives fuel true declared
    | .tagDirective handle start =>
      if declared.any fun d => d.1 == handle then failure
      else
        drop
        directives fuel versioned ((handle, start) :: declared)
    | _ =>
      let rest := defaultHandles.filter fun d => !declared.any fun e => e.1 == d.1
      modify fun r => { r with handles := declared ++ rest }

/-- Drops the marks that end a document. -/
def dropEnds : Nat → Reader Unit
  | 0 => pure ()
  | fuel + 1 => do
    if (← peek) == .documentEnd then
      drop
      dropEnds fuel

/-- Reads a stream of one document. A stream without any content is an absent node, and one with a
second document is refused. -/
def document (fuel : Nat) : Reader Node := do
  let root ← do
    match ← peek with
    | .streamEnd => pure (absent)
    | .version _ _ | .tagDirective _ _ | .documentStart =>
      directives fuel false []
      if (← peek) == .documentStart then
        drop
        match ← peek with
        | .version _ _ | .tagDirective _ _ | .documentStart | .documentEnd | .streamEnd =>
          pure (absent)
        | _ => node true false fuel
      else failure
    | _ => node true false fuel
  dropEnds fuel
  if (← peek) == .streamEnd then pure root else failure

end Reader

/-- The complete nodes of anchors by the numbers of the anchors, which come in the same order. -/
def Reading.anchoredFrom (r : Reading) : List Nat → List (Nat × Node)
  | [] => []
  | number :: rest =>
    match r.done.find? fun d => d.1 == rest.length with
    | some (_, node) => (number, node) :: r.anchoredFrom rest
    | none => r.anchoredFrom rest

/-- The document of a stream, or nothing if the stream is malformed. -/
def parse? (stream : String) : Option Document := do
  let tokens ← tokens? stream.toList
  let reading : Reading := { tokens, handles := Reader.defaultHandles }
  let (root, r) ← (Reader.document (4 * tokens.length + 8)).run reading
  some { root, anchored := r.anchoredFrom r.numbers }

end SlideDeck.Yaml
