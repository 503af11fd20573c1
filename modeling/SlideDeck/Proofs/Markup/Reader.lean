import SlideDeck.Proofs.Markup.Reference

/-!
# Reading markup

A reader of plain markup: start tags with bare names or with values in double quotes, tags that end
with `/>`, end tags and text. It takes one character after the other and refuses whatever is none of
these. Markup written from events is read as these events, with adjacent texts merged
(`readMarkup_write`).
-/

namespace SlideDeck.Markup

open Slide (escape escapeChars isAttributeName quoted)

/-- A start tag: its name, and its attributes in order, those of bare names without a value. -/
structure Tag where
  /-- The name. -/
  name : String
  /-- The attributes. -/
  attrs : List (String × Option String) := []
deriving DecidableEq, Repr

/-- What a reader finds in markup. -/
inductive Event where
  /-- A start tag. -/
  | opening (tag : Tag)
  /-- A tag that stands for a whole element. -/
  | single (tag : Tag)
  /-- An end tag. -/
  | closing (name : String)
  /-- Text. -/
  | text (s : String)
deriving DecidableEq, Repr

/-- Puts text in front of events, into the text that they start with if there is one; the empty text
is nothing. -/
def prependText (s : String) : List Event → List Event
  | .text t :: events => .text (s ++ t) :: events
  | events => if s = "" then events else .text s :: events

/-- Events with adjacent texts merged and empty texts left out. -/
def mergeTexts : List Event → List Event
  | [] => []
  | .text s :: events => prependText s (mergeTexts events)
  | event :: events => event :: mergeTexts events

/-! ## The reader -/

/-- True of the characters that stand between the parts of a tag. -/
def isTagSpace (c : Char) : Bool :=
  c = ' ' || c = '\t' || c = '\n' || c = '\x0c' || c = '\r'

/-- True of the characters of an attribute name. -/
def isNameChar (c : Char) : Bool :=
  !isTagSpace c && !(c = '"' || c = '\x27' || c = '>' || c = '/' || c = '=' || c = '<')

/-- What is being read. Characters are held with the last one first. -/
inductive Mode where
  /-- Text between tags. -/
  | content (read : List Char)
  /-- Behind the character that opens a tag. -/
  | tagStart
  /-- The name of a start tag. -/
  | tagName (read : List Char)
  /-- Between the attributes of a start tag. -/
  | gap (tag : Tag)
  /-- The name of an attribute. -/
  | attributeName (tag : Tag) (read : List Char)
  /-- Behind the equals sign of an attribute. -/
  | equals (tag : Tag) (name : String)
  /-- The value of an attribute. -/
  | value (tag : Tag) (name : String) (read : List Char)
  /-- Behind the quote that ends a value. -/
  | behindValue (tag : Tag)
  /-- Behind the slash at the end of a tag. -/
  | slash (tag : Tag)
  /-- The name of an end tag. -/
  | endName (read : List Char)

/-- The tag with an attribute behind the others. -/
def Tag.add (tag : Tag) (name : String) (value : Option String) : Tag :=
  { tag with attrs := tag.attrs ++ [(name, value)] }

/-- Reads a character behind a part of a start tag. -/
def Tag.leave (tag : Tag) (c : Char) : Option (List Event × Mode) :=
  if c = '>' then some ([.opening tag], .content [])
  else if c = '/' then some ([], .slash tag)
  else if isTagSpace c then some ([], .gap tag)
  else none

/-- The events of the text that was read. -/
def textEvents (read : List Char) : List Event :=
  prependText (String.ofList (decode read.reverse)) []

/-- Reads a character. -/
def step : Mode → Char → Option (List Event × Mode)
  | .content read, c =>
    if c = '<' then some (textEvents read, .tagStart) else some ([], .content (c :: read))
  | .tagStart, c =>
    if c = '/' then some ([], .endName [])
    else if c.isAlphanum then some ([], .tagName [c])
    else none
  | .tagName read, c =>
    if c.isAlphanum then some ([], .tagName (c :: read))
    else ({ name := String.ofList read.reverse } : Tag).leave c
  | .gap tag, c => if isNameChar c then some ([], .attributeName tag [c]) else tag.leave c
  | .attributeName tag read, c =>
    if isNameChar c then some ([], .attributeName tag (c :: read))
    else if c = '=' then some ([], .equals tag (String.ofList read.reverse))
    else (tag.add (String.ofList read.reverse) none).leave c
  | .equals tag name, c => if c = '"' then some ([], .value tag name []) else none
  | .value tag name read, c =>
    if c = '"' then
      some ([], .behindValue (tag.add name (some (String.ofList (decode read.reverse)))))
    else some ([], .value tag name (c :: read))
  | .behindValue tag, c => tag.leave c
  | .slash tag, c => if c = '>' then some ([.single tag], .content []) else none
  | .endName read, c =>
    if c.isAlphanum then some ([], .endName (c :: read))
    else if c = '>' ∧ read ≠ [] then
      some ([.closing (String.ofList read.reverse)], .content [])
    else none

/-- The events of characters, read from a mode on. Markup that ends within a tag is refused. -/
def readFrom : Mode → List Char → Option (List Event)
  | .content read, [] => some (textEvents read)
  | _, [] => none
  | mode, c :: rest =>
    (step mode c).bind fun (events, next) => (readFrom next rest).map (events ++ ·)

/-- The events of markup. -/
def readMarkup (s : String) : Option (List Event) := readFrom (.content []) s.toList

/-! ## The writer -/

/-- The markup of an attribute. -/
def writeAttribute : String × Option String → List Char
  | (name, some value) => quoted name value
  | (name, none) => ' ' :: name.toList

/-- The markup of a start tag up to its end. -/
def Tag.write (tag : Tag) : List Char :=
  '<' :: tag.name.toList ++ tag.attrs.flatMap writeAttribute

/-- The markup of an event. -/
def Event.write : Event → List Char
  | .opening tag => tag.write ++ ['>']
  | .single tag => tag.write ++ " />".toList
  | .closing name => ['<', '/'] ++ name.toList ++ ['>']
  | .text s => escape s

/-- True of a name that is read as the name of a tag. -/
def isTagName (name : String) : Bool := !name.isEmpty && name.toList.all Char.isAlphanum

/-- The names in a start tag are read as what they are. -/
def Tag.Legible (tag : Tag) : Prop :=
  isTagName tag.name = true ∧ ∀ e ∈ tag.attrs, isAttributeName e.1 = true

/-- The names in an event are read as what they are. -/
def Event.Legible : Event → Prop
  | .opening tag | .single tag => tag.Legible
  | .closing name => isTagName name = true
  | .text _ => True

/-! ## Merged texts -/

@[simp]
theorem prependText_empty (events : List Event) : prependText "" events = events := by
  unfold prependText
  split <;> simp

theorem prependText_prependText (s t : String) (events : List Event) :
    prependText s (prependText t events) = prependText (s ++ t) events := by
  cases events with
  | nil => by_cases empty : t = "" <;> simp [prependText, empty]
  | cons event events =>
      cases event with
      | text u => simp [prependText, String.append_assoc]
      | _ => by_cases empty : t = "" <;> simp [prependText, empty]

/-! ## Runs of the reader -/

theorem readFrom_cons {mode next : Mode} {c : Char} {events : List Event}
    (moved : step mode c = some (events, next)) (rest : List Char) :
    readFrom mode (c :: rest) = (readFrom next rest).map (events ++ ·) := by
  cases mode <;> simp [readFrom, moved]

theorem readFrom_quiet {mode next : Mode} {c : Char} (moved : step mode c = some ([], next))
    (rest : List Char) : readFrom mode (c :: rest) = readFrom next rest := by
  rw [readFrom_cons moved]
  simp

/-- Characters that a mode only collects are collected. -/
theorem readFrom_word (mode : List Char → Mode) {word : List Char}
    (collects : ∀ c ∈ word, ∀ read, step (mode read) c = some ([], mode (c :: read)))
    (read rest : List Char) :
    readFrom (mode read) (word ++ rest) = readFrom (mode (word.reverse ++ read)) rest := by
  induction word generalizing read with
  | nil => rfl
  | cons c word ih =>
      obtain ⟨here, later⟩ := List.forall_mem_cons.mp collects
      rw [List.cons_append, readFrom_quiet (here read), ih later, List.reverse_cons,
        List.append_assoc, List.singleton_append]

/-- A word whose characters a mode collects, once another mode has moved to it with the first. -/
theorem readFrom_started {start : Mode} (mode : List Char → Mode) {word : List Char}
    (nonempty : word ≠ []) (starts : ∀ c ∈ word, step start c = some ([], mode [c]))
    (collects : ∀ c ∈ word, ∀ read, step (mode read) c = some ([], mode (c :: read)))
    (rest : List Char) :
    readFrom start (word ++ rest) = readFrom (mode word.reverse) rest := by
  obtain ⟨first, others, rfl⟩ := List.exists_cons_of_ne_nil nonempty
  have moved := starts first List.mem_cons_self
  have later := (List.forall_mem_cons.mp collects).2
  rw [List.cons_append, readFrom_quiet moved, readFrom_word mode later, List.reverse_cons]

/-- Escaped text is collected as text. -/
theorem readFrom_escape (s : String) (read rest : List Char) :
    readFrom (.content read) (escape s ++ rest) =
      readFrom (.content ((escape s).reverse ++ read)) rest := by
  apply readFrom_word Mode.content
  intro c member read
  have no_tag : c ≠ '<' := ne_of_mem_of_not_mem member (not_mem_escape rfl s)
  rw [step, if_neg no_tag]

/-! ## Tags -/

/-- In the mode, a start tag is read up to what may follow: a space, a slash or its end. -/
def Reads (mode : Mode) (tag : Tag) : Prop :=
  ∀ c, c = ' ' ∨ c = '/' ∨ c = '>' → step mode c = tag.leave c

theorem toList_ne_nil_of_isAttributeName {name : String} (valid : isAttributeName name = true) :
    name.toList ≠ [] := by
  intro none
  rw [String.toList_eq_nil_iff.mp none] at valid
  cases valid

/-- The reader goes on with a name over every character that may stand in one. -/
theorem isNameChar_of_isAttributeName {name : String} (valid : isAttributeName name = true)
    {c : Char} (member : c ∈ name.toList) : isNameChar c = true := by
  rw [isAttributeName, Bool.and_eq_true, List.all_eq_true] at valid
  have allowed := valid.2 c member
  rw [Bool.and_eq_true, Bool.and_eq_true] at allowed
  have not_space : isTagSpace c = false := by
    by_contra space
    rw [Bool.not_eq_false] at space
    have blank : Text.isBlank c = true := by
      simp only [isTagSpace, Bool.or_eq_true, decide_eq_true_eq] at space
      obtain (((rfl | rfl) | rfl) | rfl) | rfl := space <;> rfl
    simp [blank] at allowed
  rw [isNameChar, not_space]
  exact allowed.2

/-- The name of an attribute is collected behind the blank in front of it. -/
theorem readFrom_name {mode : Mode} {tag : Tag} (reads : Reads mode tag) {name : String}
    (valid : isAttributeName name = true) (rest : List Char) :
    readFrom mode (' ' :: name.toList ++ rest) =
      readFrom (.attributeName tag name.toList.reverse) rest := by
  have blank : step mode ' ' = some ([], .gap tag) := reads ' ' (.inl rfl)
  have starts : ∀ c ∈ name.toList, step (.gap tag) c = some ([], .attributeName tag [c]) := by
    intro c member
    rw [step, if_pos (isNameChar_of_isAttributeName valid member)]
  have collects : ∀ c ∈ name.toList, ∀ read, step (.attributeName tag read) c =
      some ([], .attributeName tag (c :: read)) := by
    intro c member read
    rw [step, if_pos (isNameChar_of_isAttributeName valid member)]
  rw [List.cons_append, readFrom_quiet blank,
    readFrom_started _ (toList_ne_nil_of_isAttributeName valid) starts collects]

/-- Reading a written attribute adds it to the tag. -/
theorem readFrom_attribute {mode : Mode} {tag : Tag} (reads : Reads mode tag) {name : String}
    (valid : isAttributeName name = true) (value : Option String) :
    ∃ next, Reads next (tag.add name value) ∧
      ∀ rest, readFrom mode (writeAttribute (name, value) ++ rest) = readFrom next rest := by
  cases value with
  | none =>
      refine ⟨.attributeName tag name.toList.reverse, ?_, readFrom_name reads valid⟩
      -- a bare name ends where the tag may go on, so it needs no mode of its own
      intro c follows
      have ends : isNameChar c = false ∧ c ≠ '=' := by
        obtain rfl | rfl | rfl := follows <;> decide
      simp [step, ends]
  | some value =>
      refine ⟨.behindValue (tag.add name (some value)), fun c member => rfl, fun rest => ?_⟩
      have equals : step (.attributeName tag name.toList.reverse) '=' =
          some ([], .equals tag name) := by
        simp [step, isNameChar]
      have collects : ∀ c ∈ escape value, ∀ read, step (.value tag name read) c =
          some ([], .value tag name (c :: read)) := by
        intro c member read
        have no_quote : c ≠ '"' := ne_of_mem_of_not_mem member (not_mem_escape rfl value)
        rw [step, if_neg no_quote]
      have ends : step (.value tag name (escape value).reverse) '"' =
          some ([], .behindValue (tag.add name (some value))) := by
        simp [step, escape, decode_escapeChars]
      have shape : writeAttribute (name, some value) ++ rest =
          ' ' :: name.toList ++ '=' :: '"' :: (escape value ++ '"' :: rest) := by
        simp [writeAttribute, quoted]
      rw [shape, readFrom_name reads valid, readFrom_quiet equals, readFrom_quiet rfl,
        readFrom_word _ collects, List.append_nil, readFrom_quiet ends]

/-- Reading written attributes adds them to the tag in order. -/
theorem readFrom_attributes {attrs : List (String × Option String)}
    (valid : ∀ e ∈ attrs, isAttributeName e.1 = true) {mode : Mode} {tag : Tag}
    (reads : Reads mode tag) :
    ∃ next, Reads next { tag with attrs := tag.attrs ++ attrs } ∧
      ∀ rest, readFrom mode (attrs.flatMap writeAttribute ++ rest) = readFrom next rest := by
  induction attrs generalizing mode tag with
  | nil => exact ⟨mode, by simpa using reads, fun rest => rfl⟩
  | cons e attrs ih =>
      obtain ⟨here, later⟩ := List.forall_mem_cons.mp valid
      obtain ⟨middle, reads_middle, to_middle⟩ := readFrom_attribute reads here e.2
      obtain ⟨next, reads_next, to_next⟩ := ih later reads_middle
      refine ⟨next, by simpa [Tag.add] using reads_next, fun rest => ?_⟩
      rw [List.flatMap_cons, List.append_assoc, to_middle, to_next]

theorem isTagName_iff {name : String} :
    isTagName name = true ↔ name.toList ≠ [] ∧ ∀ c ∈ name.toList, c.isAlphanum = true := by
  simp [isTagName]

theorem readFrom_tagName {name : String} (legible : isTagName name = true) (rest : List Char) :
    readFrom .tagStart (name.toList ++ rest) = readFrom (.tagName name.toList.reverse) rest := by
  obtain ⟨nonempty, characters⟩ := isTagName_iff.mp legible
  have starts : ∀ c ∈ name.toList, step .tagStart c = some ([], .tagName [c]) := by
    intro c member
    have no_slash : c ≠ '/' := by
      rintro rfl
      cases characters '/' member
    rw [step, if_neg no_slash, if_pos (characters c member)]
  have collects : ∀ c ∈ name.toList, ∀ read, step (.tagName read) c =
      some ([], .tagName (c :: read)) := by
    intro c member read
    rw [step, if_pos (characters c member)]
  exact readFrom_started _ nonempty starts collects rest

/-- A written tag is read as that tag, up to its end. -/
theorem readFrom_tag {tag : Tag} (legible : tag.Legible) :
    ∃ next, Reads next tag ∧ ∀ read rest, readFrom (.content read) (tag.write ++ rest) =
      (readFrom next rest).map (textEvents read ++ ·) := by
  obtain ⟨name, attrs⟩ := tag
  obtain ⟨legible_name, valid⟩ := legible
  have reads_name : Reads (.tagName name.toList.reverse) { name } := by
    intro c follows
    have ends : c.isAlphanum = false := by
      obtain rfl | rfl | rfl := follows <;> decide
    simp [step, ends]
  obtain ⟨next, reads, to_next⟩ := readFrom_attributes valid reads_name
  refine ⟨next, reads, fun read rest => ?_⟩
  have starts : step (.content read) '<' = some (textEvents read, .tagStart) := rfl
  rw [Tag.write, List.cons_append, List.cons_append, readFrom_cons starts, List.append_assoc,
    readFrom_tagName legible_name, to_next]

/-- An event that is no text is read as that event, behind the text in front of it. -/
theorem readFrom_event {event : Event} (legible : event.Legible) (tagged : ∀ s, event ≠ .text s)
    (read rest : List Char) :
    readFrom (.content read) (event.write ++ rest) =
      (readFrom (.content []) rest).map (textEvents read ++ event :: ·) := by
  cases event with
  | opening tag =>
      obtain ⟨next, reads, to_next⟩ := readFrom_tag legible
      have ends : step next '>' = some ([.opening tag], .content []) := reads '>' (.inr (.inr rfl))
      rw [Event.write, List.append_assoc, to_next, List.singleton_append, readFrom_cons ends,
        Option.map_map]
      rfl
  | single tag =>
      obtain ⟨next, reads, to_next⟩ := readFrom_tag legible
      have blank : step next ' ' = some ([], .gap tag) := reads ' ' (.inl rfl)
      have ends : step (.slash tag) '>' = some ([.single tag], .content []) := rfl
      have shape : " />".toList ++ rest = ' ' :: '/' :: '>' :: rest := rfl
      rw [Event.write, List.append_assoc, to_next, shape, readFrom_quiet blank, readFrom_quiet rfl,
        readFrom_cons ends, Option.map_map]
      rfl
  | closing name =>
      obtain ⟨nonempty, characters⟩ := isTagName_iff.mp legible
      have starts : step (.content read) '<' = some (textEvents read, .tagStart) := rfl
      have collects : ∀ c ∈ name.toList, ∀ read, step (.endName read) c =
          some ([], .endName (c :: read)) := by
        intro c member read
        rw [step, if_pos (characters c member)]
      have ends : step (.endName name.toList.reverse) '>' =
          some ([.closing name], .content []) := by
        simp [step, String.toList_eq_nil_iff.not.mp nonempty]
      rw [Event.write, List.append_assoc, List.append_assoc, List.cons_append, List.cons_append,
        readFrom_cons starts, List.nil_append, readFrom_quiet rfl, readFrom_word _ collects,
        List.append_nil, List.singleton_append, readFrom_cons ends, Option.map_map]
      rfl
  | text s => exact absurd rfl (tagged s)

/-! ## Reading what was written -/

theorem textEvents_escape (s : String) :
    textEvents (escape s).reverse = prependText s [] := by
  rw [textEvents, List.reverse_reverse, escape, decode_escapeChars, String.ofList_toList]

theorem mergeTexts_cons {event : Event} (tagged : ∀ s, event ≠ .text s) (events : List Event) :
    mergeTexts (event :: events) = event :: mergeTexts events := by
  cases event with
  | text s => exact absurd rfl (tagged s)
  | _ => rfl

theorem prependText_cons (s : String) {event : Event} (tagged : ∀ s, event ≠ .text s)
    (events : List Event) :
    prependText s (event :: events) = prependText s [] ++ event :: events := by
  cases event with
  | text t => exact absurd rfl (tagged t)
  | _ => by_cases empty : s = "" <;> simp [prependText, empty]

/-- Written events are read as these events behind the text that was read before, with adjacent
texts merged. -/
theorem readFrom_write {events : List Event} (legible : ∀ event ∈ events, event.Legible)
    (s : String) :
    readFrom (.content (escape s).reverse) (events.flatMap Event.write) =
      some (prependText s (mergeTexts events)) := by
  -- `s` is the text since the last tag; a text moves the reader on, a tag gives that text off
  induction events generalizing s with
  | nil => rw [List.flatMap_nil, readFrom, textEvents_escape, mergeTexts]
  | cons event events ih =>
      obtain ⟨here, later⟩ := List.forall_mem_cons.mp legible
      rw [List.flatMap_cons]
      by_cases is_text : ∃ t, event = .text t
      · obtain ⟨t, rfl⟩ := is_text
        rw [Event.write, readFrom_escape, ← List.reverse_append, ← escape_append, ih later,
          mergeTexts, prependText_prependText]
      · have tagged : ∀ t, event ≠ .text t := not_exists.mp is_text
        have rest := ih later ""
        rw [prependText_empty] at rest
        rw [readFrom_event here tagged, mergeTexts_cons tagged, prependText_cons s tagged,
          textEvents_escape]
        exact congrArg (Option.map (prependText s [] ++ event :: ·)) rest

/-- Markup written from events is read as these events, with adjacent texts merged. -/
theorem readMarkup_write {events : List Event} (legible : ∀ event ∈ events, event.Legible) :
    readMarkup (String.ofList (events.flatMap Event.write)) = some (mergeTexts events) := by
  rw [readMarkup, String.toList_ofList, ← prependText_empty (mergeTexts events)]
  exact readFrom_write legible ""

end SlideDeck.Markup
