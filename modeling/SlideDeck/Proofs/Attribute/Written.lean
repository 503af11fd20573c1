import SlideDeck.Proofs.Attribute.Pieces

/-!
# Writing annotations

The ways to write a token, and the annotations that write a list of tokens. Each way gives one piece
or two, which are read as the token whatever follows them (`ofPieces_spells`), so an annotation is
read as the tokens that it writes (`tokenize_written`).
-/

namespace SlideDeck

namespace Token

/-- A key may be written in front of a separator, with a value behind it. -/
structure Sets (key : List Char) (separator : Char) (value : List Char) : Prop where
  /-- The key is well-formed. -/
  key_valid : isKey key = true
  /-- The separator is one. -/
  separates : isSeparator separator = true
  /-- There is a value. -/
  value_ne : value ≠ []

/-- A text that is neither a class nor an id, and has no key in front of a separator. -/
structure Inert (value : List Char) : Prop where
  /-- It is not a class. -/
  not_class : value.head? ≠ some '.'
  /-- It is not an id. -/
  not_id : value.head? ≠ some '#'
  /-- What stands in front of its first separator is no key. -/
  not_pair : ∀ before separator after, value = before ++ separator :: after →
    (∀ c ∈ before, isSeparator c = false) → isSeparator separator = true → isKey before = false

/-- The ways to write a token. -/
inductive Spells : List Char → Token → Prop
  /-- A class name behind a dot. -/
  | className {name : List Char} (name_ne : name ≠ []) (plain : Plain name)
      (undotted : '.' ∉ name) : Spells ('.' :: name) (.className (String.ofList name))
  /-- An id name behind a number sign. -/
  | idName {name : List Char} (name_ne : name ≠ []) (plain : Plain name) :
      Spells ('#' :: name) (.idName (String.ofList name))
  /-- A key alone. -/
  | flag {key : List Char} (key_valid : isKey key = true) :
      Spells key (.pair (String.ofList key) none)
  /-- A key and its value in quotes. -/
  | quoted {key value : List Char} {separator quote : Char} (sets : Sets key separator value)
      (quotes : isQuote quote = true) (closed : quote ∉ value) :
      Spells (key ++ separator :: Token.quoted quote value)
        (.pair (String.ofList key) (some (String.ofList value)))
  /-- A key and its value without quotes. -/
  | bare {key value : List Char} {separator : Char} (sets : Sets key separator value)
      (plain : Plain value) :
      Spells (key ++ separator :: value)
        (.pair (String.ofList key) (some (String.ofList value)))
  /-- A key and, behind white space, its value in quotes. -/
  | spacedQuoted {key gap value : List Char} {separator quote : Char}
      (sets : Sets key separator value) (gap_ne : gap ≠ [])
      (blank : ∀ c ∈ gap, Text.isBlank c = true) (quotes : isQuote quote = true)
      (closed : quote ∉ value) :
      Spells (key ++ separator :: (gap ++ Token.quoted quote value))
        (.pair (String.ofList key) (some (String.ofList value)))
  /-- A key and, behind white space, its value without quotes. -/
  | spacedBare {key gap value : List Char} {separator : Char} (sets : Sets key separator value)
      (gap_ne : gap ≠ []) (blank : ∀ c ∈ gap, Text.isBlank c = true) (plain : Plain value)
      (inert : Inert value) :
      Spells (key ++ separator :: (gap ++ value))
        (.pair (String.ofList key) (some (String.ofList value)))

/-- The annotations that write a list of tokens: white space stands between any two. -/
inductive Written : List Char → List Token → Prop
  /-- No token. -/
  | nil : Written [] []
  /-- One token. -/
  | single {text : List Char} {token : Token} (spells : Spells text token) : Written text [token]
  /-- A token in front of others. -/
  | cons {text gap rest : List Char} {token next : Token} {tokens : List Token}
      (spells : Spells text token) (gap_ne : gap ≠ [])
      (blank : ∀ c ∈ gap, Text.isBlank c = true) (written : Written rest (next :: tokens)) :
      Written (text ++ (gap ++ rest)) (token :: next :: tokens)

/-! ## Keys -/

theorem isKeyPart_of_isKeyStart {c : Char} (start : isKeyStart c = true) : isKeyPart c = true := by
  rw [isKeyStart, Bool.or_eq_true] at start
  rcases start with letter | underscore
  · simp [isKeyPart, Char.isAlphanum, letter]
  · simp [isKeyPart, underscore]

theorem isKeyPart_of_isKey {key : List Char} (valid : isKey key = true) :
    ∀ c ∈ key, isKeyPart c = true := by
  cases key with
  | nil => simp [isKey] at valid
  | cons first rest =>
      rw [isKey, Bool.and_eq_true] at valid
      exact List.forall_mem_cons.mpr
        ⟨isKeyPart_of_isKeyStart valid.1, List.all_eq_true.mp valid.2⟩

theorem isSeparator_iff {c : Char} : isSeparator c = true ↔ c = '=' ∨ c = ':' := by
  rw [isSeparator, Bool.or_eq_true, decide_eq_true_eq, decide_eq_true_eq]

theorem isSeparator_of_isKeyPart {c : Char} (part : isKeyPart c = true) :
    isSeparator c = false := by
  by_contra separates
  rcases isSeparator_iff.mp (Bool.not_eq_false _ ▸ separates) with rfl | rfl
  · exact absurd part (by decide)
  · exact absurd part (by decide)

/-- The code points of the characters of a key. -/
theorem toNat_of_isKeyPart {c : Char} (part : isKeyPart c = true) :
    c.toNat = 45 ∨ 48 ≤ c.toNat ∧ c.toNat ≤ 57 ∨ 65 ≤ c.toNat ∧ c.toNat ≤ 90 ∨ c.toNat = 95 ∨
      97 ≤ c.toNat ∧ c.toNat ≤ 122 := by
  simp only [isKeyPart, Bool.or_eq_true, decide_eq_true_eq] at part
  rcases part with (letter | rfl) | rfl
  · have spelled : c.isAlphanum = (decide (c.val ≥ 'A'.val ∧ c.val ≤ 'Z'.val) ||
        (decide (c.val ≥ 'a'.val) && decide (c.val ≤ 'z'.val)) ||
        (decide (c.val ≥ '0'.val) && decide (c.val ≤ '9'.val))) := rfl
    simp only [spelled, Bool.or_eq_true, Bool.and_eq_true, decide_eq_true_eq, ge_iff_le,
      UInt32.le_iff_toNat_le, UInt32.reduceToNat, Char.reduceVal] at letter
    have code : c.toNat = c.val.toNat := rfl
    omega
  · decide
  · decide

theorem plain_of_isKeyPart {c : Char} (part : isKeyPart c = true) :
    Text.isBlank c = false ∧ isQuote c = false := by
  have code := toNat_of_isKeyPart part
  constructor
  · simp only [Text.isBlank, Bool.or_eq_false_iff, Bool.and_eq_false_iff, beq_eq_false_iff_ne,
      decide_eq_false_iff_not]
    omega
  · by_contra quotes
    rcases isQuote_iff.mp (Bool.not_eq_false _ ▸ quotes) with rfl | rfl
    · exact absurd part (by decide)
    · exact absurd part (by decide)

/-- No key holds a separator. -/
theorem isSeparator_of_isKey {key : List Char} (valid : isKey key = true) :
    ∀ c ∈ key, isSeparator c = false :=
  fun c member => isSeparator_of_isKeyPart (isKeyPart_of_isKey valid c member)

theorem plain_of_isKey {key : List Char} (valid : isKey key = true) : Plain key :=
  fun c member => plain_of_isKeyPart (isKeyPart_of_isKey valid c member)

theorem isKey_ne_nil {key : List Char} (valid : isKey key = true) : key ≠ [] := by
  rintro rfl
  cases valid

/-! ## Open pieces -/

/-- A piece is open when it is a key and a separator. -/
theorem openKey?_eq_some_iff {piece key : List Char} :
    openKey? piece = some key ↔
      isKey key = true ∧
        ∃ separator, isSeparator separator = true ∧ piece = key ++ [separator] := by
  unfold openKey?
  constructor
  · intro opened
    split at opened
    case h_1 c key' reversed =>
      split_ifs at opened with both
      rw [Bool.and_eq_true] at both
      obtain rfl := Option.some.inj opened
      refine ⟨both.2, c, both.1, ?_⟩
      rw [← List.reverse_cons, ← reversed, List.reverse_reverse]
    case h_2 => cases opened
  · rintro ⟨valid, separator, separates, rfl⟩
    simp [separates, valid]

/-- A text that does not start as a key does starts with none. -/
theorem isKey_of_append_eq {c : Char} (no_start : isKeyStart c = false) {name key rest : List Char}
    (same : key ++ rest = c :: name) : isKey key = false := by
  cases key with
  | nil => rfl
  | cons first tail =>
      rw [List.cons_append, List.cons.injEq] at same
      rw [isKey, same.1, no_start, Bool.false_and]

theorem openKey?_of_head {c : Char} (no_start : isKeyStart c = false) (name : List Char) :
    openKey? (c :: name) = none := by
  rw [Option.eq_none_iff_forall_ne_some]
  intro key opened
  obtain ⟨valid, separator, -, same⟩ := openKey?_eq_some_iff.mp opened
  rw [isKey_of_append_eq no_start same.symm] at valid
  cases valid

theorem openKey?_of_isKey {key : List Char} (valid : isKey key = true) : openKey? key = none := by
  rw [Option.eq_none_iff_forall_ne_some]
  intro front opened
  obtain ⟨-, separator, separates, rfl⟩ := openKey?_eq_some_iff.mp opened
  have inside : separator ∈ front ++ [separator] := by simp
  rw [isSeparator_of_isKey valid separator inside] at separates
  cases separates

/-- A piece with something behind a separator is not open, whatever it ends in. -/
theorem openKey?_of_append {key written : List Char} {separator : Char}
    (separates : isSeparator separator = true) (written_ne : written ≠ []) :
    openKey? (key ++ separator :: written) = none := by
  rw [Option.eq_none_iff_forall_ne_some]
  intro front opened
  obtain ⟨valid, last, -, same⟩ := openKey?_eq_some_iff.mp opened
  -- only the last character is taken off, so the separator stays in front of it
  obtain ⟨body, final, rfl⟩ : ∃ body final, written = body ++ [final] :=
    ⟨_, _, (List.dropLast_concat_getLast written_ne).symm⟩
  have front_eq : key ++ separator :: body = front := by
    rw [← List.cons_append, ← List.append_assoc] at same
    exact (List.append_inj' same rfl).1
  have inside : separator ∈ front := by simp [← front_eq]
  rw [isSeparator_of_isKey valid separator inside] at separates
  cases separates

/-! ## Values -/

theorem unquote_quoted {quote : Char} (quotes : isQuote quote = true) (value : List Char) :
    unquote (quoted quote value) = value := by
  simp [unquote, quoted, quotes]

theorem unquote_plain {value : List Char} (plain : Plain value) : unquote value = value := by
  cases value with
  | nil => rfl
  | cons c rest =>
      simp only [unquote, (plain c List.mem_cons_self).2, Bool.false_eq_true, if_false]
      split
      case h_1 last front reversed =>
        have member : last ∈ c :: rest :=
          List.mem_reverse.mp (reversed ▸ List.mem_cons_self)
        simp [(plain last member).2]
      case h_2 reversed => simp at reversed

theorem value?_of_unquote {written value : List Char} (unquoted : unquote written = value)
    (value_ne : value ≠ []) : value? written = some (String.ofList value) := by
  simp [value?, unquoted, value_ne]

/-- What is in quotes is never taken for a token. -/
theorem inert_quoted {quote : Char} (quotes : isQuote quote = true) (value : List Char) :
    Inert (quoted quote value) := by
  have either := isQuote_iff.mp quotes
  refine ⟨?_, ?_, fun before separator after same _ _ => ?_⟩
  · rcases either with rfl | rfl <;> simp [quoted]
  · rcases either with rfl | rfl <;> simp [quoted]
  · -- whatever stands in front of a separator starts with the quote
    have no_start : isKeyStart quote = false := by
      rcases either with rfl | rfl <;> rfl
    exact isKey_of_append_eq no_start same.symm

theorem startsToken_of_inert {value : List Char} (inert : Inert value) :
    startsToken value = false := by
  unfold startsToken
  split
  case h_1 => exact absurd rfl inert.not_class
  case h_2 => exact absurd rfl inert.not_id
  case h_3 =>
    cases cut : Text.cutAtFirst isSeparator value with
    | none => rfl
    | some parts =>
        obtain ⟨made, separates, free⟩ := Text.eq_of_cutAtFirst cut
        exact inert.not_pair parts.1 parts.2.1 parts.2.2 made free separates

/-! ## Tokens of pieces -/

theorem classify_of_cut {piece key written : List Char} {separator : Char}
    (valid : isKey key = true)
    (cut : Text.cutAtFirst isSeparator piece = some (key, separator, written)) :
    classify piece = [.pair (String.ofList key) (value? written)] := by
  obtain ⟨made, -⟩ := Text.eq_of_cutAtFirst cut
  unfold classify
  split
  case h_1 => simp [isKey_of_append_eq (c := '.') rfl made.symm] at valid
  case h_2 => simp [isKey_of_append_eq (c := '#') rfl made.symm] at valid
  case h_3 => simp [cut, valid]

theorem classify_key {key : List Char} (valid : isKey key = true) :
    classify key = [.pair (String.ofList key) none] := by
  unfold classify
  split
  case h_1 => cases valid
  case h_2 => cases valid
  case h_3 => simp [Text.cutAtFirst_of_forall (isSeparator_of_isKey valid), valid]

theorem classify_className {name : List Char} (name_ne : name ≠ []) (undotted : '.' ∉ name) :
    classify ('.' :: name) = [.className (String.ofList name)] := by
  have whole : Text.splitAtEvery (· = '.') name = [name] :=
    Text.splitAtEvery_of_forall fun c member => by
      simpa using fun dot : c = '.' => undotted (dot ▸ member)
  simp [classify, whole, name_ne]

theorem ofPieces_cons {piece : List Char} (shut : openKey? piece = none)
    (rest : List (List Char)) : ofPieces (piece :: rest) = classify piece ++ ofPieces rest := by
  cases rest with
  | nil => simp [ofPieces]
  | cons next rest => simp [ofPieces, shut]

/-- A key with its value behind the separator sets the key. -/
theorem ofPieces_joined {key value written : List Char} {separator : Char}
    (sets : Sets key separator value) (written_ne : written ≠ [])
    (unquoted : unquote written = value) (rest : List (List Char)) :
    ofPieces ((key ++ separator :: written) :: rest) =
      .pair (String.ofList key) (some (String.ofList value)) :: ofPieces rest := by
  have cut : Text.cutAtFirst isSeparator (key ++ separator :: written) =
      some (key, separator, written) :=
    Text.cutAtFirst_append (isSeparator_of_isKey sets.key_valid) sets.separates written
  rw [ofPieces_cons (openKey?_of_append sets.separates written_ne),
    classify_of_cut sets.key_valid cut, value?_of_unquote unquoted sets.value_ne,
    List.singleton_append]

/-- A key with a separator takes the next piece as its value. -/
theorem ofPieces_spaced {key value written : List Char} {separator : Char}
    (sets : Sets key separator value) (inert : Inert written)
    (unquoted : unquote written = value) (rest : List (List Char)) :
    ofPieces ((key ++ [separator]) :: written :: rest) =
      .pair (String.ofList key) (some (String.ofList value)) :: ofPieces rest := by
  have opened : openKey? (key ++ [separator]) = some key :=
    openKey?_eq_some_iff.mpr ⟨sets.key_valid, separator, sets.separates, rfl⟩
  rw [ofPieces, opened]
  simp only [startsToken_of_inert inert, Bool.false_eq_true, if_false,
    value?_of_unquote unquoted sets.value_ne]

/-! ## Written tokens -/

theorem isSeparator_plain {separator : Char} (separates : isSeparator separator = true) :
    Plain [separator] := by
  rw [Plain, List.forall_mem_singleton]
  rcases isSeparator_iff.mp separates with rfl | rfl <;> decide

theorem Sets.solid {key value : List Char} {separator : Char} (sets : Sets key separator value) :
    Solid (key ++ [separator]) :=
  (plain_of_isKey sets.key_valid).solid.append (isSeparator_plain sets.separates).solid

theorem pieces_joined {key value written : List Char} {separator : Char}
    (sets : Sets key separator value) (solid : Solid written) {rest : List Char}
    (parted : ∀ c ∈ rest.head?, Text.isBlank c = true) :
    pieces ((key ++ separator :: written) ++ rest) =
      (key ++ separator :: written) :: pieces rest := by
  have whole : Solid (key ++ separator :: written) := by
    simpa using sets.solid.append solid
  exact pieces_append (by simp) whole parted

theorem pieces_spaced {key value gap written : List Char} {separator : Char}
    (sets : Sets key separator value) (gap_ne : gap ≠ [])
    (blank : ∀ c ∈ gap, Text.isBlank c = true) (written_ne : written ≠ [])
    (solid : Solid written) {rest : List Char}
    (parted : ∀ c ∈ rest.head?, Text.isBlank c = true) :
    pieces ((key ++ separator :: (gap ++ written)) ++ rest) =
      (key ++ [separator]) :: written :: pieces rest := by
  -- the white space ends the piece of the key, and the value is a piece of its own
  calc
    pieces ((key ++ separator :: (gap ++ written)) ++ rest)
        = pieces ((key ++ [separator]) ++ (gap ++ (written ++ rest))) := by simp
    _ = (key ++ [separator]) :: pieces (gap ++ (written ++ rest)) :=
      pieces_append (by simp) sets.solid (parted_gap gap_ne blank _)
    _ = (key ++ [separator]) :: written :: pieces rest := by
      rw [pieces_blank_append blank, pieces_append written_ne solid parted]

/-- Reading a written token off the front of an annotation. -/
theorem ofPieces_spells {text : List Char} {token : Token} (spells : Spells text token)
    {rest : List Char} (parted : ∀ c ∈ rest.head?, Text.isBlank c = true) :
    ofPieces (pieces (text ++ rest)) = token :: ofPieces (pieces rest) := by
  cases spells with
  | @className name name_ne plain undotted =>
      have solid : Solid ('.' :: name) :=
        Plain.solid (List.forall_mem_cons.mpr ⟨by decide, plain⟩)
      rw [pieces_append (List.cons_ne_nil _ _) solid parted,
        ofPieces_cons (openKey?_of_head rfl name), classify_className name_ne undotted,
        List.singleton_append]
  | @idName name name_ne plain =>
      have solid : Solid ('#' :: name) :=
        Plain.solid (List.forall_mem_cons.mpr ⟨by decide, plain⟩)
      rw [pieces_append (List.cons_ne_nil _ _) solid parted,
        ofPieces_cons (openKey?_of_head rfl name)]
      simp [classify, name_ne]
  | flag valid =>
      rw [pieces_append (isKey_ne_nil valid) (plain_of_isKey valid).solid parted,
        ofPieces_cons (openKey?_of_isKey valid), classify_key valid, List.singleton_append]
  | quoted sets quotes closed =>
      rw [pieces_joined sets (solid_quoted quotes closed) parted,
        ofPieces_joined sets (quoted_ne_nil _ _) (unquote_quoted quotes _)]
  | bare sets plain =>
      rw [pieces_joined sets plain.solid parted,
        ofPieces_joined sets sets.value_ne (unquote_plain plain)]
  | spacedQuoted sets gap_ne blank quotes closed =>
      rw [pieces_spaced sets gap_ne blank (quoted_ne_nil _ _) (solid_quoted quotes closed) parted,
        ofPieces_spaced sets (inert_quoted quotes _) (unquote_quoted quotes _)]
  | spacedBare sets gap_ne blank plain inert =>
      rw [pieces_spaced sets gap_ne blank sets.value_ne plain.solid parted,
        ofPieces_spaced sets inert (unquote_plain plain)]

end Token

/-- Annotations are read as they are written: an annotation that writes tokens, each in any of its
ways and with any white space in between, is read as these tokens. -/
theorem tokenize_written {text : List Char} {tokens : List Token}
    (written : Token.Written text tokens) : tokenize (String.ofList text) = tokens := by
  rw [tokenize, String.toList_ofList]
  induction written with
  | nil => rfl
  | @single text token spells =>
      have parted : ∀ c ∈ ([] : List Char).head?, Text.isBlank c = true := by simp
      have read := Token.ofPieces_spells spells parted
      rwa [List.append_nil] at read
  | @cons text gap rest token next tokens spells gap_ne blank written ih =>
      rw [Token.ofPieces_spells spells (Token.parted_gap gap_ne blank rest),
        Token.pieces_blank_append blank, ih]

/-- A class, a value in quotes behind white space and a value that looks like a pair. -/
theorem tokenize_written_three :
    Token.Written ".a k: 'b c' x=y:z".toList
        [.className "a", .pair "k" (some "b c"), .pair "x" (some "y:z")] ∧
      tokenize ".a k: 'b c' x=y:z" =
        [.className "a", .pair "k" (some "b c"), .pair "x" (some "y:z")] := by
  have space : ∀ c ∈ [' '], Text.isBlank c = true := List.all_eq_true.mp rfl
  have first : Token.Spells ['.', 'a'] (.className "a") :=
    @Token.Spells.className ['a'] (by decide) (by decide) (by decide)
  have second : Token.Spells "k: 'b c'".toList (.pair "k" (some "b c")) :=
    @Token.Spells.spacedQuoted ['k'] [' '] ['b', ' ', 'c'] ':' '\x27' ⟨rfl, rfl, by decide⟩
      (by decide) space rfl (by decide)
  have third : Token.Spells "x=y:z".toList (.pair "x" (some "y:z")) :=
    @Token.Spells.bare ['x'] ['y', ':', 'z'] '=' ⟨rfl, rfl, by decide⟩ (by decide)
  have written : Token.Written ".a k: 'b c' x=y:z".toList
      [.className "a", .pair "k" (some "b c"), .pair "x" (some "y:z")] :=
    @Token.Written.cons _ [' '] _ _ _ _ first (by decide) space
      (@Token.Written.cons _ [' '] _ _ _ _ second (by decide) space (.single third))
  exact ⟨written, tokenize_written written⟩

end SlideDeck
