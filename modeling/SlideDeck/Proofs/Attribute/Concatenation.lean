import SlideDeck.Proofs.Attribute.Written

/-!
# Annotations behind each other

Reading an annotation carries two things from one character to the next: the quote that is open,
and a key that waits for its value. White space behind a text that leaves neither behind is a cut
(`pieces_cut`, `ofPieces_append`), so the annotation on each side of it is read by itself
(`tokenize_append`).
-/

namespace SlideDeck

namespace Token

/-- The quote that is open behind a character. -/
def quoteBehind (quote : Option Char) (c : Char) : Option Char :=
  match quote with
  | none => if isQuote c then some c else none
  | some opened => if c = opened then none else some opened

/-- No quote is open behind a text. -/
def Balanced (s : List Char) : Prop := s.foldl quoteBehind none = none

instance (s : List Char) : Decidable (Balanced s) := inferInstanceAs (Decidable (_ = _))

/-- A piece that is a key and a final separator. -/
def AwaitsValue (piece : List Char) : Prop :=
  ∃ key separator, isKey key = true ∧ isSeparator separator = true ∧ piece = key ++ [separator]

/-- The last piece of a text does not wait for a value. -/
def Settled (s : List Char) : Prop := ∀ piece ∈ (pieces s).getLast?, ¬AwaitsValue piece

theorem openKey?_eq_none_iff {piece : List Char} : openKey? piece = none ↔ ¬AwaitsValue piece := by
  rw [Option.eq_none_iff_forall_ne_some]
  constructor
  · rintro shut ⟨key, separator, valid, separates, made⟩
    exact shut key (openKey?_eq_some_iff.mpr ⟨valid, separator, separates, made⟩)
  · intro shut key opened
    obtain ⟨valid, separator, separates, made⟩ := openKey?_eq_some_iff.mp opened
    exact shut ⟨key, separator, valid, separates, made⟩

instance (s : List Char) : Decidable (Settled s) :=
  decidable_of_iff ((pieces s).getLast?.all fun piece => (openKey? piece).isNone) (by
    simp only [Settled, ← openKey?_eq_none_iff]
    cases (pieces s).getLast? <;> simp)

/-! ## Cutting -/

/-- White space ends the piece that is being read. -/
theorem piecesFrom_gap {gap : List Char} (gap_ne : gap ≠ [])
    (blank : ∀ c ∈ gap, Text.isBlank c = true) (piece rest : List Char) :
    piecesFrom none piece (gap ++ rest) = piecesFrom none piece [] ++ pieces rest := by
  obtain ⟨first, gap, rfl⟩ := List.exists_cons_of_ne_nil gap_ne
  obtain ⟨here, later⟩ := List.forall_mem_cons.mp blank
  have behind : piecesFrom none [] (gap ++ rest) = pieces rest := pieces_blank_append later rest
  rw [List.cons_append]
  cases piece with
  | nil => simp [piecesFrom, isQuote_of_isBlank here, here, behind]
  | cons c piece => simp [piecesFrom, isQuote_of_isBlank here, here, behind]

/-- White space behind a text that leaves no quote open cuts it off from what follows. -/
theorem piecesFrom_cut {gap : List Char} (gap_ne : gap ≠ [])
    (blank : ∀ c ∈ gap, Text.isBlank c = true) (rest : List Char) {s : List Char}
    {quote : Option Char} (closed : s.foldl quoteBehind quote = none) (piece : List Char) :
    piecesFrom quote piece (s ++ (gap ++ rest)) = piecesFrom quote piece s ++ pieces rest := by
  -- the quote that is open is the one that the reading has met
  induction s generalizing quote piece with
  | nil =>
      obtain rfl : quote = none := closed
      exact piecesFrom_gap gap_ne blank piece rest
  | cons c s ih =>
      rw [List.foldl_cons] at closed
      rw [List.cons_append]
      cases quote with
      | some opened => exact ih closed (c :: piece)
      | none =>
          have step := @ih (quoteBehind none c) closed
          by_cases quotes : isQuote c = true
          · simp only [quoteBehind, quotes, if_true] at step
            simp only [piecesFrom, quotes, if_true, step]
          · simp only [quoteBehind, quotes, Bool.false_eq_true, if_false] at step
            simp only [piecesFrom, quotes, Bool.false_eq_true, if_false, step]
            split_ifs <;> rfl

theorem pieces_cut {gap s : List Char} (gap_ne : gap ≠ [])
    (blank : ∀ c ∈ gap, Text.isBlank c = true) (balanced : Balanced s) (rest : List Char) :
    pieces (s ++ (gap ++ rest)) = pieces s ++ pieces rest :=
  piecesFrom_cut gap_ne blank rest balanced []

/-! ## Classifying -/

/-- Pieces behind a last piece that does not wait for a value are classified by themselves. -/
theorem ofPieces_append {left : List (List Char)}
    (settled : ∀ piece ∈ left.getLast?, openKey? piece = none) (right : List (List Char)) :
    ofPieces (left ++ right) = ofPieces left ++ ofPieces right := by
  fun_induction ofPieces left with
  | case1 => rfl
  | case2 piece => exact ofPieces_cons (settled piece rfl) right
  | case3 piece next rest key opened starts ih =>
      have behind := ih fun last member => settled last (by rwa [List.getLast?_cons_cons])
      simp only [List.cons_append] at behind ⊢
      rw [ofPieces, opened]
      simp only [starts, if_true, behind, List.append_assoc]
  | case4 piece next rest key opened starts ih =>
      -- the next piece is taken as a value, so it is not met again
      have behind := ih fun last member => settled last (by
        cases rest with
        | nil => cases member
        | cons second rest => rwa [List.getLast?_cons_cons, List.getLast?_cons_cons])
      simp only [List.cons_append]
      rw [ofPieces, opened]
      simp only [starts, if_false, behind, Bool.false_eq_true]
  | case5 piece next rest shut ih =>
      have behind := ih fun last member => settled last (by rwa [List.getLast?_cons_cons])
      simp only [List.cons_append] at behind ⊢
      rw [ofPieces, shut]
      simp only [behind, List.append_assoc]

/-- A key that waits for a value says something. -/
theorem classify_ne_nil {piece : List Char} (awaits : AwaitsValue piece) :
    classify piece ≠ [] := by
  obtain ⟨key, separator, valid, separates, rfl⟩ := awaits
  have cut : Text.cutAtFirst isSeparator (key ++ [separator]) = some (key, separator, []) :=
    Text.cutAtFirst_append (isSeparator_of_isKey valid) separates []
  rw [classify_of_cut valid cut]
  exact List.cons_ne_nil _ _

/-- Pieces that say nothing leave no key that waits for a value. -/
theorem not_awaitsValue_of_ofPieces {left : List (List Char)} (silent : ofPieces left = []) :
    ∀ piece ∈ left.getLast?, ¬AwaitsValue piece := by
  fun_induction ofPieces left with
  | case1 => nofun
  | case2 piece =>
      rintro _ ⟨⟩ awaits
      exact classify_ne_nil awaits silent
  | case3 piece next rest key opened starts ih =>
      rw [List.append_eq_nil_iff] at silent
      rw [List.getLast?_cons_cons]
      exact ih silent.2
  | case4 => cases silent
  | case5 piece next rest shut ih =>
      rw [List.append_eq_nil_iff] at silent
      rw [List.getLast?_cons_cons]
      exact ih silent.2

end Token

open Token (Balanced Settled)

/-- An annotation that leaves no quote open and no key waiting, and another one behind white
space. -/
theorem tokenize_cut {a gap b : List Char} (balanced : Balanced a) (settled : Settled a)
    (gap_ne : gap ≠ []) (blank : ∀ c ∈ gap, Text.isBlank c = true) :
    Token.ofPieces (Token.pieces (a ++ (gap ++ b))) =
      Token.ofPieces (Token.pieces a) ++ Token.ofPieces (Token.pieces b) := by
  rw [Token.pieces_cut gap_ne blank balanced]
  exact Token.ofPieces_append
    (fun piece last => Token.openKey?_eq_none_iff.mpr (settled piece last)) _

/-- Annotations concatenate. Behind an annotation that leaves no quote open and whose last piece is
not a key with a final separator, white space parts it from any other annotation, and each is read
by itself. So a fragment between the two that says nothing and leaves no quote open changes nothing
around it. -/
theorem tokenize_append {a gap : String} (balanced : Balanced a.toList)
    (settled : Settled a.toList) (gap_ne : gap ≠ "")
    (blank : ∀ c ∈ gap.toList, Text.isBlank c = true) (b : String) :
    tokenize (a ++ gap ++ b) = tokenize a ++ tokenize b ∧
    ∀ fragment space : String, Balanced fragment.toList → tokenize fragment = [] → space ≠ "" →
      (∀ c ∈ space.toList, Text.isBlank c = true) →
      tokenize (a ++ gap ++ (fragment ++ space ++ b)) = tokenize (a ++ gap ++ b) := by
  have parted : ∀ other : String,
      tokenize (a ++ gap ++ other) = tokenize a ++ tokenize other := by
    intro other
    simp only [tokenize, String.toList_append, List.append_assoc]
    exact tokenize_cut balanced settled (by simpa using gap_ne) blank
  refine ⟨parted b, fun fragment space closed silent space_ne spaces => ?_⟩
  have still : Settled fragment.toList := Token.not_awaitsValue_of_ofPieces silent
  have behind : tokenize (fragment ++ space ++ b) = tokenize fragment ++ tokenize b := by
    simp only [tokenize, String.toList_append, List.append_assoc]
    exact tokenize_cut closed still (by simpa using space_ne) spaces
  rw [parted, parted, behind, silent, List.nil_append]

/-- Malformed words between a value in quotes and a key with its value behind white space. -/
theorem tokenize_append_malformed :
    Balanced ".x k: 'a b'".toList ∧ Settled ".x k: 'a b'".toList ∧
      tokenize "50% :y = . #" = [] ∧
      tokenize (".x k: 'a b'" ++ " " ++ ("50% :y = . #" ++ "\t" ++ "note: z")) =
        [.className "x", .pair "k" (some "a b"), .pair "note" (some "z")] := by
  have balanced : Balanced ".x k: 'a b'".toList := by decide +kernel
  have settled : Settled ".x k: 'a b'".toList := by decide +kernel
  have silent : tokenize "50% :y = . #" = [] := by decide +kernel
  have closed : Balanced "50% :y = . #".toList := by decide +kernel
  have space : ∀ c ∈ " ".toList, Text.isBlank c = true := List.all_eq_true.mp rfl
  have tab : ∀ c ∈ "\t".toList, Text.isBlank c = true := List.all_eq_true.mp rfl
  obtain ⟨parted, around⟩ := tokenize_append balanced settled (by decide) space "note: z"
  refine ⟨balanced, settled, silent, ?_⟩
  rw [around _ _ closed silent (by decide) tab, parted]
  decide +kernel

end SlideDeck
