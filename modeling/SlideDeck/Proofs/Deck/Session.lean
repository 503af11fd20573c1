import SlideDeck.Deck.Session
import SlideDeck.Proofs.Deck.Append
import SlideDeck.Proofs.Highlight.Session

/-!
# Decks side by side

Compiling a deck is the run of its session (`run_session`), so whatever table that agrees with the
highlighter it starts from, and whatever else takes the table in between, it comes to what it is
alone.
-/

namespace SlideDeck.Compiler

open Highlight (Agrees LanguageTable Session)

theorem run_pagesSession (c : Compiler) (baseline : DirectiveMap) (languages : LanguageTable)
    (pages : List RawPage) :
    (c.pagesSession baseline pages).run c.highlighter languages =
      ((c.compilePages baseline languages pages).map fun r => (r.record, r.warnings),
        languagesAfter languages (c.compilePages baseline languages pages)) := by
  induction pages generalizing baseline languages with
  | nil => rfl
  | cons page pages ih =>
      simp only [pagesSession, Session.run, Session.run_map, ih, compilePages, compilePage,
        List.map_cons, languagesAfter_cons]

/-- Compiling a deck is the run of its session; a deck that is refused leaves the table alone. -/
theorem run_session (c : Compiler) (languages : LanguageTable) (source : List Char) :
    (c.session source).run c.highlighter languages =
      match c.compileFrom languages source with
      | .ok (document, left) => (.ok document, left)
      | .error cause => (.error cause, languages) := by
  unfold session compileFrom
  cases readHeader c.yaml source with
  | error cause => rfl
  | ok header =>
      simp only [Session.run_map, run_pagesSession, documentOf, compileBody, List.map_map,
        List.flatMap_map, Function.comp_def]

/-- What a deck comes to does not depend on the table, if the table agrees with the highlighter, and
the table that it leaves agrees again. -/
theorem compileFrom_cases (c : Compiler) {languages : LanguageTable}
    (agrees : Agrees c.highlighter languages) (source : List Char) :
    (∃ document left, c.compileFrom languages source = .ok (document, left) ∧
      (c.session source).answer c.highlighter = .ok document ∧ Agrees c.highlighter left) ∨
    ∃ cause, c.compileFrom languages source = .error (.header cause) ∧
      (c.session source).answer c.highlighter = .error (.header cause) ∧
      readHeader c.yaml source = .error cause := by
  obtain ⟨answer, still⟩ := (c.session source).run_of_agrees agrees
  rw [run_session] at answer still
  cases read : readHeader c.yaml source with
  | ok header =>
      have compiled : c.compileFrom languages source = .ok (c.compileBody languages header) :=
        compileFrom_eq_ok_iff.mpr ⟨header, read, rfl⟩
      rw [compiled] at answer still
      exact .inl ⟨_, _, compiled, answer.symm, still⟩
  | error cause =>
      have refused : c.compileFrom languages source = .error (.header cause) := by
        simp only [compileFrom, read]
      rw [refused] at answer
      exact .inr ⟨cause, refused, answer.symm, rfl⟩

end SlideDeck.Compiler
