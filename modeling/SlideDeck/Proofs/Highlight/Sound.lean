import SlideDeck.Proofs.Highlight.Substitution
import SlideDeck.Proofs.Slide.Sound

/-!
# Highlighting sound elements

Wrapping code blocks makes sound elements, and so does the highlighter that marks lines. Putting
sound markup in the places of placeholders keeps a forest sound.
-/

namespace SlideDeck.Highlight

open Slide (Node Partition Sound Element sound_nil sound_cons sound_element sound_append)

/-! ## Marked lines -/

theorem mem_of_mem_withBreaks {n : Node} {nodes : List Node} (member : n ∈ withBreaks nodes) :
    n ∈ nodes ∨ ∃ s, n = .text s := by
  induction nodes using withBreaks.induct with
  | case1 => cases member
  | case2 only => exact .inl member
  | case3 first rest several ih =>
      rw [withBreaks] at member
      · obtain rfl | member := List.mem_cons.mp member
        · exact .inl List.mem_cons_self
        · obtain rfl | member := List.mem_cons.mp member
          · exact .inr ⟨_, rfl⟩
          · exact (ih member).imp_left (List.mem_cons_of_mem _)
      · exact several

theorem sound_plainLines (code lang : String) : Sound (plainLines code lang) := by
  have line : ∀ l : List Char, Sound [lineNode l] := fun l =>
    (sound_nil.cons rfl).classed (by decide) "line"
  have lines : Sound ((Text.splitAtEvery (· = '\n') code.toList).map lineNode) := by
    refine Slide.sound_iff_forall.mpr fun n member => ?_
    obtain ⟨l, -, rfl⟩ := List.mem_map.mp member
    exact (sound_cons.mp (line l)).1
  have broken := lines.of_mem fun n => mem_of_mem_withBreaks
  have attrs := (Attributes.shown_empty.addClass "shiki").insertText "data-language" lang
  exact sound_element.mpr ⟨.container (by decide) attrs _, broken.plain (by decide), sound_nil⟩

/-- All markup that a highlighter gives is sound. -/
def MarksSound (h : Highlighter) : Prop := ∀ code lang, Sound (markup h code lang)

theorem marksSound_byLines (languages : List String) : MarksSound (byLines languages) :=
  sound_plainLines

/-! ## Wrapping -/

theorem sound_diagram (c : CodeBlock) : Sound [diagram c] := by
  have attrs := (Attributes.shown_empty.addClass (languageOf c)).merge (Bag.shown_parse
    (c.info.getD ""))
  exact sound_element.mpr ⟨.container (by decide) attrs _, sound_nil.cons rfl, sound_nil⟩

theorem sound_container (c : CodeBlock) {inside : List Node} (sound : Sound inside) :
    Sound [container c inside] := by
  have attrs := ((Attributes.shown_empty.addClass "code-container").addClass
    ("language-" ++ languageOf c)).merge (Bag.shown_parse (c.info.getD ""))
  have label : Sound [.classed "span" "lang" [.text (languageOf c)]] :=
    (sound_nil.cons rfl).classed (by decide) "lang"
  exact sound_element.mpr ⟨.container (by decide) attrs _, (label.before sound).cons rfl, sound_nil⟩

theorem sound_wrapAll (diagrams : List String) {nodes : List Node} (sound : Sound nodes)
    (queue : List Request) : Sound (wrapAll diagrams nodes queue).1 := by
  induction nodes using Node.forest_induction generalizing queue with
  | nil => exact sound_nil
  | element tag attrs children transparent rest inner outer =>
      obtain ⟨here, inside, behind⟩ := sound_element.mp sound
      have hollow : children = [] → (wrapAll diagrams children queue).1 = [] := by
        rintro rfl
        rfl
      exact sound_element.mpr
        ⟨here.update (fun _ => rfl) here.shown hollow, inner inside _, outer behind _⟩
  | code c rest ih =>
      have behind := ih (sound_cons.mp sound).2
      unfold wrapAll wrap
      split_ifs
      · exact (sound_diagram c).before (behind _)
      · exact (sound_container c (sound_nil.cons rfl)).before (behind _)
  | _ n rest ih => exact (ih (sound_cons.mp sound).2 _).cons rfl

theorem sound_preparePartitions (images : Slide.ImageOptions) (diagrams : List String)
    {partitions : List Partition} (sound : ∀ p ∈ partitions, Sound p.children)
    (queue : List Request) :
    ∀ p ∈ (preparePartitions images diagrams partitions queue).1, Sound p.children := by
  induction partitions generalizing queue with
  | nil => exact fun _ member => (List.not_mem_nil member).elim
  | cons p rest ih =>
      obtain ⟨here, behind⟩ := List.forall_mem_cons.mp sound
      exact List.forall_mem_cons.mpr
        ⟨sound_wrapAll diagrams (Slide.sound_applyImages images here) queue, ih behind _⟩

/-! ## Markup in the places of placeholders -/

/-- All markup that is still to be put in place is sound. -/
def SoundReplacements (found : Replacements) : Prop :=
  ∀ handle markup, found.get? handle = some markup → Sound markup

theorem SoundReplacements.erase {found : Replacements} (sound : SoundReplacements found)
    (handle : Nat) : SoundReplacements (found.erase handle) := by
  intro other markup present
  rw [Dict.get?_erase] at present
  split_ifs at present
  exact sound other markup present

theorem soundReplacements_ofList {results : List (Nat × List Node)}
    (sound : ∀ e ∈ results, Sound e.2) : SoundReplacements (Dict.ofList results) := by
  have from_dict : ∀ found : Replacements, SoundReplacements found →
      SoundReplacements (results.foldl (fun d e => d.insert e.1 e.2) found) := by
    induction results with
    | nil => exact fun _ found_sound => found_sound
    | cons e rest ih =>
        obtain ⟨here, behind⟩ := List.forall_mem_cons.mp sound
        refine fun found found_sound => ih behind _ fun handle markup present => ?_
        rw [Dict.get?_insert] at present
        split_ifs at present
        · exact Option.some.inj present ▸ here
        · exact found_sound handle markup present
  refine from_dict Dict.empty fun handle markup present => ?_
  rw [Dict.get?_empty] at present
  cases present

theorem sound_spliceNodes {nodes : List Node} (sound : Sound nodes) {found : Replacements}
    (found_sound : SoundReplacements found) :
    Sound (spliceNodes nodes found).1 ∧ SoundReplacements (spliceNodes nodes found).2 := by
  induction nodes using Node.forest_induction generalizing found with
  | nil => exact ⟨sound_nil, found_sound⟩
  | element tag attrs children transparent rest inner outer =>
      obtain ⟨here, inside, behind⟩ := sound_element.mp sound
      obtain ⟨children_sound, left⟩ := inner inside found_sound
      obtain ⟨rest_sound, still⟩ := outer behind left
      have hollow : children = [] → (spliceNodes children found).1 = [] := by
        rintro rfl
        rfl
      exact ⟨sound_element.mpr ⟨here.update (fun _ => rfl) here.shown hollow, children_sound,
        rest_sound⟩, still⟩
  | placeholder handle rest ih =>
      obtain ⟨rest_sound, still⟩ := ih (sound_cons.mp sound).2 (found_sound.erase handle)
      refine ⟨sound_append.mpr ⟨?_, rest_sound⟩, still⟩
      cases present : found.get? handle with
      | none => exact sound_nil
      | some markup => exact found_sound handle markup present
  | _ n rest ih =>
      obtain ⟨rest_sound, still⟩ := ih (sound_cons.mp sound).2 found_sound
      exact ⟨rest_sound.cons rfl, still⟩

theorem sound_splice {nodes : List Node} (sound : Sound nodes)
    {results : List (Nat × List Node)} (results_sound : ∀ e ∈ results, Sound e.2) :
    Sound (splice nodes results) :=
  (sound_spliceNodes sound (soundReplacements_ofList results_sound)).1

/-- Whatever the table says of the languages, all results are sound. -/
theorem sound_results {h : Highlighter} (marks : MarksSound h) (table : LanguageTable)
    (requests : List Request) :
    ∀ e ∈ (resolveAll h table requests).1.map (fun r => (r.handle, r.nodes)), Sound e.2 := by
  rw [resolveAll_eq]
  intro e member
  obtain ⟨r, -, rfl⟩ := List.mem_map.mp member
  exact marks r.code _

end SlideDeck.Highlight
