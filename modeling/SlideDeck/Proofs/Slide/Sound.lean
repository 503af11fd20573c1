import SlideDeck.Proofs.Slide.Comments
import SlideDeck.Proofs.Slide.Element
import SlideDeck.Proofs.Slide.ImageStyle

/-!
# Passes over sound elements

The passes over the structure of a page keep its elements sound. Annotations never stop at a
transparent element, and a transparent element that holds nothing but images taken out of the flow
is not marked, so neither gets an attribute.
-/

namespace SlideDeck.Slide

/-! ## Comments -/

theorem shown_takeTrailing (nodes : List Node) :
    ∀ bag ∈ (takeTrailing nodes).1.toList, bag.attrs.Shown := by
  intro bag member
  unfold takeTrailing at member
  split at member
  · rw [List.mem_singleton.mp member]
    exact Bag.shown_parse _
  · cases member

theorem sound_annotateAll {nodes : List Node} (sound : Sound nodes) :
    Sound (annotateAll nodes).1 ∧ ∀ bag ∈ (annotateAll nodes).2, bag.attrs.Shown := by
  induction nodes using Node.forest_induction with
  | nil => exact ⟨sound_nil, fun _ member => (List.not_mem_nil member).elim⟩
  | element tag attrs children transparent rest inner outer =>
      obtain ⟨here, inside, behind⟩ := sound_element.mp sound
      obtain ⟨children_sound, pending⟩ := inner inside
      obtain ⟨rest_sound, more⟩ := outer behind
      have kept : Sound ((takeTrailing (annotateAll children).1).2.filter fun n => !n.isComment) :=
        children_sound.of_mem fun n member =>
          mem_of_mem_takeTrailing (List.mem_of_mem_filter member)
      have bags : ∀ bag ∈ (annotateAll children).2 ++
          (takeTrailing (annotateAll children).1).1.toList, bag.attrs.Shown :=
        List.forall_mem_append.mpr ⟨pending, shown_takeTrailing _⟩
      have hollow : children = [] →
          ((takeTrailing (annotateAll children).1).2.filter fun n => !n.isComment) = [] := by
        rintro rfl
        rfl
      -- a transparent element keeps its attributes and passes the annotations on
      cases transparent with
      | true =>
          have passed := here.update (fun _ => rfl) here.shown hollow
          exact ⟨sound_element.mpr ⟨passed, kept, rest_sound⟩,
            List.forall_mem_append.mpr ⟨bags, more⟩⟩
      | false =>
          have merged := here.update nofun (here.shown.mergeAll bags) hollow
          exact ⟨sound_element.mpr ⟨merged, kept, rest_sound⟩, more⟩
  | _ n rest ih =>
      obtain ⟨rest_sound, more⟩ := ih (sound_cons.mp sound).2
      exact ⟨rest_sound.cons rfl, more⟩

theorem sound_applyComments {nodes : List Node} (sound : Sound nodes)
    (directives : PageDirectives) : Sound (applyComments nodes directives).1 := by
  rw [applyComments_eq]
  refine sound_iff_forall.mpr fun n member => ?_
  obtain ⟨original, kept, rfl⟩ := List.mem_map.mp member
  have alone : Sound [original] :=
    sound_cons.mpr ⟨sound_iff_forall.mp sound original (List.mem_of_mem_filter kept), sound_nil⟩
  exact (sound_cons.mp (sound_annotateAll alone).1).1

/-! ## Partitions -/

theorem sound_cut {current nodes : List Node} (bags : List Bag) (open_sound : Sound current)
    (sound : Sound nodes) :
    ∀ p ∈ (SplitLayout.cut current bags nodes).partitions, Sound p.children := by
  have closed : ∀ {l : List Node}, Sound l → Sound l.reverse := fun l_sound =>
    l_sound.of_mem fun n member => .inl (List.mem_reverse.mp member)
  induction nodes generalizing current bags with
  | nil => exact List.forall_mem_singleton.mpr (closed open_sound)
  | cons n rest ih =>
      obtain ⟨here, behind⟩ := sound_cons.mp sound
      have longer : Sound (n :: current) := sound_cons.mpr ⟨here, open_sound⟩
      rw [cut_cons]
      split
      · exact List.forall_mem_cons.mpr ⟨closed open_sound, ih [] sound_nil behind⟩
      · exact ih _ open_sound behind
      · exact ih bags longer behind

theorem sound_ofNodes {nodes : List Node} (sound : Sound nodes) :
    ∀ p ∈ (SplitLayout.ofNodes nodes).partitions, Sound p.children :=
  sound_cut [] sound_nil sound

theorem Sound.section_ {children : List Node} (inside : Sound children) (frame : Frame)
    (key value : String) : Sound [frame.section_ key value children] := by
  refine inside.tagged (by decide) ?_
  cases frame.id <;> cases frame.style <;> simp [ShownEntries]

theorem sound_toNodes {layout : SplitLayout} (sound : ∀ p ∈ layout.partitions, Sound p.children) :
    Sound layout.toNodes := by
  unfold SplitLayout.toNodes
  split_ifs
  · refine sound_iff_forall.mpr fun n member => ?_
    obtain ⟨p, p_mem, rfl⟩ := List.mem_map.mp member
    exact (sound_cons.mp ((sound p p_mem).section_ _ _ _)).1
  · exact sound_flatMap sound

/-! ## Images -/

/-- What an image passes on to its element is written out. -/
theorem ImageStyle.shown_extra (source : String) : (parse source).extra.attrs.Shown := by
  refine extra_induction Attributes.shown_empty (fun a key value shown => shown.insert key ?_) source
  cases value <;> nofun

theorem sound_inlineImage (i : Image) (name words : String) (options : ImageOptions) :
    Sound [inlineImage i name (ImageStyle.parse words) options] := by
  have extra := ImageStyle.shown_extra words
  generalize ImageStyle.parse words = style at extra ⊢
  refine sound_element.mpr ⟨.childless (by decide) ?_, sound_nil, sound_nil⟩
  have named : (((Attributes.empty.insert "src" (.text i.url)).insert "alt" (.text name))).Shown :=
    (Attributes.shown_empty.insertText _ _).insertText _ _
  have titled : ∀ title, ((((Attributes.empty.insert "src" (.text i.url)).insert "alt"
      (.text name)).insert "title" (.text title)).merge style.extra).Shown := fun title =>
    (named.insertText "title" title).merge extra
  cases options.lazy <;> cases i.title <;> cases style.inlineStyle
  case false.none.none => exact named.merge extra
  case false.none.some inline => exact (named.merge extra).insertText _ _
  case false.some.none title => exact titled title
  case false.some.some title inline => exact (titled title).insertText _ _
  case true.none.none => exact (named.merge extra).insertText _ _
  case true.none.some inline => exact ((named.merge extra).insertText _ _).insertText _ _
  case true.some.none title => exact (titled title).insertText _ _
  case true.some.some title inline => exact ((titled title).insertText _ _).insertText _ _

theorem sound_backgroundLayer (i : Image) (words : String) :
    Sound [(backgroundLayer i (ImageStyle.parse words)).node] := by
  have merged := (Attributes.shown_empty.addClass "advanced-bg-image").merge
    (ImageStyle.shown_extra words)
  exact sound_element.mpr ⟨.container (by decide) (merged.insertText _ _) [], sound_nil, sound_nil⟩

theorem sound_placeImages (options : ImageOptions) {nodes : List Node} (sound : Sound nodes) :
    Sound (placeImages options nodes).1 ∧
      Sound ((placeImages options nodes).2.1.map Layer.node) := by
  induction nodes using Node.forest_induction with
  | nil => exact ⟨sound_nil, sound_nil⟩
  | element tag attrs children transparent rest inner outer =>
      obtain ⟨here, inside, behind⟩ := sound_element.mp sound
      obtain ⟨placed, layers⟩ := inner inside
      obtain ⟨rest_placed, rest_layers⟩ := outer behind
      have hollow : children = [] → (placeImages options children).1 = [] := by
        rintro rfl
        rfl
      obtain ⟨marked, flow, step, mark⟩ :=
        placeImage_element_marked options tag attrs children transparent
      have kept : Element.Sound ⟨tag, marked, (placeImages options children).1, transparent⟩ := by
        -- a container is marked only if it is not transparent
        obtain rfl | ⟨rfl, rfl⟩ := mark
        · exact here.update (fun _ => rfl) here.shown hollow
        · exact here.update nofun (here.shown.addClass _) hollow
      rw [fst_placeImages_cons, layers_placeImages_cons, step, List.map_append]
      exact ⟨sound_element.mpr ⟨kept, placed, rest_placed⟩,
        sound_append.mpr ⟨layers, rest_layers⟩⟩
  | image i rest ih =>
      obtain ⟨rest_placed, rest_layers⟩ := ih (sound_cons.mp sound).2
      rw [fst_placeImages_cons, layers_placeImages_cons]
      cases background : isBackground i with
      | true =>
          rw [placeImage_background options background]
          exact ⟨rest_placed, (sound_backgroundLayer i _).before rest_layers⟩
      | false =>
          obtain ⟨flow, step⟩ := placeImage_shown options background
          rw [step]
          exact ⟨(sound_inlineImage i _ _ options).before rest_placed, rest_layers⟩
  | _ n rest ih =>
      obtain ⟨rest_placed, rest_layers⟩ := ih (sound_cons.mp sound).2
      exact ⟨rest_placed.cons rfl, rest_layers⟩

theorem sound_prune {nodes : List Node} (sound : Sound nodes) : Sound (prune nodes) := by
  induction nodes using Node.forest_induction with
  | nil => exact sound_nil
  | element tag attrs children transparent rest inner outer =>
      obtain ⟨here, inside, behind⟩ := sound_element.mp sound
      have hollow : children = [] → prune children = [] := by
        rintro rfl
        rfl
      rw [prune_element]
      split_ifs
      · exact outer behind
      · exact sound_element.mpr
          ⟨here.update (fun _ => rfl) here.shown hollow, inner inside, outer behind⟩
  | _ n rest ih => exact (ih (sound_cons.mp sound).2).cons rfl

theorem sound_applyImages (options : ImageOptions) {nodes : List Node} (sound : Sound nodes) :
    Sound (applyImages options nodes) := by
  obtain ⟨placed, layers⟩ := sound_placeImages options sound
  have styled : ∀ style : String, ((Attributes.empty.addClass "advanced-bg").insert "style"
      (.text style)).Shown := fun style =>
    (Attributes.shown_empty.addClass _).insertText _ _
  unfold applyImages
  simp only
  split_ifs
  · exact sound_prune placed
  · exact sound_append.mpr ⟨sound_prune placed,
      sound_element.mpr ⟨.container (by decide) (styled _) _, layers, sound_nil⟩⟩

end SlideDeck.Slide
