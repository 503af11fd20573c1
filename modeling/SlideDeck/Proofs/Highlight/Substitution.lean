import Mathlib.Data.List.Induction
import SlideDeck.Deck.Compile
import SlideDeck.Proofs.Highlight.Table
import SlideDeck.Proofs.Slide.Layout

/-!
# Highlighting as substitution

Code blocks are wrapped in one pass, resolved in another and put in place in a third. The requests
are numbered in document order, so putting their markup in place takes the replacements one after
the other from the front (`spliceNodes_wrapAll`). The three passes together replace each code block
by its element with its own markup inside.
-/

namespace SlideDeck

open Slide (Node Partition SplitLayout leaves leaves_flatMap leaves_toNodes graft graft_append)

namespace Slide

/-- The code block that a leaf is. -/
def Node.code? : Node → Option CodeBlock
  | .code c => some c
  | _ => none

/-- The number of the placeholder that a leaf is. -/
def Node.handle? : Node → Option Nat
  | .placeholder handle => some handle
  | _ => none

/-- The numbers of the placeholders of a forest in document order. -/
def handlesOf (nodes : List Node) : List Nat := (leaves nodes).filterMap Node.handle?

end Slide

namespace Highlight

open Slide (handlesOf)

/-- The code blocks of a forest that are highlighted, in document order. -/
def blocksOf (diagrams : List String) (nodes : List Node) : List CodeBlock :=
  ((leaves nodes).filterMap Node.code?).filter fun c => !diagrams.contains (languageOf c)

/-- A code block gives its element, with its markup inside if it is highlighted; other leaves
stay. -/
def substituteLeaf (diagrams : List String) (inside : CodeBlock → List Node) : Node → List Node
  | .code c => if diagrams.contains (languageOf c) then [diagram c] else [container c (inside c)]
  | n => [n]

/-- Replaces each code block of a forest in place. -/
def substitute (diagrams : List String) (inside : CodeBlock → List Node) (nodes : List Node) :
    List Node :=
  graft (substituteLeaf diagrams inside) nodes

/-- The language that a block in a language is highlighted in. -/
def usedLanguage (h : Highlighter) (table : LanguageTable) (lang : String) : String :=
  if lang = plaintext ∨ available h table lang = true then lang else plaintext

/-- The markup of a code block, resolved by itself. -/
def highlighted (h : Highlighter) (table : LanguageTable) (c : CodeBlock) : List Node :=
  markup h c.value (usedLanguage h table (languageOf c))

/-- The requests of code blocks, numbered from a number on. -/
def requestsFrom (start : Nat) (blocks : List CodeBlock) : List Request :=
  (blocks.zipIdx start).map fun e => { handle := e.2, code := e.1.value, lang := languageOf e.1 }

/-- Markup to be put in place, numbered from a number on. -/
def numbered (start : Nat) (markups : List (List Node)) : List (Nat × List Node) :=
  (markups.zipIdx start).map fun e => (e.2, e.1)

/-- Wraps the code blocks of partitions in turn. -/
def wrapPartitions (diagrams : List String) :
    List Partition → List Request → List Partition × List Request
  | [], queue => ([], queue)
  | p :: rest, queue =>
    let (children, queue) := wrapAll diagrams p.children queue
    let (rest, queue) := wrapPartitions diagrams rest queue
    ({ p with children } :: rest, queue)

/-! ## The queue -/

theorem blocksOf_element (diagrams : List String) (tag : String) (attrs : Attributes)
    (children : List Node) (transparent : Bool) (rest : List Node) :
    blocksOf diagrams (.element tag attrs children transparent :: rest) =
      blocksOf diagrams children ++ blocksOf diagrams rest := by
  simp [blocksOf]

theorem blocksOf_code (diagrams : List String) (c : CodeBlock) (rest : List Node) :
    blocksOf diagrams (.code c :: rest) =
      if diagrams.contains (languageOf c) then blocksOf diagrams rest
      else c :: blocksOf diagrams rest := by
  have first : blocksOf diagrams (.code c :: rest) =
      (c :: (leaves rest).filterMap Node.code?).filter
        fun c => !diagrams.contains (languageOf c) := rfl
  rw [first, List.filter_cons]
  cases diagrams.contains (languageOf c) <;> rfl

theorem requestsFrom_append (start : Nat) (left right : List CodeBlock) :
    requestsFrom start (left ++ right) =
      requestsFrom start left ++ requestsFrom (start + left.length) right := by
  simp [requestsFrom, List.zipIdx_append]

theorem length_requestsFrom (start : Nat) (blocks : List CodeBlock) :
    (requestsFrom start blocks).length = blocks.length := by
  simp [requestsFrom]

/-- Wrapping queues one request for each block that is highlighted, in document order. -/
theorem queue_wrapAll (diagrams : List String) (nodes : List Node) (queue : List Request) :
    (wrapAll diagrams nodes queue).2 =
      queue ++ requestsFrom queue.length (blocksOf diagrams nodes) := by
  induction nodes using Node.forest_induction generalizing queue with
  | nil => simp [wrapAll, blocksOf, leaves, requestsFrom]
  | element tag attrs children transparent rest inner outer =>
      have step : (wrapAll diagrams (.element tag attrs children transparent :: rest) queue).2 =
          (wrapAll diagrams rest (wrapAll diagrams children queue).2).2 := rfl
      rw [step, outer, inner, blocksOf_element, requestsFrom_append, List.length_append,
        length_requestsFrom, List.append_assoc]
  | code c rest ih =>
      rw [blocksOf_code]
      by_cases diagram : diagrams.contains (languageOf c) = true
      · rw [if_pos diagram, ← ih]
        simp only [wrapAll, wrap, diagram, if_true]
      · rw [if_neg diagram]
        simp only [wrapAll, wrap, diagram, if_false, Bool.false_eq_true]
        rw [ih, List.append_assoc, List.length_append]
        rfl
  | _ n rest ih => exact ih queue

/-! ## Putting markup in place -/

theorem numbered_cons (start : Nat) (markup : List Node) (rest : List (List Node)) :
    numbered start (markup :: rest) = (start, markup) :: numbered (start + 1) rest := rfl

theorem le_of_mem_numbered {start : Nat} {markups : List (List Node)} {e : Nat × List Node}
    (member : e ∈ numbered start markups) : start ≤ e.1 ∧ e.1 < start + markups.length := by
  rw [numbered, List.mem_map] at member
  obtain ⟨⟨markup, handle⟩, member, rfl⟩ := member
  exact ⟨List.le_snd_of_mem_zipIdx member, by simpa using List.snd_lt_add_of_mem_zipIdx member⟩

/-- Taking the first of numbered markups leaves the others. -/
theorem erase_numbered (start : Nat) (markup : List Node) (rest : List (List Node)) :
    (⟨numbered start (markup :: rest)⟩ : Replacements).erase start =
      ⟨numbered (start + 1) rest⟩ := by
  have others : ∀ e ∈ numbered (start + 1) rest, e.1 ≠ start := by
    intro e member
    have := (le_of_mem_numbered member).1
    omega
  rw [numbered_cons, Dict.erase, List.filter_cons_of_neg (by simp)]
  exact congrArg Dict.mk (List.filter_eq_self.mpr (by simpa using others))

theorem place_of_forall_lt {key : Nat} (value : List Node) {l : List (Nat × List Node)}
    (before : ∀ e ∈ l, e.1 < key) : Dict.place key value l = l ++ [(key, value)] := by
  induction l with
  | nil => rfl
  | cons e rest ih =>
      obtain ⟨here, later⟩ := List.forall_mem_cons.mp before
      have differs : e.1 ≠ key := Nat.ne_of_lt here
      have not_before : ¬ key < e.1 := Nat.not_lt_of_lt here
      simp only [Dict.place, differs, not_before, if_false, ih later, List.cons_append]

/-- Numbered markups are stored in the order of their numbers. -/
theorem ofList_numbered (markups : List (List Node)) :
    Dict.ofList (numbered 0 markups) = ⟨numbered 0 markups⟩ := by
  induction markups using List.reverseRecOn with
  | nil => rfl
  | append_singleton markups markup ih =>
      have last : numbered 0 (markups ++ [markup]) =
          numbered 0 markups ++ [(markups.length, markup)] := by
        simp [numbered, List.zipIdx_append]
      have before : ∀ e ∈ numbered 0 markups, e.1 < markups.length := by
        intro e member
        simpa using (le_of_mem_numbered member).2
      rw [Dict.ofList] at ih ⊢
      rw [last, List.foldl_append, ih, List.foldl_cons, List.foldl_nil, Dict.insert,
        place_of_forall_lt markup before]

theorem spliceNodes_cons (n : Node) (rest : List Node) (found : Replacements) :
    spliceNodes (n :: rest) found =
      ((spliceNode n found).1 ++ (spliceNodes rest (spliceNode n found).2).1,
        (spliceNodes rest (spliceNode n found).2).2) := rfl

theorem spliceNode_element (tag : String) (attrs : Attributes) (children : List Node)
    (transparent : Bool) (found : Replacements) :
    spliceNode (.element tag attrs children transparent) found =
      ([.element tag attrs (spliceNodes children found).1 transparent],
        (spliceNodes children found).2) := rfl

theorem handlesOf_element (tag : String) (attrs : Attributes) (children : List Node)
    (transparent : Bool) (rest : List Node) :
    handlesOf (.element tag attrs children transparent :: rest) =
      handlesOf children ++ handlesOf rest := by
  simp [handlesOf]

theorem spliceNode_diagram (c : CodeBlock) (found : Replacements) :
    spliceNode (diagram c) found = ([diagram c], found) := rfl

/-- The placeholder of a container takes the first of the markups, if they are numbered from it
on. -/
theorem spliceNode_container (c : CodeBlock) (start : Nat) (markup : List Node)
    (rest : List (List Node)) :
    spliceNode (container c [.placeholder start]) ⟨numbered start (markup :: rest)⟩ =
      ([container c markup], ⟨numbered (start + 1) rest⟩) := by
  have taken : spliceNode (.placeholder start) ⟨numbered start (markup :: rest)⟩ =
      (markup, ⟨numbered (start + 1) rest⟩) := by
    have first : (⟨numbered start (markup :: rest)⟩ : Replacements).get? start = some markup := by
      simp [numbered_cons, Dict.get?, Dict.lookup]
    rw [spliceNode, first, erase_numbered, Option.getD_some]
  -- the button and the name of the language in front of the placeholder stay
  have step : ∀ found, spliceNode (container c [.placeholder start]) found =
      ([container c ((spliceNode (.placeholder start) found).1 ++ [])],
        (spliceNode (.placeholder start) found).2) := fun _ => rfl
  rw [step, taken, List.append_nil]

theorem substitute_code (diagrams : List String) (inside : CodeBlock → List Node) (c : CodeBlock)
    (rest : List Node) :
    substitute diagrams inside (.code c :: rest) =
      (if diagrams.contains (languageOf c) then diagram c else container c (inside c)) ::
        substitute diagrams inside rest := by
  have first : substitute diagrams inside (.code c :: rest) =
      substituteLeaf diagrams inside (.code c) ++ substitute diagrams inside rest := rfl
  rw [first, substituteLeaf]
  split_ifs <;> rfl

/-- Putting numbered markups in the places of the placeholders that wrapping made, the first of
which has the first number, takes one markup for each block and leaves the others. -/
theorem spliceNodes_wrapAll (diagrams : List String) (inside : CodeBlock → List Node)
    {nodes : List Node} (free : handlesOf nodes = []) (queue : List Request)
    (more : List (List Node)) :
    spliceNodes (wrapAll diagrams nodes queue).1
        ⟨numbered queue.length ((blocksOf diagrams nodes).map inside ++ more)⟩ =
      (substitute diagrams inside nodes,
        ⟨numbered (queue.length + (blocksOf diagrams nodes).length) more⟩) := by
  -- `more` are the markups of the blocks behind the forest: the children of an element leave those
  -- of the nodes behind it
  induction nodes using Node.forest_induction generalizing queue more with
  | nil => rfl
  | element tag attrs children transparent rest inner outer =>
      rw [handlesOf_element, List.append_eq_nil_iff] at free
      have step : (wrapAll diagrams (.element tag attrs children transparent :: rest) queue).1 =
          .element tag attrs (wrapAll diagrams children queue).1 transparent ::
            (wrapAll diagrams rest (wrapAll diagrams children queue).2).1 := rfl
      have length : (wrapAll diagrams children queue).2.length =
          queue.length + (blocksOf diagrams children).length := by
        rw [queue_wrapAll, List.length_append, length_requestsFrom]
      have later := outer free.2 (wrapAll diagrams children queue).2 more
      rw [length] at later
      rw [step, blocksOf_element, List.map_append, List.append_assoc, spliceNodes_cons,
        spliceNode_element, inner free.1 queue, later, List.length_append, ← Nat.add_assoc]
      rfl
  | placeholder handle rest ih => cases free
  | code c rest ih =>
      by_cases diagram_block : diagrams.contains (languageOf c) = true
      · have step : (wrapAll diagrams (.code c :: rest) queue).1 =
            diagram c :: (wrapAll diagrams rest queue).1 := by
          simp only [wrapAll, wrap, diagram_block, if_true]
        rw [step, blocksOf_code, if_pos diagram_block, spliceNodes_cons, spliceNode_diagram,
          ih free queue]
        rw [substitute_code, if_pos diagram_block]
        rfl
      · have step : (wrapAll diagrams (.code c :: rest) queue).1 =
            container c [.placeholder queue.length] ::
              (wrapAll diagrams rest (queue ++ [⟨queue.length, c.value, languageOf c⟩])).1 := by
          simp only [wrapAll, wrap, diagram_block, if_false, Bool.false_eq_true]
        have later := ih free (queue ++ [⟨queue.length, c.value, languageOf c⟩]) more
        rw [List.length_append, List.length_singleton] at later
        rw [step, blocksOf_code, if_neg diagram_block, List.map_cons, List.cons_append,
          spliceNodes_cons, spliceNode_container, later, List.length_cons,
          Nat.add_right_comm, Nat.add_assoc]
        rw [substitute_code, if_neg diagram_block]
        rfl
  | _ n rest ih =>
      exact congrArg (fun result => (_ :: result.1, result.2)) (ih free queue more)

/-- The placeholders behind the substitution are those in the markup that was put in. -/
theorem handlesOf_substitute (diagrams : List String) (inside : CodeBlock → List Node)
    {nodes : List Node} (free : handlesOf nodes = []) :
    handlesOf (substitute diagrams inside nodes) =
      (blocksOf diagrams nodes).flatMap fun c => handlesOf (inside c) := by
  induction nodes using Node.forest_induction with
  | nil => rfl
  | element tag attrs children transparent rest inner outer =>
      rw [handlesOf_element, List.append_eq_nil_iff] at free
      have step : substitute diagrams inside (.element tag attrs children transparent :: rest) =
          .element tag attrs (substitute diagrams inside children) transparent ::
            substitute diagrams inside rest := rfl
      rw [step, handlesOf_element, inner free.1, outer free.2, blocksOf_element,
        List.flatMap_append]
  | placeholder handle rest ih => cases free
  | code c rest ih =>
      rw [substitute_code, blocksOf_code]
      split_ifs
      · rw [diagram, handlesOf_element, ih free]
        rfl
      · rw [container, handlesOf_element, ih free]
        rfl
  | _ n rest ih => exact ih free

/-! ## Resolving -/

theorem resolve_eq (h : Highlighter) (table : LanguageTable) (r : Request) :
    (resolve h table r).1.handle = r.handle ∧
      (resolve h table r).1.nodes = markup h r.code (usedLanguage h table r.lang) := by
  unfold resolve usedLanguage
  by_cases plain : r.lang = plaintext
  · simp [plain]
  · simp only [plain, if_false, false_or, ← fst_ensure]
    trivial

/-- Each request is resolved as if it were alone. -/
theorem resolveAll_eq (h : Highlighter) (table : LanguageTable) (requests : List Request) :
    (resolveAll h table requests).1.map (fun r => (r.handle, r.nodes)) =
      requests.map fun r => (r.handle, markup h r.code (usedLanguage h table r.lang)) := by
  induction requests generalizing table with
  | nil => rfl
  | cons r rest ih =>
      obtain ⟨handle, nodes⟩ := resolve_eq h table r
      have same : ∀ lang,
          usedLanguage h (resolve h table r).2 lang = usedLanguage h table lang := by
        intro lang
        rw [usedLanguage, available_resolve, usedLanguage]
      have later := ih (resolve h table r).2
      simp only [same] at later
      rw [List.map_cons, ← handle, ← nodes, ← later]
      rfl

/-- The results for the requests of code blocks are their markups in order. -/
theorem results_requestsFrom (h : Highlighter) (table : LanguageTable) (start : Nat)
    (blocks : List CodeBlock) :
    (resolveAll h table (requestsFrom start blocks)).1.map (fun r => (r.handle, r.nodes)) =
      numbered start (blocks.map (highlighted h table)) := by
  rw [resolveAll_eq, requestsFrom, numbered, List.zipIdx_map, List.map_map, List.map_map]
  rfl

/-! ## Partitions -/

theorem wrapAll_append (diagrams : List String) (left right : List Node) (queue : List Request) :
    wrapAll diagrams (left ++ right) queue =
      ((wrapAll diagrams left queue).1 ++
          (wrapAll diagrams right (wrapAll diagrams left queue).2).1,
        (wrapAll diagrams right (wrapAll diagrams left queue).2).2) := by
  induction left generalizing queue with
  | nil => rfl
  | cons n left ih =>
      have step : ∀ rest, wrapAll diagrams (n :: rest) queue =
          ((wrap diagrams n queue).1 :: (wrapAll diagrams rest (wrap diagrams n queue).2).1,
            (wrapAll diagrams rest (wrap diagrams n queue).2).2) := fun _ => rfl
      rw [List.cons_append, step, step, ih]
      rfl

theorem wrapAll_flatMap (diagrams : List String) (partitions : List Partition)
    (queue : List Request) :
    wrapAll diagrams (partitions.flatMap Partition.children) queue =
      ((wrapPartitions diagrams partitions queue).1.flatMap Partition.children,
        (wrapPartitions diagrams partitions queue).2) := by
  induction partitions generalizing queue with
  | nil => rfl
  | cons p partitions ih =>
      rw [List.flatMap_cons, wrapAll_append, ih]
      rfl

theorem wrapAll_toSection (diagrams : List String) (partitions : List Partition)
    (queue : List Request) :
    wrapAll diagrams (partitions.map Partition.toSection) queue =
      ((wrapPartitions diagrams partitions queue).1.map Partition.toSection,
        (wrapPartitions diagrams partitions queue).2) := by
  induction partitions generalizing queue with
  | nil => rfl
  | cons p partitions ih =>
      have step : wrapAll diagrams ((p :: partitions).map Partition.toSection) queue =
          ({ p with children := (wrapAll diagrams p.children queue).1 }.toSection ::
              (wrapAll diagrams (partitions.map Partition.toSection)
                (wrapAll diagrams p.children queue).2).1,
            (wrapAll diagrams (partitions.map Partition.toSection)
              (wrapAll diagrams p.children queue).2).2) := rfl
      rw [step, ih]
      rfl

/-- Wrapping the partitions of a page in turn is wrapping the nodes of the page. -/
theorem wrapAll_toNodes (diagrams : List String) (layout : SplitLayout) (queue : List Request) :
    wrapAll diagrams layout.toNodes queue =
      ({ layout with partitions := (wrapPartitions diagrams layout.partitions queue).1 }.toNodes,
        (wrapPartitions diagrams layout.partitions queue).2) := by
  unfold SplitLayout.toNodes
  split_ifs
  · exact wrapAll_toSection diagrams layout.partitions queue
  · exact wrapAll_flatMap diagrams layout.partitions queue

/-- Replacing the code blocks of each partition replaces those of the page. -/
theorem substitute_toNodes (diagrams : List String) (inside : CodeBlock → List Node)
    (layout : SplitLayout) :
    (layout.mapNodes (substitute diagrams inside)).toNodes =
      substitute diagrams inside layout.toNodes := by
  obtain ⟨partitions, enabled, vertical⟩ := layout
  cases enabled with
  | true =>
      induction partitions with
      | nil => rfl
      | cons p partitions ih => exact congrArg (_ :: ·) ih
  | false =>
      induction partitions with
      | nil => rfl
      | cons p partitions ih =>
          exact (congrArg (substitute diagrams inside p.children ++ ·) ih).trans
            (graft_append _ _ _).symm

/-- The partitions of a page are prepared by placing their images and then wrapping their code. -/
theorem preparePartitions_eq (images : Slide.ImageOptions) (diagrams : List String)
    (partitions : List Partition) (queue : List Request) :
    preparePartitions images diagrams partitions queue =
      wrapPartitions diagrams
        (partitions.map (Partition.mapNodes (Slide.applyImages images))) queue := by
  induction partitions generalizing queue with
  | nil => rfl
  | cons p partitions ih =>
      simp only [preparePartitions, ih, List.map_cons, wrapPartitions, Partition.mapNodes]

/-- Highlighting in phases is direct substitution. Wrap the code blocks of partitions without
placeholders in turn, resolve the requests with any table of tried languages, and put the results in
place in the nodes of the layout: this replaces each code block by its element, with its own markup
inside unless it is a diagram. There is one result for each block that is highlighted, in document
order, none of them is left over, and the only placeholders left stand in the markup that the
highlighter gave. -/
theorem splice_wrapPartitions (h : Highlighter) (table : LanguageTable) (diagrams : List String)
    (layout : SplitLayout) (free : ∀ p ∈ layout.partitions, handlesOf p.children = []) :
    let wrapped := wrapPartitions diagrams layout.partitions []
    let nodes := { layout with partitions := wrapped.1 }.toNodes
    let results := (resolveAll h table wrapped.2).1.map fun r => (r.handle, r.nodes)
    let blocks := blocksOf diagrams (layout.partitions.flatMap Partition.children)
    splice nodes results =
        (layout.mapNodes (substitute diagrams (highlighted h table))).toNodes ∧
      results = (blocks.map (highlighted h table)).zipIdx.map Prod.swap ∧
      (spliceNodes nodes (Dict.ofList results)).2 = Dict.empty ∧
      handlesOf (splice nodes results) =
        blocks.flatMap fun c => handlesOf (highlighted h table c) := by
  intro wrapped nodes results blocks
  have free_page : handlesOf layout.toNodes = [] := by
    rw [handlesOf, leaves_toNodes, leaves_flatMap, List.filterMap_flatMap,
      List.flatMap_eq_nil_iff]
    exact free
  have wrapped_eq : wrapAll diagrams layout.toNodes [] = (nodes, wrapped.2) :=
    wrapAll_toNodes diagrams layout []
  have blocks_eq : blocksOf diagrams layout.toNodes = blocks := by
    rw [blocksOf, leaves_toNodes]
    rfl
  have results_eq : results = numbered 0 (blocks.map (highlighted h table)) := by
    have queue : wrapped.2 = requestsFrom 0 blocks := by
      rw [← blocks_eq]
      simpa [wrapped_eq] using queue_wrapAll diagrams layout.toNodes []
    rw [← results_requestsFrom, ← queue]
  have spliced : spliceNodes nodes (Dict.ofList results) =
      (substitute diagrams (highlighted h table) layout.toNodes, Dict.empty) := by
    have whole := spliceNodes_wrapAll diagrams (highlighted h table) free_page [] []
    rw [wrapped_eq, List.append_nil, blocks_eq] at whole
    rw [results_eq, ofList_numbered]
    exact whole
  have splice_eq : splice nodes results =
      substitute diagrams (highlighted h table) layout.toNodes := congrArg Prod.fst spliced
  refine ⟨?_, results_eq, congrArg Prod.snd spliced, ?_⟩
  · rw [splice_eq, substitute_toNodes]
  · rw [splice_eq, handlesOf_substitute _ _ free_page, blocks_eq]

/-- A highlighter that knows one language, and whose markup holds a placeholder of another block. -/
def thief : Highlighter where
  load lang := if lang = "rust" then .ok () else .error (.unknownLanguage lang)
  highlight code lang := .ok [.text (lang ++ ":" ++ code), .placeholder 1]

/-- Two partitions with a block each and a diagram between them. -/
def twoPartitions : SplitLayout where
  partitions :=
    [{ size := "1fr", children := [.plain "li" [.code ⟨"a", some "rust", none⟩]]
       directives := Dict.empty },
      { size := "1fr"
        children := [.code ⟨"d", some "mermaid", none⟩, .code ⟨"b", some "lost", none⟩]
        directives := Dict.empty }]
  enabled := false
  vertical := false

/-- The placeholder in the markup of the first block does not take the markup of the second. -/
theorem splice_thief :
    let wrapped := wrapPartitions ["mermaid"] twoPartitions.partitions []
    let results := (resolveAll thief Dict.empty wrapped.2).1.map fun r => (r.handle, r.nodes)
    (∀ p ∈ twoPartitions.partitions, handlesOf p.children = []) ∧
      splice { twoPartitions with partitions := wrapped.1 }.toNodes results =
        [.plain "li" [container ⟨"a", some "rust", none⟩ [.text "rust:a", .placeholder 1]],
          diagram ⟨"d", some "mermaid", none⟩,
          container ⟨"b", some "lost", none⟩ [.text "plaintext:b", .placeholder 1]] := by
  have free : ∀ p ∈ twoPartitions.partitions, handlesOf p.children = [] := by decide
  exact ⟨free, (splice_wrapPartitions thief Dict.empty ["mermaid"] twoPartitions free).1.trans rfl⟩

end Highlight

end SlideDeck
