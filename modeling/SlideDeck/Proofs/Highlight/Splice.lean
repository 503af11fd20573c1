import SlideDeck.Proofs.Highlight.Substitution

/-!
# Placeholders and their markup

Putting markup in place goes through a forest in document order and takes what it puts in from a
table. What the table still gives is decided by the placeholders met so far (`Unused`), so each
placeholder is filled by what stands in front of it (`splice_fills`). The same happens in place,
where an index walks over a list that grows or shrinks under it: what lies behind the index gets
smaller with every step, whatever is put in (`splicedFrom`), so the walk ends with the same forest
(`splicedFrom_eq`).
-/

namespace SlideDeck

open Slide (Node handlesOf)

/-- A dictionary of a list of entries holds the last value of each key. -/
theorem Dict.get?_ofList {κ α : Type} [LT κ] [DecidableLT κ] [DecidableEq κ]
    (entries : List (κ × α)) (key : κ) :
    (Dict.ofList entries).get? key =
      ((entries.filter fun e => e.1 = key).getLast?).map Prod.snd := by
  induction entries using List.reverseRecOn with
  | nil => rfl
  | append_singleton entries entry ih =>
      have step : Dict.ofList (entries ++ [entry]) =
          (Dict.ofList entries).insert entry.1 entry.2 := by
        rw [Dict.ofList, Dict.ofList, List.foldl_append, List.foldl_cons, List.foldl_nil]
      rw [step, Dict.get?_insert, ih, List.filter_append, List.getLast?_append]
      by_cases same : entry.1 = key <;> simp [same]

namespace Highlight

/-- The markup of the last result with a number, and none without a result. -/
def lastMarkup (results : List (Nat × List Node)) (handle : Nat) : List Node :=
  ((results.filter fun r => r.1 = handle).getLast?.map Prod.snd).getD []

/-- What a placeholder is filled with, `before` being the numbers of the placeholders in front of
it: the markup of its number, unless one of them has the same number. -/
def firstMarkup (results : List (Nat × List Node)) (before : List Nat) (handle : Nat) :
    List Node :=
  if handle ∈ before then [] else lastMarkup results handle

mutual

/-- Fills the placeholders of a node, `before` being the numbers of those in front of it. -/
def fillIn (markup : List Nat → Nat → List Node) (before : List Nat) : Node → List Node
  | .placeholder handle => markup before handle
  | .element tag attrs children transparent =>
    [.element tag attrs (fill markup before children) transparent]
  | n => [n]

/-- Fills the placeholders of a forest by what their numbers and those in front of them in document
order say. All other nodes stay as they are. -/
def fill (markup : List Nat → Nat → List Node) (before : List Nat) : List Node → List Node
  | [] => []
  | n :: rest => fillIn markup before n ++ fill markup (before ++ handlesOf [n]) rest

end

theorem handlesOf_placeholder (handle : Nat) (rest : List Node) :
    handlesOf (.placeholder handle :: rest) = handle :: handlesOf rest := rfl

theorem fill_element (markup : List Nat → Nat → List Node) (before : List Nat) (tag : String)
    (attrs : Attributes) (children : List Node) (transparent : Bool) (rest : List Node) :
    fill markup before (.element tag attrs children transparent :: rest) =
      .element tag attrs (fill markup before children) transparent ::
        fill markup (before ++ handlesOf children) rest := by
  have inside : handlesOf [.element tag attrs children transparent] = handlesOf children := by
    rw [handlesOf_element]
    exact List.append_nil _
  rw [fill, inside]
  rfl

/-- A node without placeholders that stays as it is. -/
theorem fill_leaf {markup : List Nat → Nat → List Node} {before : List Nat} {n : Node}
    (stays : fillIn markup before n = [n]) (free : handlesOf [n] = []) (rest : List Node) :
    fill markup before (n :: rest) = n :: fill markup before rest := by
  rw [fill, stays, free, List.append_nil, List.singleton_append]

/-! ## The table -/

/-- A table gives every number what the placeholders met so far leave to it. -/
def Unused (results : List (Nat × List Node)) (before : List Nat) (found : Replacements) : Prop :=
  ∀ handle, (found.get? handle).getD [] = firstMarkup results before handle

theorem unused_ofList (results : List (Nat × List Node)) :
    Unused results [] (Dict.ofList results) := by
  intro handle
  rw [Dict.get?_ofList, firstMarkup, if_neg List.not_mem_nil, lastMarkup]

/-- A placeholder takes what was left to its number. -/
theorem Unused.erase {results : List (Nat × List Node)} {before : List Nat}
    {found : Replacements} (unused : Unused results before found) (handle : Nat) :
    Unused results (before ++ [handle]) (found.erase handle) := by
  intro other
  rw [Dict.get?_erase]
  by_cases same : handle = other
  · simp [firstMarkup, same]
  · have met : other ∈ before ++ [handle] ↔ other ∈ before := by simp [Ne.symm same]
    rw [if_neg same, unused other, firstMarkup, firstMarkup]
    simp only [met]

/-- Putting markup in place fills each placeholder, and leaves what it has not met. -/
theorem spliceNodes_fills {results : List (Nat × List Node)} (nodes : List Node)
    {before : List Nat} {found : Replacements} (unused : Unused results before found) :
    (spliceNodes nodes found).1 = fill (firstMarkup results) before nodes ∧
      Unused results (before ++ handlesOf nodes) (spliceNodes nodes found).2 := by
  induction nodes using Node.forest_induction generalizing before found with
  | nil => exact ⟨rfl, (List.append_nil before).symm ▸ unused⟩
  | element tag attrs children transparent rest inner outer =>
      obtain ⟨inside, left⟩ := inner unused
      obtain ⟨behind, left⟩ := outer left
      rw [spliceNodes_cons, spliceNode_element, fill_element, handlesOf_element,
        ← List.append_assoc, inside, behind]
      exact ⟨rfl, left⟩
  | placeholder handle rest ih =>
      obtain ⟨behind, left⟩ := ih (unused.erase handle)
      rw [spliceNodes_cons, handlesOf_placeholder, List.append_cons before]
      refine ⟨?_, left⟩
      simp only [spliceNode, unused handle, behind]
      rfl
  | _ n rest ih =>
      obtain ⟨behind, left⟩ := ih unused
      exact ⟨(congrArg (_ :: ·) behind).trans (fill_leaf rfl rfl rest).symm, left⟩

/-! ## In place -/

/-- The nodes from an index on are the node there and those behind it. -/
theorem drop_eq_cons {nodes : List Node} {i : Nat} {n : Node} (here : nodes[i]? = some n) :
    nodes.drop i = n :: nodes.drop (i + 1) := by
  obtain ⟨within, rfl⟩ := List.getElem?_eq_some_iff.mp here
  exact List.drop_eq_getElem_cons within

/-- What stands behind an index is smaller than what stands from it on. -/
theorem sizeOf_drop {nodes : List Node} {i : Nat} {n : Node} (here : nodes[i]? = some n) :
    sizeOf (nodes.drop i) = 1 + sizeOf n + sizeOf (nodes.drop (i + 1)) := by
  rw [drop_eq_cons here, List.cons.sizeOf_spec]

/-- Where a list is cut behind what was put in for one of its nodes. -/
theorem length_replaced {nodes : List Node} {i : Nat} {n : Node} (here : nodes[i]? = some n)
    (markup : List Node) : (nodes.take i ++ markup).length = i + markup.length := by
  obtain ⟨within, -⟩ := List.getElem?_eq_some_iff.mp here
  rw [List.length_append, List.length_take, Nat.min_eq_left (Nat.le_of_lt within)]

theorem drop_replaced {nodes : List Node} {i : Nat} {n : Node} (here : nodes[i]? = some n)
    (markup : List Node) :
    (nodes.take i ++ markup ++ nodes.drop (i + 1)).drop (i + markup.length) =
      nodes.drop (i + 1) := by
  rw [← length_replaced here, List.drop_left]

theorem take_replaced {nodes : List Node} {i : Nat} {n : Node} (here : nodes[i]? = some n)
    (markup : List Node) :
    (nodes.take i ++ markup ++ nodes.drop (i + 1)).take (i + markup.length) =
      nodes.take i ++ markup := by
  rw [← length_replaced here, List.take_left]

theorem take_set {nodes : List Node} {i : Nat} {n : Node} (here : nodes[i]? = some n)
    (changed : Node) : (nodes.set i changed).take (i + 1) = nodes.take i ++ [changed] := by
  obtain ⟨within, -⟩ := List.getElem?_eq_some_iff.mp here
  rw [List.set_eq_take_append_cons_drop, if_pos within, ← List.singleton_append,
    ← List.append_assoc]
  exact List.take_left' (length_replaced here [changed])

/-- Puts markup in the places of the placeholders from an index on. The markup is put into the list
itself, and the index goes on behind it. -/
def splicedFrom (nodes : List Node) (i : Nat) (found : Replacements) : List Node × Replacements :=
  match here : nodes[i]? with
  | none => (nodes, found)
  | some (.placeholder handle) =>
    let markup := (found.get? handle).getD []
    splicedFrom (nodes.take i ++ markup ++ nodes.drop (i + 1)) (i + markup.length)
      (found.erase handle)
  | some (.element tag attrs children transparent) =>
    let inner := splicedFrom children 0 found
    splicedFrom (nodes.set i (.element tag attrs inner.1 transparent)) (i + 1) inner.2
  | some _ => splicedFrom nodes (i + 1) found
termination_by sizeOf (nodes.drop i)
decreasing_by
  · rw [drop_replaced here, sizeOf_drop here]
    omega
  · rw [List.drop_zero, sizeOf_drop here, Node.element.sizeOf_spec]
    omega
  · rw [List.drop_set_of_lt (Nat.lt_add_one i), sizeOf_drop here]
    omega
  · rw [sizeOf_drop here]
    omega

/-- The walk leaves what stands in front of the index alone and ends with the markup in place. -/
theorem splicedFrom_eq (nodes : List Node) (i : Nat) (found : Replacements) :
    splicedFrom nodes i found =
      (nodes.take i ++ (spliceNodes (nodes.drop i) found).1,
        (spliceNodes (nodes.drop i) found).2) := by
  fun_induction splicedFrom nodes i found with
  | case1 nodes i found here =>
      have past : nodes.length ≤ i := List.getElem?_eq_none_iff.mp here
      rw [List.drop_eq_nil_of_le past, List.take_of_length_le past]
      simp [spliceNodes]
  | case2 nodes i found handle here markup ih =>
      rw [ih, drop_replaced here, take_replaced here, drop_eq_cons here, spliceNodes_cons,
        List.append_assoc]
      rfl
  | case3 nodes i found tag attrs children transparent here inner inner_ih ih =>
      have inside : inner = spliceNodes children found := inner_ih
      have step : spliceNode (.element tag attrs children transparent) found =
          ([.element tag attrs inner.1 transparent], inner.2) := by
        rw [spliceNode_element, inside]
      rw [ih, List.drop_set_of_lt (Nat.lt_add_one i), take_set here, drop_eq_cons here,
        spliceNodes_cons, step, List.append_assoc]
  | case4 nodes i found n no_placeholder no_element here ih =>
      have step : spliceNode n found = ([n], found) := by
        cases n with
        | placeholder handle => exact absurd rfl (no_placeholder handle)
        | element tag attrs children transparent =>
            exact absurd rfl (no_element tag attrs children transparent)
        | _ => rfl
      rw [ih, drop_eq_cons here, spliceNodes_cons, step]
      obtain ⟨within, rfl⟩ := List.getElem?_eq_some_iff.mp here
      rw [List.take_succ_eq_append_getElem within, List.append_assoc]

/-- Markup takes the places of placeholders and changes nothing else. In document order the first
placeholder of a number is filled with the markup of the last result with this number, and is not
looked into again; every other placeholder goes. All other nodes keep their places, their tags and
their attributes. Done in place, by an index over the changing list, this ends with the same
forest. -/
theorem splice_fills (nodes : List Node) (results : List (Nat × List Node)) :
    splice nodes results = fill (firstMarkup results) [] nodes ∧
      (splicedFrom nodes 0 (Dict.ofList results)).1 = splice nodes results := by
  refine ⟨(spliceNodes_fills nodes (unused_ofList results)).1, ?_⟩
  rw [splicedFrom_eq, List.drop_zero, List.take_zero, List.nil_append]
  rfl

/-- The last result of a number counts, and only once; what it holds is not filled. -/
example :
    splice [.placeholder 1, .plain "p" [.placeholder 1, .placeholder 2, .text "c"]]
        [(1, [.text "a"]), (1, [.placeholder 2, .text "b"])] =
      [.placeholder 2, .text "b", .plain "p" [.text "c"]] := rfl

end Highlight

end SlideDeck
