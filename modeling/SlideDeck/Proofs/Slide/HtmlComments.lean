import Mathlib.Data.List.TakeWhile
import SlideDeck.Proofs.Text.Mark
import SlideDeck.Slide.Lower

/-!
# Comments in HTML

HTML becomes comments if it is made of comments and white space around them, and is kept whole
otherwise (`htmlNodes_commentRun`). The scan for the comments goes round by round, each round taking
one comment off the text, so it comes to an end on every text (`scans_iff`).
-/

namespace SlideDeck.Slide

/-- A comment. -/
def commentMarkup (body : List Char) : List Char := "<!--".toList ++ (body ++ "-->".toList)

/-- A text made of comments, with white space in front of them and behind each of them. -/
inductive Comments : List Char → List (List Char) → Prop
  /-- White space. -/
  | blank {gap : List Char} (blank : ∀ c ∈ gap, Text.isBlank c = true) : Comments gap []
  /-- A comment behind white space, and what follows it. No comment has its end in its body. -/
  | cons {gap body rest : List Char} {bodies : List (List Char)}
      (blank : ∀ c ∈ gap, Text.isBlank c = true) (closed : ¬"-->".toList <:+: body)
      (behind : Comments rest bodies) :
      Comments (gap ++ (commentMarkup body ++ rest)) (body :: bodies)

/-! ## The scan -/

/-- The comment that a text starts with, and the text behind it. -/
def firstComment? (s : List Char) : Option (List Char × List Char) :=
  (Text.stripStart? "<!--".toList s).bind (Text.cutAtMark "-->".toList)

/-- The rounds of the scan, and what it finds. -/
inductive Scans : List Char → Option (List (List Char)) → Prop
  /-- Nothing is left. -/
  | done {s : List Char} (blank : Text.trimStart s = []) : Scans s (some [])
  /-- Something is left that is no comment. -/
  | refused {s : List Char} (visible : Text.trimStart s ≠ [])
      (none_there : firstComment? (Text.trimStart s) = none) : Scans s none
  /-- A comment is taken off. -/
  | round {s body after : List Char} {found : Option (List (List Char))}
      (visible : Text.trimStart s ≠ [])
      (taken : firstComment? (Text.trimStart s) = some (body, after)) (behind : Scans after found) :
      Scans s (found.map (body :: ·))

theorem firstComment?_eq_some {s body after : List Char}
    (taken : firstComment? s = some (body, after)) :
    s = commentMarkup body ++ after ∧ ¬"-->".toList <:+: body := by
  obtain ⟨inside, opened, cut⟩ := Option.bind_eq_some_iff.mp taken
  refine ⟨?_, Text.not_infix_of_cutAtMark (by decide) cut⟩
  rw [Text.stripStart?_eq_some.mp opened, Text.eq_of_cutAtMark cut, commentMarkup,
    List.append_assoc, List.append_assoc]

theorem firstComment?_append {body : List Char} (closed : ¬"-->".toList <:+: body)
    (after : List Char) : firstComment? (commentMarkup body ++ after) = some (body, after) := by
  have opened : Text.stripStart? "<!--".toList (commentMarkup body ++ after) =
      some (body ++ ("-->".toList ++ after)) := by
    rw [Text.stripStart?_eq_some, commentMarkup, List.append_assoc, List.append_assoc]
  rw [firstComment?, opened, Option.bind_some, Text.cutAtMark_commentEnd closed]

theorem trimStart_of_blank {gap : List Char} (blank : ∀ c ∈ gap, Text.isBlank c = true) :
    Text.trimStart gap = [] := List.dropWhile_eq_nil_iff.mpr blank

theorem trimStart_append_commentMarkup {gap : List Char}
    (blank : ∀ c ∈ gap, Text.isBlank c = true) (body rest : List Char) :
    Text.trimStart (gap ++ (commentMarkup body ++ rest)) = commentMarkup body ++ rest := by
  rw [Text.trimStart, List.dropWhile_append_of_pos blank]
  rfl

/-- White space in front of a text, and the rest. -/
theorem exists_gap (s : List Char) :
    ∃ gap, s = gap ++ Text.trimStart s ∧ ∀ c ∈ gap, Text.isBlank c = true :=
  ⟨s.takeWhile Text.isBlank, List.takeWhile_append_dropWhile.symm,
    fun _ member => List.mem_takeWhile_imp member⟩

/-- Comments are what the scan finds. -/
theorem scans_some_iff {s : List Char} {bodies : List (List Char)} :
    Scans s (some bodies) ↔ Comments s bodies := by
  constructor
  · intro scans
    generalize same : some bodies = found at scans
    induction scans generalizing bodies with
    | @done s blank =>
        obtain rfl := Option.some.inj same
        obtain ⟨gap, made, spaces⟩ := exists_gap s
        rw [made, blank, List.append_nil]
        exact .blank spaces
    | refused => cases same
    | @round s body after found _ taken _ ih =>
        obtain ⟨bodies, rfl, rfl⟩ := Option.map_eq_some_iff.mp same.symm
        obtain ⟨gap, made, spaces⟩ := exists_gap s
        obtain ⟨starts, closed⟩ := firstComment?_eq_some taken
        rw [made, starts]
        exact .cons spaces closed (ih rfl)
  · intro comments
    induction comments with
    | blank blank => exact .done (trimStart_of_blank blank)
    | @cons gap body rest bodies blank closed _ ih =>
        have trimmed := trimStart_append_commentMarkup blank body rest
        have taken : firstComment? (Text.trimStart (gap ++ (commentMarkup body ++ rest))) =
            some (body, rest) := by
          rw [trimmed, firstComment?_append closed]
        refine .round ?_ taken ih
        rw [trimmed]
        exact List.cons_ne_nil _ _

theorem Scans.unique {s : List Char} {found other : Option (List (List Char))}
    (scans : Scans s found) (again : Scans s other) : found = other := by
  induction scans generalizing other with
  | done blank =>
      cases again with
      | done => rfl
      | refused visible => exact absurd blank visible
      | round visible => exact absurd blank visible
  | refused visible none_there =>
      cases again with
      | done blank => exact absurd blank visible
      | refused => rfl
      | round _ taken =>
          rw [none_there] at taken
          cases taken
  | round visible taken _ ih =>
      cases again with
      | done blank => exact absurd blank visible
      | refused _ none_there =>
          rw [taken] at none_there
          cases none_there
      | round _ taken' behind =>
          obtain ⟨rfl, rfl⟩ := Prod.mk.inj (Option.some.inj (taken.symm.trans taken'))
          rw [ih behind]

/-- The scan round by round. -/
theorem commentBodies?_succ (fuel : Nat) (s : List Char) :
    commentBodies? (fuel + 1) s =
      if Text.trimStart s = [] then some []
      else (firstComment? (Text.trimStart s)).bind fun cut =>
        (commentBodies? fuel cut.2).map (cut.1 :: ·) := by
  rw [commentBodies?]
  cases Text.trimStart s with
  | nil => rfl
  | cons c rest =>
      rw [if_neg (List.cons_ne_nil c rest), firstComment?, Option.bind_assoc]
      refine Option.bind_congr fun inside _ => Option.bind_congr fun cut _ => ?_
      exact Option.map_eq_bind.symm

/-- Every text is scanned to its end: a round leaves less than it starts with, so the bound on the
number of comments is never met. -/
theorem scans_commentBodies? {fuel : Nat} {s : List Char} (enough : s.length < fuel) :
    Scans s (commentBodies? fuel s) := by
  induction fuel generalizing s with
  | zero => contradiction
  | succ fuel ih =>
      rw [commentBodies?_succ]
      split_ifs with blank
      · exact .done blank
      · cases taken : firstComment? (Text.trimStart s) with
        | none => exact .refused blank taken
        | some cut =>
            obtain ⟨gap, made, -⟩ := exists_gap s
            have shorter : cut.2.length < s.length := by
              rw [made, (firstComment?_eq_some taken).1]
              simp [commentMarkup]
              omega
            exact .round blank taken (ih (by omega))

/-- The scan comes to an end on every text, with the one result that the bounded scan has. -/
theorem scans_iff {fuel : Nat} {s : List Char} (enough : s.length < fuel)
    {found : Option (List (List Char))} : Scans s found ↔ commentBodies? fuel s = found :=
  ⟨(scans_commentBodies? enough).unique, fun same => same ▸ scans_commentBodies? enough⟩

/-! ## The nodes -/

/-- A run of comments: at least one, with white space around them. -/
def IsCommentRun (s : List Char) (bodies : List (List Char)) : Prop :=
  Comments s bodies ∧ bodies ≠ []

theorem length_toList_lt (value : String) : value.toList.length < value.length + 1 := by
  rw [String.length_toList]
  exact Nat.lt_succ_self _

theorem commentBodies?_eq_some_iff {value : String} {bodies : List (List Char)} :
    commentBodies? (value.length + 1) value.toList = some bodies ↔
      Comments value.toList bodies := by
  rw [← scans_iff (length_toList_lt value), scans_some_iff]

/-- The nodes of comments with given bodies. -/
def commentNodes (bodies : List (List Char)) : List Node :=
  bodies.map fun body => .comment (String.ofList body)

theorem commentNodes_injective {bodies others : List (List Char)}
    (same : commentNodes bodies = commentNodes others) : bodies = others := by
  refine (List.map_inj_right fun body other equal => ?_).mp same
  exact String.ofList_injective (Node.comment.inj equal)

theorem raw_not_mem_commentNodes (value : String) (bodies : List (List Char)) :
    .raw value ∉ commentNodes bodies := by
  simp [commentNodes]

theorem IsCommentRun.unique {value : String} {bodies others : List (List Char)}
    (run : IsCommentRun value.toList bodies) (again : IsCommentRun value.toList others) :
    bodies = others :=
  Option.some.inj ((commentBodies?_eq_some_iff.mpr run.1).symm.trans
    (commentBodies?_eq_some_iff.mpr again.1))

/-- A piece of HTML is a run of comments and gives one node for each, or it is none and is kept. -/
theorem htmlNodes_cases (value : String) :
    (∃ bodies, IsCommentRun value.toList bodies ∧ htmlNodes value = commentNodes bodies) ∨
      (∀ bodies, ¬IsCommentRun value.toList bodies) ∧ htmlNodes value = [.raw value] := by
  unfold htmlNodes
  match found : commentBodies? (value.length + 1) value.toList with
  | some (body :: bodies) =>
      exact .inl ⟨body :: bodies,
        ⟨commentBodies?_eq_some_iff.mp found, List.cons_ne_nil body bodies⟩, rfl⟩
  | some [] =>
      refine .inr ⟨fun bodies run => ?_, rfl⟩
      rw [commentBodies?_eq_some_iff.mpr run.1] at found
      exact run.2 (Option.some.inj found)
  | none =>
      refine .inr ⟨fun bodies run => ?_, rfl⟩
      rw [commentBodies?_eq_some_iff.mpr run.1] at found
      cases found

/-- A piece of HTML becomes comments exactly if it is made of comments and white space around them,
with at least one comment and no end of a comment in a body. Then its nodes are those bodies in
order. Otherwise its only node is the text as it is. The scan that decides it comes to an end on
every text. -/
theorem htmlNodes_commentRun (value : String) :
    (∀ found, Scans value.toList found ↔
      commentBodies? (value.length + 1) value.toList = found) ∧
    ((∃ body, .comment body ∈ htmlNodes value) ↔ ∃ bodies, IsCommentRun value.toList bodies) ∧
    (∀ bodies, IsCommentRun value.toList bodies ↔ htmlNodes value = commentNodes bodies) ∧
    ((∀ bodies, ¬IsCommentRun value.toList bodies) ↔ htmlNodes value = [.raw value]) := by
  refine ⟨fun found => scans_iff (length_toList_lt value), ?_⟩
  obtain ⟨bodies, run, nodes⟩ | ⟨no_run, nodes⟩ := htmlNodes_cases value
  · rw [nodes]
    have comment : ∃ body, .comment body ∈ commentNodes bodies := by
      obtain ⟨first, rest, rfl⟩ := List.exists_cons_of_ne_nil run.2
      exact ⟨_, List.mem_cons_self⟩
    refine ⟨iff_of_true comment ⟨bodies, run⟩, fun others => ⟨fun again => ?_, fun same => ?_⟩,
      iff_of_false (fun no_run => no_run bodies run) fun same => ?_⟩
    · rw [run.unique again]
    · exact commentNodes_injective same ▸ run
    · exact raw_not_mem_commentNodes value bodies (same ▸ List.mem_singleton_self _)
  · rw [nodes]
    refine ⟨iff_of_false ?_ fun ⟨bodies, run⟩ => no_run bodies run,
      fun bodies => iff_of_false (no_run bodies) fun same => ?_, iff_of_true no_run rfl⟩
    · rintro ⟨body, member⟩
      cases List.mem_singleton.mp member
    · exact raw_not_mem_commentNodes value bodies (same ▸ List.mem_singleton_self _)

/-- The first end of a comment counts, and markup behind comments makes all of it raw. -/
example : htmlNodes " <!-- a --->\n<!---->" = commentNodes [" a -".toList, []] ∧
    htmlNodes "<!-- a --> <b>" = [.raw "<!-- a --> <b>"] := ⟨rfl, rfl⟩

end SlideDeck.Slide
