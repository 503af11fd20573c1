import SlideDeck.Proofs.Markdown.Tree
import SlideDeck.Proofs.Slide.HtmlComments
import SlideDeck.Proofs.Slide.Lower

/-!
# Reading order

What a page says, piece by piece in document order: its texts, code, images, markup and comments.
A page without footnotes says the same as Markdown and as slide nodes (`readingOrder_lower`), if it
is made of nodes that slides have a use for and its tables are made of rows of cells. Headings,
emphasis, links, lists, quotes and tables only group what is in them.
-/

namespace SlideDeck

/-- A piece of content. -/
inductive ContentLeaf where
  /-- Text. -/
  | text (s : String)
  /-- A code span. -/
  | inlineCode (s : String)
  /-- A code block. -/
  | code (c : CodeBlock)
  /-- An image. -/
  | image (i : Image)
  /-- Trusted markup. -/
  | raw (s : String)
  /-- The body of a comment. -/
  | comment (body : String)
deriving DecidableEq, Repr

/-! ## Slide nodes -/

namespace Slide

/-- The number of nodes in front of the content of an element: a task starts with its check box and
a space. -/
def taskMarks (tag : String) (attrs : Attributes) : List Node → Nat
  | .element box _ [] _ :: .text space :: _ =>
    if tag = "li" ∧ attrs.getText? "class" = some "task-list-item" ∧ box = "input" ∧ space = " "
    then 2 else 0
  | _ => 0

mutual

/-- The pieces of content in a node; the text of a `code` element is a code span. -/
def Node.reading : Node → List ContentLeaf
  | .element tag attrs children _ =>
    if tag = "code" then [.inlineCode (Node.textContents children)]
    else readingBehind (taskMarks tag attrs children) children
  | .text s => [.text s]
  | .raw s => [.raw s]
  | .comment body => [.comment body]
  | .image i => [.image i]
  | .code c => [.code c]
  | .placeholder _ => []

/-- The pieces of content in a forest behind its first nodes. -/
def readingBehind : Nat → List Node → List ContentLeaf
  | _, [] => []
  | 0, n :: rest => n.reading ++ readingBehind 0 rest
  | skipped + 1, _ :: rest => readingBehind skipped rest

end

/-- The pieces of content in a forest in document order. -/
def readingOrder (nodes : List Node) : List ContentLeaf := readingBehind 0 nodes

@[simp]
theorem readingOrder_nil : readingOrder [] = [] := rfl

@[simp]
theorem readingOrder_cons (n : Node) (rest : List Node) :
    readingOrder (n :: rest) = n.reading ++ readingOrder rest := rfl

@[simp]
theorem readingOrder_append (left right : List Node) :
    readingOrder (left ++ right) = readingOrder left ++ readingOrder right := by
  induction left with
  | nil => rfl
  | cons n left ih => simp [ih]

/-- True of the tag of an element that stands for what is in it. -/
def isGroupTag (tag : String) : Bool := tag != "code" && tag != "li"

theorem taskMarks_of_ne_li {tag : String} (other : tag ≠ "li") (attrs : Attributes)
    (children : List Node) : taskMarks tag attrs children = 0 := by
  unfold taskMarks
  split
  · exact if_neg fun task => other task.1
  · rfl

theorem reading_element {tag : String} (group : isGroupTag tag = true) (attrs : Attributes)
    (children : List Node) (transparent : Bool) :
    (Node.element tag attrs children transparent).reading = readingOrder children := by
  obtain ⟨not_code, not_item⟩ : tag ≠ "code" ∧ tag ≠ "li" := by simpa [isGroupTag] using group
  rw [Node.reading, if_neg not_code, taskMarks_of_ne_li not_item, readingOrder]

theorem isGroupTag_heading (depth : Nat) : isGroupTag ("h" ++ toString depth) = true := by
  have not_code : "h" ++ toString depth ≠ "code" := heading_ne depth (by decide : 'c' ≠ 'h')
  have not_item : "h" ++ toString depth ≠ "li" := heading_ne depth (by decide : 'l' ≠ 'h')
  simp only [isGroupTag, Bool.and_eq_true, bne_iff_ne]
  exact ⟨not_code, not_item⟩

/-- The check box of a task and the space behind it are no content. -/
theorem reading_itemNode (checked : Option Bool) (children : List Node) :
    (itemNode checked children).reading = readingOrder children := by
  cases checked with
  | none =>
      have marks : taskMarks "li" .empty children = 0 := by
        unfold taskMarks
        split
        · exact if_neg fun task => absurd task.2.1 (by decide)
        · rfl
      rw [itemNode, Node.plain, Node.reading, marks]
      rfl
  | some checked => rfl

theorem reading_tableNode (rows : List Node) : (tableNode rows).reading = readingOrder rows := by
  match rows with
  | [] => rfl
  | [head] => simp [tableNode, Node.plain, reading_element, isGroupTag]
  | head :: next :: body => simp [tableNode, Node.plain, reading_element, isGroupTag]

end Slide

/-! ## Markdown nodes -/

namespace Markdown

/-- The comments of a text that holds nothing else, blank characters aside. The text starts outside
of comments or in a comment with the given `body` in front; its first `skipped` characters belong to
the mark that was read last. -/
def commentsFrom : Nat → Option (List Char) → List Char → Option (List (List Char))
  | _, none, [] => some []
  | _, some _, [] => none
  | skipped + 1, body, _ :: rest => commentsFrom skipped body rest
  | 0, none, c :: rest =>
    if "<!--".toList.isPrefixOf (c :: rest) then commentsFrom 3 (some []) rest
    else if Text.isBlank c then commentsFrom 0 none rest
    else none
  | 0, some body, c :: rest =>
    if "-->".toList.isPrefixOf (c :: rest) then (commentsFrom 2 none rest).map (body :: ·)
    else commentsFrom 0 (some (body ++ [c])) rest

/-- The content of a piece of HTML: its comments, if it has some and nothing else, and otherwise
the piece as it is. -/
def htmlReading (value : String) : List ContentLeaf :=
  match commentsFrom 0 none value.toList with
  | some (body :: bodies) => (body :: bodies).map fun b => .comment (String.ofList b)
  | _ => [.raw value]

/-- What is written behind the text of a reference, with the bracket that ends the text. -/
def referenceEnd (label : Label) : ReferenceKind → String
  | .full => "][" ++ label.written.getD label.identifier ++ "]"
  | .collapsed => "][]"
  | .shortcut => "]"

mutual

/-- The pieces of content in a node, where `known` tells the targets of references. A reference
that leads nowhere is text as it is written. -/
def Node.reading (known : Label → Option Target) : Node → List ContentLeaf
  | .root children | .paragraph children | .heading _ children | .blockquote children
  | .list _ _ _ children | .listItem _ _ children | .table _ children | .tableRow children
  | .tableCell children | .emphasis children | .strong children | .delete children
  | .link _ children => readingOrder known children
  | .linkReference kind label children =>
    match known label with
    | some _ => readingOrder known children
    | none => .text "[" :: readingOrder known children ++ [.text (referenceEnd label kind)]
  | .imageReference kind label alt =>
    match known label with
    | some target => [.image { url := target.url, alt, title := target.title }]
    | none => [.text ("![" ++ alt ++ referenceEnd label kind)]
  | .text value => [.text value]
  | .inlineCode value => [.inlineCode value]
  | .code c => [.code c]
  | .image i => [.image i]
  | .html value => htmlReading value
  | _ => []

/-- The pieces of content in a forest in document order. -/
def readingOrder (known : Label → Option Target) : List Node → List ContentLeaf
  | [] => []
  | n :: rest => n.reading known ++ readingOrder known rest

end

/-- Where a node stands. -/
inductive Place where
  /-- Among blocks or phrases. -/
  | flow
  /-- In a table. -/
  | rows
  /-- In a row of a table. -/
  | cells
deriving DecidableEq, Repr

mutual

/-- True of a node that fits in its place: tables are made of rows, rows of cells, and every node is
of use for slides and no part of a footnote. -/
def Node.fits : Place → Node → Bool
  | .rows, .tableRow cells => allFit .cells cells
  | .cells, .tableCell children => allFit .flow children
  | .flow, .table _ rows => allFit .rows rows
  | .flow, .root children | .flow, .paragraph children | .flow, .heading _ children
  | .flow, .blockquote children | .flow, .list _ _ _ children | .flow, .listItem _ _ children
  | .flow, .emphasis children | .flow, .strong children | .flow, .delete children
  | .flow, .link _ children | .flow, .linkReference _ _ children => allFit .flow children
  | .flow, .code _ | .flow, .html _ | .flow, .thematicBreak | .flow, .definition _ _
  | .flow, .text _ | .flow, .inlineCode _ | .flow, .lineBreak | .flow, .image _
  | .flow, .imageReference _ _ _ => true
  | _, _ => false

/-- True of nodes that fit in one place. -/
def allFit : Place → List Node → Bool
  | _, [] => true
  | place, n :: rest => n.fits place && allFit place rest

end

theorem allFit_cons {place : Place} {n : Node} {rest : List Node} :
    allFit place (n :: rest) = true ↔ n.fits place = true ∧ allFit place rest = true := by
  rw [allFit, Bool.and_eq_true]

theorem exists_allFit_children {place : Place} {n : Node} (fits : n.fits place = true) :
    ∃ below, allFit below n.children = true := by
  -- a node without children fits with any place below it, all others name that place
  cases place <;> cases n <;> first | exact ⟨_, fits⟩ | exact ⟨.flow, rfl⟩ | cases fits

theorem note?_of_fits {place : Place} {n : Node} (fits : n.fits place = true) : n.note? = none := by
  cases n with
  | footnoteDefinition label children => cases place <;> cases fits
  | _ => rfl

/-- Nodes that fit hold no footnote. -/
theorem notes_of_allFit {place : Place} {nodes : List Node} (fit : allFit place nodes = true) :
    notes nodes = [] := by
  induction nodes using forest_induction generalizing place with
  | nil => rfl
  | cons n rest inner outer =>
      obtain ⟨here, behind⟩ := allFit_cons.mp fit
      obtain ⟨below, inside⟩ := exists_allFit_children here
      rw [notes_cons, note?_of_fits here, inner inside, outer behind]
      rfl

/-! ## Comments -/

theorem isPrefixOf_eq (start s : List Char) :
    start.isPrefixOf s = (Text.stripStart? start s).isSome := by
  induction start generalizing s with
  | nil => rfl
  | cons p start ih =>
      cases s with
      | nil => rfl
      | cons c s => by_cases same : p = c <;> simp [List.isPrefixOf, Text.stripStart?, same, ih]

theorem commentsFrom_trimStart (s : List Char) :
    commentsFrom 0 none (Text.trimStart s) = commentsFrom 0 none s := by
  induction s with
  | nil => rfl
  | cons c rest ih =>
      cases blank : Text.isBlank c with
      | false => rw [Text.trimStart, List.dropWhile_cons_of_neg (by simp [blank])]
      | true =>
          have no_mark : "<!--".toList.isPrefixOf (c :: rest) = false := by
            have other : c ≠ '<' := by
              rintro rfl
              exact absurd blank (by decide)
            simp [isPrefixOf_eq, Text.stripStart?, other.symm]
          have step : commentsFrom 0 none (c :: rest) = commentsFrom 0 none rest := by
            rw [commentsFrom, no_mark, if_neg Bool.false_ne_true, if_pos blank]
          rw [Text.trimStart, List.dropWhile_cons_of_pos blank, step]
          exact ih

/-- Outside of comments the next thing is a comment. -/
theorem commentsFrom_outside {c : Char} (visible : Text.isBlank c = false) (rest : List Char) :
    commentsFrom 0 none (c :: rest) =
      (Text.stripStart? "<!--".toList (c :: rest)).bind (commentsFrom 0 (some [])) := by
  cases found : Text.stripStart? "<!--".toList (c :: rest) with
  | some inside =>
      rw [Text.stripStart?_eq_some.mp found]
      rfl
  | none =>
      rw [commentsFrom, isPrefixOf_eq, found, visible]
      rfl

/-- In a comment the text runs on to the first mark of its end. -/
theorem commentsFrom_inside (body s : List Char) :
    commentsFrom 0 (some body) s =
      (Text.cutAtMark "-->".toList s).bind fun cut =>
        (commentsFrom 0 none cut.2).map fun bodies => (body ++ cut.1) :: bodies := by
  induction s generalizing body with
  | nil => rfl
  | cons c rest ih =>
      rw [Text.cutAtMark]
      cases found : Text.stripStart? "-->".toList (c :: rest) with
      | some after =>
          rw [Text.stripStart?_eq_some.mp found, Option.bind_some, List.append_nil]
          rfl
      | none =>
          have no_mark : "-->".toList.isPrefixOf (c :: rest) = false := by
            rw [isPrefixOf_eq, found]
            rfl
          rw [commentsFrom, no_mark, if_neg Bool.false_ne_true, ih, Option.bind_map]
          refine Option.bind_congr fun cut _ => ?_
          rw [Function.comp_apply, List.append_assoc, List.singleton_append]

/-- Outside of comments a comment is read in one go. -/
theorem commentsFrom_visible {s : List Char} (visible : Text.trimStart s ≠ []) :
    commentsFrom 0 none s =
      (Slide.firstComment? (Text.trimStart s)).bind fun cut =>
        (commentsFrom 0 none cut.2).map (cut.1 :: ·) := by
  obtain ⟨c, rest, trimmed⟩ := List.exists_cons_of_ne_nil visible
  have seen : Text.isBlank c = false := by
    have head := List.head?_dropWhile_not Text.isBlank s
    rwa [← Text.trimStart, trimmed] at head
  rw [← commentsFrom_trimStart s, trimmed, commentsFrom_outside seen, Slide.firstComment?,
    Option.bind_assoc]
  exact Option.bind_congr fun inside _ => commentsFrom_inside [] inside

/-- The bodies that slides find are the comments of the text. -/
theorem commentsFrom_of_scans {s : List Char} {found : Option (List (List Char))}
    (scans : Slide.Scans s found) : commentsFrom 0 none s = found := by
  induction scans with
  | done blank =>
      rw [← commentsFrom_trimStart, blank]
      rfl
  | refused visible none_there => rw [commentsFrom_visible visible, none_there, Option.bind_none]
  | round visible taken _ ih =>
      rw [commentsFrom_visible visible, taken, Option.bind_some, ih]

theorem reading_htmlNodes (value : String) :
    Slide.readingOrder (Slide.htmlNodes value) = htmlReading value := by
  have comments : ∀ bodies : List (List Char),
      Slide.readingOrder (bodies.map fun b => .comment (String.ofList b)) =
        bodies.map fun b => .comment (String.ofList b) := by
    intro bodies
    induction bodies with
    | nil => rfl
    | cons body bodies ih => exact congrArg (_ :: ·) ih
  have scanned := Slide.scans_commentBodies? (Slide.length_toList_lt value)
  rw [Slide.htmlNodes, ← commentsFrom_of_scans scanned, htmlReading]
  match commentsFrom 0 none value.toList with
  | some (body :: bodies) => exact comments (body :: bodies)
  | some [] | none => rfl

end Markdown

namespace Slide

open Markdown (Align ReferenceKind Label Target firstTarget definitions notes)

/-! ## References -/

theorem referenceEnd_eq (kind : ReferenceKind) (label : Label) :
    "]" ++ referenceSuffix kind label = Markdown.referenceEnd label kind := by
  cases kind with
  | full => exact (String.append_assoc ..).symm.trans rfl
  | collapsed => rfl
  | shortcut => rfl

theorem reading_linkNode (target : Target) (children : List Node) :
    (linkNode target children).reading = readingOrder children :=
  reading_element (by decide) _ children false

theorem reading_unresolvedLink (kind : ReferenceKind) (label : Label) (children : List Node) :
    (unresolvedLink kind label children).reading =
      .text "[" :: readingOrder children ++ [.text (Markdown.referenceEnd label kind)] := by
  rw [unresolvedLink, reading_element (by decide), referenceEnd_eq]
  simp [Node.reading]

theorem reading_imageNode (d : Definitions) (kind : ReferenceKind) (label : Label) (alt : String) :
    (imageNode d kind label alt).reading =
      (Markdown.Node.imageReference kind label alt).reading d.target? := by
  rw [imageNode, Markdown.Node.reading]
  cases d.target? label with
  | some target => rfl
  | none => rw [String.append_assoc, referenceEnd_eq, Node.reading]

theorem reading_codeSpan (value : String) :
    (Node.plain "code" [.text value]).reading = [.inlineCode value] :=
  congrArg (fun s => [ContentLeaf.inlineCode s]) (String.append_empty)

/-! ## The walk over a page -/

/-- True of what is lowered from Markdown with the given content and without footnote marks. -/
def Keeps (order : List String) (content : List ContentLeaf)
    (lowered : List Node × List String) : Prop :=
  lowered.2 = order ∧ readingOrder lowered.1 = content

section

variable {order : List String} {content : List ContentLeaf} {lowered : List Node × List String}

theorem Keeps.leaf {n : Node} (order : List String) (reads : n.reading = content) :
    Keeps order content ([n], order) :=
  ⟨rfl, (List.append_nil _).trans reads⟩

theorem Keeps.into {n : Node} (inside : Keeps order content lowered)
    (reads : n.reading = readingOrder lowered.1) : Keeps order content ([n], lowered.2) :=
  ⟨inside.1, (List.append_nil _).trans (reads.trans inside.2)⟩

theorem Keeps.append {more : List ContentLeaf} {others : List Node × List String}
    (first : Keeps order content lowered) (behind : Keeps lowered.2 more others) :
    Keeps order (content ++ more) (lowered.1 ++ others.1, others.2) :=
  ⟨behind.1.trans first.1, by rw [readingOrder_append, first.2, behind.2]⟩

end

variable (d : Definitions)

mutual

/-- A node that fits is lowered to what it says, and numbers no footnote. -/
theorem keeps_lowerNode (tight : Bool) :
    ∀ (n : Markdown.Node) (order : List String), n.fits .flow = true →
      Keeps order (n.reading d.target?) (lowerNode d tight n order)
  | .root children, order, fits | .blockquote children, order, fits
  | .paragraph children, order, fits | .emphasis children, order, fits
  | .strong children, order, fits | .delete children, order, fits
  | .link _ children, order, fits =>
      (keeps_lowerAll tight children order fits).into (reading_element (by decide) _ _ _)
  | .heading depth children, order, fits =>
      (keeps_lowerAll tight children order fits).into
        (reading_element (isGroupTag_heading depth) _ _ _)
  | .list ordered _ spread items, order, fits =>
      (keeps_lowerAll (isTight spread items) items order fits).into
        (reading_element (by cases ordered <;> decide) _ _ _)
  | .listItem _ checked children, order, fits =>
      (keeps_lowerAll tight children order fits).into (reading_itemNode checked _)
  | .table align rows, order, fits =>
      (keeps_lowerRows tight align "th" (by decide) rows order fits).into (reading_tableNode _)
  | .linkReference kind label children, order, fits => by
      have inside := keeps_lowerAll tight children order fits
      cases found : d.target? label with
      | some target =>
          simp only [lowerNode, Markdown.Node.reading, found]
          exact inside.into (reading_linkNode target _)
      | none =>
          simp only [lowerNode, Markdown.Node.reading, found]
          refine ⟨inside.1, (List.append_nil _).trans ?_⟩
          rw [reading_unresolvedLink, inside.2]
  | .imageReference kind label alt, order, _ => .leaf order (reading_imageNode d kind label alt)
  | .html value, _, _ => ⟨rfl, Markdown.reading_htmlNodes value⟩
  | .inlineCode value, order, _ => .leaf order (reading_codeSpan value)
  | .code _, order, _ | .thematicBreak, order, _ | .text _, order, _ | .lineBreak, order, _
  | .image _, order, _ => .leaf order rfl
  | .definition _ _, _, _ => ⟨rfl, rfl⟩

theorem keeps_lowerAll (tight : Bool) :
    ∀ (nodes : List Markdown.Node) (order : List String), Markdown.allFit .flow nodes = true →
      Keeps order (Markdown.readingOrder d.target? nodes) (lowerAll d tight nodes order)
  | [], _, _ => ⟨rfl, rfl⟩
  | n :: rest, order, fit =>
      have ⟨here, behind⟩ := Markdown.allFit_cons.mp fit
      (keeps_lowerNode tight n order here).append (keeps_lowerAll tight rest _ behind)

theorem keeps_lowerRows (tight : Bool) (align : List (Option Align)) (tag : String)
    (group : isGroupTag tag = true) :
    ∀ (rows : List Markdown.Node) (order : List String), Markdown.allFit .rows rows = true →
      Keeps order (Markdown.readingOrder d.target? rows) (lowerRows d tight align tag rows order)
  | [], _, _ => ⟨rfl, rfl⟩
  | .tableRow cells :: rest, order, fit =>
      have ⟨here, behind⟩ := Markdown.allFit_cons.mp fit
      have row := (keeps_lowerCells tight align tag group 0 cells order here).into
        (reading_element (by decide : isGroupTag "tr" = true) .empty _ false)
      row.append (keeps_lowerRows tight align "td" (by decide) rest _ behind)

theorem keeps_lowerCells (tight : Bool) (align : List (Option Align)) (tag : String)
    (group : isGroupTag tag = true) :
    ∀ (column : Nat) (cells : List Markdown.Node) (order : List String),
      Markdown.allFit .cells cells = true →
        Keeps order (Markdown.readingOrder d.target? cells)
          (lowerCells d tight align tag column cells order)
  | _, [], _, _ => ⟨rfl, rfl⟩
  | column, .tableCell children :: rest, order, fit =>
      have ⟨here, behind⟩ := Markdown.allFit_cons.mp fit
      have cell := (keeps_lowerAll tight children order here).into
        (reading_element group (.ofList (cellAttributes align column)) _ false)
      cell.append (keeps_lowerCells tight align tag group (column + 1) rest _ behind)

end

theorem allFit_rootNodes {page : Markdown.Node} (fits : page.fits .flow = true) :
    Markdown.allFit .flow (rootNodes page) = true := by
  cases page with
  | root children => exact fits
  | _ => exact Markdown.allFit_cons.mpr ⟨fits, rfl⟩

theorem reading_rootNodes (known : Label → Option Target) (page : Markdown.Node) :
    Markdown.readingOrder known (rootNodes page) = page.reading known := by
  cases page with
  | root children => rfl
  | _ => exact List.append_nil _

/-- Lowering keeps what a page says, in its order. The page is made of nodes that slides have a use
for, without footnotes, and its tables are made of rows of cells; a reference leads to the first
definition of its label in the page. -/
theorem readingOrder_lower (page : Markdown.Node) (fits : page.fits .flow = true) :
    readingOrder (lower page) = page.reading (firstTarget (definitions [page])) := by
  have no_notes : notes [page] = [] :=
    Markdown.notes_of_allFit (Markdown.allFit_cons.mpr ⟨fits, rfl⟩)
  have known : (Definitions.ofPage page).target? = firstTarget (definitions [page]) := by
    funext label
    rw [← Markdown.firstTarget_targetsOf (by simp [no_notes])]
    exact congrArg (firstTarget · label) (List.append_nil _).symm
  -- no mark is numbered on the way, so nothing is added behind the flow
  obtain ⟨unnumbered, read⟩ :=
    keeps_lowerAll (.ofPage page) false (rootNodes page) [] (allFit_rootNodes fits)
  have no_section : footnoteSection (.ofPage page)
      (lowerAll (.ofPage page) false (rootNodes page) []).2 = [] := by
    rw [unnumbered]
    rfl
  calc
    readingOrder (lower page)
        = readingOrder (lowerAll (.ofPage page) false (rootNodes page) []).1 ++
            readingOrder (footnoteSection (.ofPage page)
              (lowerAll (.ofPage page) false (rootNodes page) []).2) := readingOrder_append _ _
    _ = page.reading (firstTarget (definitions [page])) := by
          rw [no_section, readingOrder_nil, List.append_nil, read, known, reading_rootNodes]

/-- A page with a task, a table, references with and without definition, code and comments. -/
def mixedPage : Markdown.Node :=
  .root
    [.list false none false
        [.listItem false (some true) [.paragraph [.text "do ", .inlineCode "x"]]],
      .html "<!-- a --> <!--b-->",
      .table [none] [.tableRow [.tableCell [.text "head"]], .tableRow [.tableCell [.text "cell"]]],
      .paragraph
        [.linkReference .full ⟨"no", some "No"⟩ [.emphasis [.text "link"]],
          .imageReference .collapsed ⟨"pic", some "pic"⟩ "pic",
          .imageReference .shortcut ⟨"none", none⟩ "none"],
      .blockquote [.definition ⟨"pic", some "pic"⟩ ⟨"/p.png", none⟩],
      .html "<b>"]

theorem readingOrder_lower_mixedPage :
    mixedPage.fits .flow = true ∧
      readingOrder (lower mixedPage) =
        [.text "do ", .inlineCode "x", .comment " a ", .comment "b", .text "head", .text "cell",
          .text "[", .text "link", .text "][No]", .image { url := "/p.png", alt := "pic" },
          .text "![none]", .raw "<b>"] := by
  have fits : mixedPage.fits .flow = true := by decide
  exact ⟨fits, (readingOrder_lower mixedPage fits).trans (by decide)⟩

end Slide

end SlideDeck
