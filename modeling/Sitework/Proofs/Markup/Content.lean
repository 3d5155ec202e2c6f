import Mathlib
import Sitework.Proofs.Markup.Written
import Sitework.Proofs.Validation

/-!
# Content of HTML

The tags of HTML are put together to elements that hold texts and elements. Of the pretty form the
line breaks and margins are taken away first, and refused where they are not as they are written.
The HTML of an accepted page is read as its tree, whatever texts it holds.
-/

namespace Sitework.Html

/-- What an element may hold. -/
inductive Content where
  /-- A text that is not empty. -/
  | text (content : String)
  /-- An element with its attributes in order and what it holds. -/
  | element (name : String) (attributes : List (String × String)) (content : List Content)

/-- A text as content; an empty one is none. -/
def textContent (text : String) : List Content :=
  if text = "" then [] else [.text text]

/-- The tags of elements that hold nothing and have no end. -/
def emptyTags : List String := ["img", "input"]

/-- What has been read. -/
structure Nesting where
  /-- What the innermost open element holds so far. -/
  content : List Content
  /-- The names and attributes of the open elements from the inside out, each with what the element
  around it holds before it. -/
  outer : List (List Content × String × List (String × String))

/-- The text before a tag on a line of its own, without the break and the margin of that line. -/
def beforeLine? (pretty : Bool) (depth : Nat) (text : String) : Option String :=
  if pretty then (Text.before? ('\n' :: (indent depth).toList) text.toList).map String.ofList
  else some text

namespace Nesting

/-- The reader before the first tag. -/
def empty : Nesting := ⟨[], []⟩

/-- The reader after more content. -/
def add (s : Nesting) (content : List Content) : Nesting :=
  { s with content := s.content ++ content }

/-- The reader inside a new element. -/
def opened (s : Nesting) (name : String) (attributes : List (String × String)) : Nesting :=
  ⟨[], (s.content, name, attributes) :: s.outer⟩

/-- Reads a tag with the text before it. In pretty form it stands on a line of its own, unless it
ends an element without elements in it; the outermost elements are at `depth`. -/
def step? (pretty : Bool) (depth : Nat) (s : Nesting) (entry : String × Tag) : Option Nesting :=
  match entry.2 with
  | .start name attributes => do
    let text ← beforeLine? pretty (depth + s.outer.length) entry.1
    let s := s.add (textContent text)
    if name ∈ emptyTags then return s.add [.element name attributes []]
    else return s.opened name attributes
  | .close name =>
    match s.outer with
    | [] => none
    | (before, opened, attributes) :: outer => do
      guard (name = opened)
      let text ← if s.content.isEmpty then some entry.1
        else beforeLine? pretty (depth + outer.length) entry.1
      return ⟨before ++ [.element name attributes (s.add (textContent text)).content], outer⟩
  | .declaration _ => none

/-- What has been read, if all elements have ended, with the text at the end. -/
def finish? (pretty : Bool) (s : Nesting) (last : String) : Option (List Content) := do
  guard s.outer.isEmpty
  let text ← beforeLine? pretty 0 last
  return (s.add (textContent text)).content

end Nesting

/-- Reads HTML as content. In pretty form the outermost elements are at `depth`, and the first line
is read as if another one came before it. -/
def content? (pretty : Bool) (depth : Nat) (text : String) : Option (List Content) := do
  let m ← read? (lineBreak pretty ++ text)
  let s ← m.tags.foldlM (Nesting.step? pretty depth) .empty
  s.finish? pretty m.last

/-- The attributes of a node on a static page: the name of its element, and those that are not for
the editor. -/
def staticAttributes (n : MarkupNode) : List (String × String) :=
  n.elementId?.toList.map ("id", ·) ++
    n.attributes.entries.filter fun entry => !entry.1.startsWith "data-"

/-- A node with all below it as content. -/
def contentOf (t : MarkupTree) : Nat → Content :=
  t.fold fun i children =>
    match t.get? i with
    | none => .text ""
    | some n => .element n.tag (staticAttributes n)
      (textContent (n.text.getD "") ++ children.map (·.2))

/-- What is below the root as content. -/
def bodyContent (t : MarkupTree) : List Content :=
  (t.root.toList.flatMap t.children).map (contentOf t)

open Markup

section Reading

variable {pretty : Bool} {depth k : Nat} {s : Nesting}

/-- The break and the margin of a line are taken away. -/
theorem beforeLine?_append (pretty : Bool) (depth : Nat) (text : String) :
    beforeLine? pretty depth (text ++ lineBreak pretty ++ margin pretty depth) = some text := by
  cases pretty with
  | false =>
    rw [beforeLine?, if_neg Bool.false_ne_true, lineBreak, margin, if_neg Bool.false_ne_true,
      if_neg Bool.false_ne_true, String.append_empty, String.append_empty]
  | true =>
    have hline : (text ++ "\n" ++ indent depth).toList =
        text.toList ++ '\n' :: (indent depth).toList := by
      rw [String.toList_append, String.toList_append, List.append_assoc]
      rfl
    rw [beforeLine?, if_pos rfl, lineBreak, margin, if_pos rfl, if_pos rfl, hline,
      Text.before?_append, Option.map_some, String.ofList_toList]

namespace Nesting

/-- Reads markup after a text. What is left is the text at its end. -/
def feed (pretty : Bool) (depth : Nat) (x : Nesting × String) (m : Markup) :
    Option (Nesting × String) :=
  ((ofText x.2 ++ m).tags.foldlM (step? pretty depth) x.1).map (·, (ofText x.2 ++ m).last)

/-- Markup is read one part after the other. -/
theorem feed_append (x : Nesting × String) (m n : Markup) :
    feed pretty depth x (m ++ n) =
      (feed pretty depth x m).bind (feed pretty depth · n) := by
  rw [feed, feed, ← Markup.append_assoc, Markup.tags_append, Markup.last_append,
    List.foldlM_append]
  cases (ofText x.2 ++ m).tags.foldlM (step? pretty depth) x.1 <;> rfl

/-- Text is put after the text that was read before it. -/
theorem feed_ofText (text more : String) :
    feed pretty depth (s, text) (ofText more) = some (s, text ++ more) := rfl

/-- A tag is a step of the reading, after which there is no text yet. -/
theorem feed_ofTag (text : String) (tag : Tag) :
    feed pretty depth (s, text) (ofTag tag) = (step? pretty depth s (text, tag)).map (·, "") := by
  have htags : (ofText text ++ ofTag tag).tags = [(text, tag)] :=
    congrArg (fun text => [(text, tag)]) String.append_empty
  rw [feed, htags, List.foldlM_cons]
  cases step? pretty depth s (text, tag) <;> rfl

/-- Content that is added in two parts is added as one. -/
theorem add_add (s : Nesting) (before content : List Content) :
    (s.add before).add content = s.add (before ++ content) := by
  rw [add, add, add, List.append_assoc]

/-- The start of an element on a line of its own. -/
theorem step?_start (text name : String) (attributes : List (String × String)) :
    step? pretty depth s
        (text ++ lineBreak pretty ++ margin pretty (depth + s.outer.length),
          .start name attributes) =
      some (if name ∈ emptyTags then (s.add (textContent text)).add [.element name attributes []]
      else (s.add (textContent text)).opened name attributes) := by
  rw [step?]
  simp only [beforeLine?_append, bind, Option.bind, pure]
  split_ifs <;> rfl

/-- The end of an element that holds a text only. -/
theorem step?_close_text (name text : String) (attributes : List (String × String)) :
    step? pretty depth (s.opened name attributes) (text, .close name) =
      some (s.add [.element name attributes (textContent text)]) := by
  rw [step?, opened]
  simp [guard, add]

variable (pretty depth s) in
/-- The end of an element on a line of its own. -/
theorem step?_close_line {content : List Content} (h : content ≠ []) (name : String)
    (attributes : List (String × String)) :
    step? pretty depth ((s.opened name attributes).add content)
        (lineBreak pretty ++ margin pretty (depth + s.outer.length), .close name) =
      some (s.add [.element name attributes content]) := by
  have hline := beforeLine?_append pretty (depth + s.outer.length) ""
  rw [String.empty_append] at hline
  rw [step?, opened]
  simp [guard, add, h, hline, textContent]

/-- A node on lines of its own is read as an element, if its children are read as what is below
it. -/
theorem feed_nodeMarkup {n : MarkupNode} (hvoid : n.isVoid = true ↔ n.tag ∈ emptyTags)
    (htext : n.isVoid = true → n.text = none) {children : List Markup} {content : List Content}
    (hempty : n.isVoid = true → content = []) (hsame : children = [] ↔ content = [])
    (hchildren : children ≠ [] → ∀ s : Nesting, s.outer.length = k + 1 → ∀ text,
      feed pretty depth (s, text ++ lineBreak pretty) (join children) =
        some (s.add (textContent text ++ content), lineBreak pretty))
    (hs : s.outer.length = k) (text : String) :
    feed pretty depth (s, text ++ lineBreak pretty)
        (nodeMarkup ⟨.static, pretty⟩ n (depth + k) children) =
      some (s.add (textContent text ++ [.element n.tag (attributes .static n)
        (textContent (n.text.getD "") ++ content)]), lineBreak pretty) := by
  subst hs
  rw [nodeMarkup, ← add_add]
  simp only
  split_ifs with hv hc
  · rw [htext hv, hempty hv]
    simp only [feed_append, feed_ofText, feed_ofTag, Option.bind_some, step?_start,
      if_pos (hvoid.1 hv), Option.map_some, String.empty_append]
    rfl
  · rw [hsame.1 (List.isEmpty_iff.1 hc), List.append_nil]
    simp only [feed_append, feed_ofText, feed_ofTag, Option.bind_some, step?_start,
      if_neg (hvoid.not.1 hv), Option.map_some, String.empty_append, step?_close_text]
  · have hne : children ≠ [] := fun h => hc (List.isEmpty_iff.2 h)
    have hcontent : textContent (n.text.getD "") ++ content ≠ [] :=
      List.append_ne_nil_of_right_ne_nil _ (hsame.not.1 hne)
    have hinside : ((s.add (textContent text)).opened n.tag (attributes .static n)).outer.length =
        s.outer.length + 1 := rfl
    have hclose := step?_close_line pretty depth (s.add (textContent text)) hcontent n.tag
      (attributes .static n)
    simp only [feed_append, feed_ofText, feed_ofTag, Option.bind_some, step?_start,
      if_neg (hvoid.not.1 hv), Option.map_some, String.empty_append, hchildren hne _ hinside]
    rw [show s.outer.length = (s.add (textContent text)).outer.length from rfl, hclose]
    rfl

end Nesting

end Reading

section Pages

variable {t : MarkupTree} {n : MarkupNode} {pretty : Bool} {depth : Nat}

/-- The content of a node is its text with the content of its children after it. -/
theorem contentOf_eq {i : Nat} (h : t.get? i = some n) : contentOf t i =
    .element n.tag (staticAttributes n)
      (textContent (n.text.getD "") ++ (t.children i).map (contentOf t)) := by
  rw [contentOf, MarkupTree.fold_eq]
  simp only [h, List.map_map]
  rfl

/-- On a static page a node has the name of its element and what is not for the editor. -/
theorem attributes_static (n : MarkupNode) : attributes .static n = staticAttributes n := by
  rw [attributes, staticAttributes, MarkupNode.elementId?]
  cases n.role <;> rfl

/-- Trees that are read back: all nodes have tags that HTML has, and there is nothing in the
elements that have no end. -/
structure IsReadable (t : MarkupTree) : Prop where
  names : ∀ i n, t.get? i = some n → Compilation.HasNames n
  texts : ∀ i n, t.get? i = some n → n.isVoid = true → n.text = none
  voids : Compilation.VoidsAreEmpty t

/-- Sibling nodes are read one after the other. -/
theorem feed_siblings {k : Nat} {is : List Nat}
    (h : ∀ i ∈ is, ∀ s : Nesting, s.outer.length = k → ∀ text,
      Nesting.feed pretty depth (s, text ++ lineBreak pretty)
          (markupAt t ⟨.static, pretty⟩ i (depth + k)) =
        some (s.add (textContent text ++ [contentOf t i]), lineBreak pretty))
    (hne : is ≠ []) {s : Nesting} (hs : s.outer.length = k) (text : String) :
    Nesting.feed pretty depth (s, text ++ lineBreak pretty)
        (join (is.map fun i => markupAt t ⟨.static, pretty⟩ i (depth + k))) =
      some (s.add (textContent text ++ is.map (contentOf t)), lineBreak pretty) := by
  induction is generalizing s text with
  | nil => exact absurd rfl hne
  | cons i is ih =>
    rw [List.forall_mem_cons] at h
    rw [List.map_cons, join_cons, Nesting.feed_append, h.1 s hs, Option.bind_some]
    by_cases hlast : is = []
    · subst hlast
      rw [List.map_nil, join, List.foldr_nil, Nesting.feed_ofText, String.append_empty]
      rfl
    · have hrest := ih h.2 hlast (s := s.add (textContent text ++ [contentOf t i])) hs ""
      rw [String.empty_append, Nesting.add_add] at hrest
      rw [hrest, List.append_assoc]
      rfl

namespace IsReadable

/-- A node with all below it is read as its content. -/
theorem feed_markupAt (h : IsReadable t) {i : Nat} (hi : i < t.size) (pretty : Bool)
    (depth : Nat) {s : Nesting} {k : Nat} (hs : s.outer.length = k) (text : String) :
    Nesting.feed pretty depth (s, text ++ lineBreak pretty)
        (markupAt t ⟨.static, pretty⟩ i (depth + k)) =
      some (s.add (textContent text ++ [contentOf t i]), lineBreak pretty) := by
  induction i using t.induction_children generalizing s k text with
  | step i ih =>
    obtain ⟨n, hget⟩ := MarkupTree.exists_get? hi
    have hvoid : n.isVoid = true ↔ n.tag ∈ emptyTags :=
      (by decide : ∀ tag ∈ Compilation.tagNames,
        ["img", "input", "br", "hr", "meta", "link"].contains tag = true ↔ tag ∈ emptyTags)
        _ (h.names i n hget).tag
    rw [markupAt_eq hget, contentOf_eq hget, ← attributes_static]
    refine Nesting.feed_nodeMarkup hvoid (h.texts i n hget) (fun hv => ?_) ?_
      (fun hne s hs text => ?_) hs text
    · rw [h.voids i n hget hv, List.map_nil]
    · rw [List.map_eq_nil_iff, List.map_eq_nil_iff]
    · refine feed_siblings (fun c hc s hs text => ?_) (fun h => hne ?_) hs text
      · exact ih c hc (Compilation.lt_of_mem_children hc).2 hs text
      · rw [h, List.map_nil]

/-- The HTML of a readable tree is read as its content. -/
theorem content?_body (h : IsReadable t) (pretty : Bool) (depth : Nat) :
    content? pretty depth (body t ⟨.static, pretty⟩ depth) = some (bodyContent t) := by
  have hread : read? (lineBreak pretty ++ body t ⟨.static, pretty⟩ depth) =
      some (ofText (lineBreak pretty) ++ bodyMarkup t ⟨.static, pretty⟩ depth) := by
    have hproper : (ofText (lineBreak pretty) ++ bodyMarkup t ⟨.static, pretty⟩ depth).isProper =
        true := by
      rw [isProper_append, isProper_bodyMarkup h.names]
      rfl
    rw [read?, String.toList_append, ← chars_bodyMarkup, ← escapeText_lineBreak, ← chars_ofText,
      ← chars_append, escapeText_lineBreak, markup?_chars hproper]
  have hfeed : Nesting.feed pretty depth (.empty, lineBreak pretty)
      (bodyMarkup t ⟨.static, pretty⟩ depth) =
        some (Nesting.empty.add (bodyContent t), lineBreak pretty) := by
    rw [bodyMarkup, bodyContent]
    by_cases hne : t.root.toList.flatMap t.children = []
    · rw [hne, List.map_nil, List.map_nil, join, List.foldr_nil, Nesting.feed_ofText,
        String.append_empty]
      rfl
    · rw [← String.empty_append (s := lineBreak pretty)]
      refine feed_siblings (k := 0) (fun i hi s hs text => ?_) hne rfl ""
      obtain ⟨r, -, hc⟩ := List.mem_flatMap.1 hi
      exact h.feed_markupAt (Compilation.lt_of_mem_children hc).2 pretty depth hs text
  obtain ⟨s, hs, heq⟩ := Option.map_eq_some_iff.1 hfeed
  obtain ⟨rfl, hlast⟩ := Prod.mk.inj heq
  have hfinish : (Nesting.empty.add (bodyContent t)).finish? pretty (lineBreak pretty) =
      some (bodyContent t) := by
    have hline : beforeLine? pretty 0 (lineBreak pretty) = some "" := by cases pretty <;> rfl
    simp [Nesting.finish?, Nesting.add, Nesting.empty, guard, hline, textContent]
  rw [content?, hread]
  simp only [bind, Option.bind]
  rw [hs, hlast]
  exact hfinish

end IsReadable

/-- The tree of an accepted page is readable. -/
theorem isReadable_of_checkPage {key : String} {p : Page}
    (h : Validation.checkPage key p = .ok ()) : IsReadable (p.compile .monitor) := by
  have hcomplete := p.compile_isComplete .monitor
  exact
    { names := fun i n hget => (hcomplete.part i n hget).hasNames
      texts := fun i n hget => (hcomplete.part i n hget).text_eq_none
      voids := Compilation.voidsAreEmpty_compile (Validation.nodup_ids_of_checkPage h) _ }

/-- The HTML of an accepted page is read as the tree that it was written from, in both layouts and
at any depth: the same elements in the same places with the same attributes and texts, whatever the
texts of the page are. -/
theorem content?_body_compile {key : String} {p : Page} (h : Validation.checkPage key p = .ok ())
    (pretty : Bool) (depth : Nat) :
    content? pretty depth (body (p.compile .monitor) ⟨.static, pretty⟩ depth) =
      some (bodyContent (p.compile .monitor)) :=
  (isReadable_of_checkPage h).content?_body pretty depth

/-- A page whose names and texts look like markup and like the margins of the pretty layout. -/
def disguisedPage : Page :=
  (Page.new "home" "Home").insertAll
    [Element.new "\" data-x=\"" .pageSection,
      ((Element.new "</p>\n    <p id=\"1\">" .text).withParent "\" data-x=\"").withContent
        "&lt;/p>\n    <img src=\"\">",
      (Element.new "i" (.image (.url "a&quot;b") (some "-->"))).withParent "\" data-x=\""]

theorem content?_body_disguisedPage : Validation.checkPage "home" disguisedPage = .ok () ∧
    content? true 2 (body (disguisedPage.compile .monitor) ⟨.static, true⟩ 2) =
      some [.element "section" [("id", "\" data-x=\"")]
        [.element "p" [("id", "</p>\n    <p id=\"1\">")] [.text "&lt;/p>\n    <img src=\"\">"],
          .element "img" [("id", "i"), ("src", "a&quot;b"), ("alt", "-->")] []]] := by
  have haccepted : Validation.checkPage "home" disguisedPage = .ok () := by decide +kernel
  exact ⟨haccepted, (content?_body_compile haccepted true 2).trans (by cbv)⟩

end Pages

end Sitework.Html
