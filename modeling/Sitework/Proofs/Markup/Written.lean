import Sitework.Proofs.Compilation.Nodes
import Sitework.Proofs.Markup.Reader

/-!
# The markup that is written of a tree

The HTML of a tree is the written form of markup: the start and the end of each node with what is
below it between them, and line breaks and margins as text. So it is read as that markup.
-/

namespace Sitework.Html

namespace Markup

/-- Text without tags. -/
def ofText (text : String) : Markup := ⟨[], text⟩

/-- A tag without text. -/
def ofTag (tag : Tag) : Markup := ⟨[("", tag)], ""⟩

/-- Markup one after the other. -/
def join (ms : List Markup) : Markup :=
  ms.foldr (· ++ ·) (ofText "")

@[simp] theorem join_cons (m : Markup) (ms : List Markup) : join (m :: ms) = m ++ join ms := rfl

/-- A tag is written between angle brackets. -/
theorem chars_ofTag (tag : Tag) : (ofTag tag).chars = '<' :: (tag.inside ++ ['>']) := by
  simp [ofTag, chars, tagChars, escapeText]

theorem chars_ofText (text : String) : (ofText text).chars = (escapeText text).toList := rfl

/-- Markup is written piece by piece. -/
theorem chars_join (ms : List Markup) : (join ms).chars = ms.flatMap chars := by
  induction ms with
  | nil => rfl
  | cons m ms ih => rw [join_cons, chars_append, ih, List.flatMap_cons]

/-- Joined markup is proper if all of its pieces are. -/
theorem isProper_join (ms : List Markup) : (join ms).isProper = ms.all isProper := by
  induction ms with
  | nil => rfl
  | cons m ms ih => rw [join_cons, isProper_append, ih, List.all_cons]

end Markup

open Markup

section Layout

/-- The margin of a depth, in pretty form. -/
def margin (pretty : Bool) (depth : Nat) : String :=
  if pretty then indent depth else ""

/-- The break after a line, in pretty form. -/
def lineBreak (pretty : Bool) : String :=
  if pretty then "\n" else ""

/-- Nothing is escaped in a margin, which is made of blanks. -/
theorem escapeText_margin (pretty : Bool) (depth : Nat) :
    escapeText (margin pretty depth) = margin pretty depth := by
  cases pretty with
  | false => rfl
  | true =>
    have hchar : ∀ c ∈ List.replicate (2 * depth) ' ', escapeTextChar c = [c] := by
      intro c hc
      rw [List.eq_of_mem_replicate hc]
      decide
    have hsame : (List.replicate (2 * depth) ' ').flatMap escapeTextChar =
        List.replicate (2 * depth) ' ' :=
      (List.flatMap_congr hchar).trans (List.flatMap_singleton' _)
    rw [margin, if_pos rfl, indent, escapeText, String.toList_ofList, hsame]

theorem escapeText_lineBreak (pretty : Bool) :
    escapeText (lineBreak pretty) = lineBreak pretty := by
  cases pretty <;> rfl

end Layout

/-- The markup of a node at a depth, given that of its children one level deeper. -/
def nodeMarkup (form : HtmlForm) (n : MarkupNode) (depth : Nat) (children : List Markup) :
    Markup :=
  let start := ofText (margin form.pretty depth) ++ ofTag (.start n.tag (attributes form.surface n))
  let newLine := ofText (lineBreak form.pretty)
  if n.isVoid then start ++ newLine
  else
    let text := ofText (n.text.getD "")
    let content :=
      if children.isEmpty then text
      else text ++ newLine ++ join children ++ ofText (margin form.pretty depth)
    start ++ content ++ ofTag (.close n.tag) ++ newLine

/-- The markup of a node and all below it at a depth. -/
def markupAt (t : MarkupTree) (form : HtmlForm) (i : Nat) : Nat → Markup :=
  t.fold (fun i children depth =>
    match t.get? i with
    | none => ofText ""
    | some n => nodeMarkup form n depth (children.map fun child => child.2 (depth + 1))) i

/-- The markup of what is below the root, at a depth. -/
def bodyMarkup (t : MarkupTree) (form : HtmlForm) (depth : Nat) : Markup :=
  join ((t.root.toList.flatMap t.children).map fun c => markupAt t form c depth)

section Chars

variable {t : MarkupTree} {form : HtmlForm} {n : MarkupNode} {i : Nat}

/-- The start tag of a node is the written form of a tag with the node's attributes. -/
theorem toList_startTag (surface : Surface) (n : MarkupNode) :
    (startTag surface n).toList =
      (ofTag (.start n.tag (attributes surface n))).chars := by
  rw [chars_ofTag, Tag.inside, startTag, String.toList_append, String.toList_append,
    String.toList_append, String.toList_join, List.flatMap_map, List.append_assoc,
    List.append_assoc, List.append_assoc]
  rfl

/-- The end tag of a node is the written form of a closing tag. -/
theorem toList_endTag (n : MarkupNode) : (endTag n).toList = (ofTag (.close n.tag)).chars := by
  rw [chars_ofTag, Tag.inside, endTag, String.toList_append, String.toList_append,
    List.append_assoc]
  rfl

/-- The HTML of a node is what is written of its markup. -/
theorem chars_nodeMarkup {children : List Markup} {texts : List String}
    (h : children.map chars = texts.map String.toList) (depth : Nat) :
    (nodeMarkup form n depth children).chars = (nodeText form n depth texts).toList := by
  have hempty : texts.isEmpty = children.isEmpty := by
    rw [← List.isEmpty_map (f := chars), h, List.isEmpty_map]
  have htext : (ofText (n.text.getD "")).chars = ((n.text.map escapeText).getD "").toList := by
    cases n.text <;> rfl
  have hmargin : (ofText (margin form.pretty depth)).chars =
      (if form.pretty then indent depth else "").toList := by
    rw [chars_ofText, escapeText_margin, margin]
  have hbreak : (ofText (lineBreak form.pretty)).chars =
      (if form.pretty then "\n" else "").toList := by
    rw [chars_ofText, escapeText_lineBreak, lineBreak]
  have hjoin : (join children).chars = (String.join texts).toList := by
    rw [chars_join, String.toList_join, List.flatMap_def, List.flatMap_def, h]
  have hcontent : (if children.isEmpty then ofText (n.text.getD "")
      else ofText (n.text.getD "") ++ ofText (lineBreak form.pretty) ++ join children ++
        ofText (margin form.pretty depth)).chars =
      (if texts.isEmpty then (n.text.map escapeText).getD ""
      else (n.text.map escapeText).getD "" ++ (if form.pretty then "\n" else "") ++
        String.join texts ++ (if form.pretty then indent depth else "")).toList := by
    rw [hempty]
    split
    · exact htext
    · simp only [chars_append, String.toList_append, htext, hbreak, hjoin, hmargin]
  rw [nodeMarkup, nodeText]
  split
  · simp only [chars_append, String.toList_append, hmargin, hbreak, toList_startTag]
  · simp only [chars_append, String.toList_append, hmargin, hbreak, toList_startTag,
      toList_endTag, hcontent]

/-- The markup at a node is that of the node around the markup at its children. -/
theorem markupAt_eq (h : t.get? i = some n) (depth : Nat) :
    markupAt t form i depth =
      nodeMarkup form n depth ((t.children i).map fun c => markupAt t form c (depth + 1)) := by
  rw [markupAt, MarkupTree.fold_eq]
  simp only [h, List.map_map]
  rfl

/-- The markup at a node is written as the HTML at the node. -/
theorem chars_markupAt (t : MarkupTree) (form : HtmlForm) (i depth : Nat) :
    (markupAt t form i depth).chars = (nodeAt t form i depth).toList := by
  induction i using t.induction_children generalizing depth with
  | step i ih =>
    cases hget : t.get? i with
    | none =>
      rw [markupAt, nodeAt, MarkupTree.fold_eq, MarkupTree.fold_eq]
      simp only [hget]
      rfl
    | some n =>
      rw [markupAt_eq hget, nodeAt_eq hget]
      refine chars_nodeMarkup ?_ depth
      rw [List.map_map, List.map_map]
      exact List.map_congr_left fun c hc => ih c hc (depth + 1)

/-- The HTML of a tree is what is written of its markup. -/
theorem chars_bodyMarkup (t : MarkupTree) (form : HtmlForm) (depth : Nat) :
    (bodyMarkup t form depth).chars = (body t form depth).toList := by
  rw [bodyMarkup, body, chars_join, String.toList_join, List.flatMap_map, List.flatMap_map]
  exact List.flatMap_congr fun c _ => chars_markupAt t form c depth

end Chars

section Proper

variable {t : MarkupTree} {n : MarkupNode} {pretty : Bool}

/-- The attributes that are written for a static page have names. -/
theorem isAttributeName_of_mem_attributes (h : Compilation.HasNames n) :
    ∀ entry ∈ attributes .static n, Tag.isAttributeName entry.1 = true := by
  have hnames : ∀ name ∈ Compilation.attributeNames, Tag.isAttributeName name = true := by decide
  rw [attributes]
  refine List.forall_mem_append.2 ⟨?_, fun entry hentry => ?_⟩
  · cases n.role with
    | element id kind =>
      exact List.forall_mem_singleton.2 (by decide : Tag.isAttributeName "id" = _)
    | root => exact List.forall_mem_nil _
    | wrapper => exact List.forall_mem_nil _
  · exact hnames _ (h.attributes _ (List.mem_map_of_mem (List.mem_of_mem_filter hentry)))

/-- A node with a name, around proper markup, gives proper markup. -/
theorem isProper_nodeMarkup (h : Compilation.HasNames n) (depth : Nat) {children : List Markup}
    (hchildren : ∀ child ∈ children, child.isProper = true) :
    (nodeMarkup ⟨.static, pretty⟩ n depth children).isProper = true := by
  have htag : Tag.isTagName n.tag = true :=
    (by decide : ∀ tag ∈ Compilation.tagNames, Tag.isTagName tag = true) _ h.tag
  have htext (text : String) : (ofText text).isProper = true := rfl
  have hstart : (ofTag (.start n.tag (attributes .static n))).isProper = true := by
    rw [ofTag, Markup.isProper, List.all_cons, List.all_nil, Bool.and_true, Tag.isProper,
      Bool.and_eq_true, List.all_eq_true]
    exact ⟨htag, isAttributeName_of_mem_attributes h⟩
  have hclose : (ofTag (.close n.tag)).isProper = true := by
    rw [ofTag, Markup.isProper, List.all_cons, List.all_nil, Bool.and_true]
    exact htag
  have hjoin : (join children).isProper = true := by
    rw [isProper_join, List.all_eq_true]
    exact hchildren
  rw [nodeMarkup]
  split_ifs <;>
    simp only [isProper_append, htext, hstart, hclose, hjoin, Bool.and_true]

/-- The markup at any node of a tree whose nodes have names is proper. -/
theorem isProper_markupAt (h : ∀ i n, t.get? i = some n → Compilation.HasNames n)
    (pretty : Bool) (i depth : Nat) : (markupAt t ⟨.static, pretty⟩ i depth).isProper = true := by
  induction i using t.induction_children generalizing depth with
  | step i ih =>
    cases hget : t.get? i with
    | none =>
      rw [markupAt, MarkupTree.fold_eq]
      simp only [hget]
      rfl
    | some n =>
      rw [markupAt_eq hget]
      exact isProper_nodeMarkup (h i n hget) depth (List.forall_mem_map.2 fun c hc =>
        ih c hc (depth + 1))

/-- The markup of a compiled tree is proper. -/
theorem isProper_bodyMarkup (h : ∀ i n, t.get? i = some n → Compilation.HasNames n)
    (pretty : Bool) (depth : Nat) : (bodyMarkup t ⟨.static, pretty⟩ depth).isProper = true := by
  rw [bodyMarkup, isProper_join, List.all_map, List.all_eq_true]
  exact fun c _ => isProper_markupAt h pretty c depth

end Proper

end Sitework.Html
