import Sitework.Markup.Html
import Sitework.Proofs.Markup.Tree
import Sitework.Proofs.Minify.Html
import Sitework.Proofs.Text.Character

/-!
# Stylesheets that a text links

The stylesheets that a text links are those of its parts, and minifying the text keeps the links.
Escaped text begins no tag, so nodes link nothing unless they have the tag of a link themselves.
-/

namespace Sitework

namespace Html

/-- What comes before the location in the tag that links a stylesheet. -/
def linkStart : List Char := "link rel=\"stylesheet\" href=".toList

/-- The tag that links a stylesheet. -/
def linkTag (location : List Char) : List Char :=
  linkStart ++ '"' :: (location ++ ['"'])

/-- A text that links the stylesheets of these locations, and after it is minified those of the
squeezed ones. -/
structure Links (text : String) (locations : List String) : Prop where
  isMarkup : isMarkup text.toList = true
  plain : (tags text.toList).filterMap linkedStylesheet? = locations
  minified : ((tags text.toList).map Minify.shortTag).filterMap linkedStylesheet? =
    locations.map Minify.squeezed

/-- A tag with another name than that of a link. -/
def isOther (tag : List Char) : Bool :=
  tag.head?.any fun c => c != 'l' && !Text.isBlank c

section Tags

variable {c : Char} {tag location : List Char}

/-- A tag links no stylesheet unless its name starts with an l. -/
theorem linkedStylesheet?_of_ne (h : c ≠ 'l') (rest : List Char) :
    linkedStylesheet? (c :: rest) = none := by
  refine if_neg fun hlink => ?_
  have hname := hlink.1
  rw [List.takeWhile_cons] at hname
  split at hname
  · exact h (List.cons.inj hname).1
  · cases hname

/-- A tag of another name starts with a letter other than l. -/
theorem exists_of_isOther (h : isOther tag = true) :
    ∃ c rest, tag = c :: rest ∧ c ≠ 'l' ∧ Text.isBlank c = false := by
  cases tag with
  | nil => cases h
  | cons c rest =>
    have hc : (c != 'l' && !Text.isBlank c) = true := h
    rw [Bool.and_eq_true, bne_iff_ne, Bool.not_eq_true'] at hc
    exact ⟨c, rest, rfl, hc.1, hc.2⟩

/-- A tag of another name links no stylesheet. -/
theorem linkedStylesheet?_of_isOther (h : isOther tag = true) : linkedStylesheet? tag = none := by
  obtain ⟨c, rest, rfl, hc, -⟩ := exists_of_isOther h
  exact linkedStylesheet?_of_ne hc rest

/-- Nor does it once it is shortened. -/
theorem linkedStylesheet?_shortTag_of_isOther (h : isOther tag = true) :
    linkedStylesheet? (Minify.shortTag tag) = none := by
  obtain ⟨c, rest, rfl, hc, hblank⟩ := exists_of_isOther h
  obtain ⟨short, hshort⟩ := Minify.exists_dropEmpty_cons hblank rest
  rw [Minify.shortTag, hshort, Minify.substitute_blankRun_of_not_blank hblank]
  exact linkedStylesheet?_of_ne hc _

/-- An address without quotes is read up to the quote after it. -/
theorem takeWhile_ne_quote (h : '"' ∉ location) (rest : List Char) :
    (location ++ '"' :: rest).takeWhile (· != '"') = location := by
  have hall : ∀ c ∈ location, (c != '"') = true := by
    intro c hc
    rw [bne_iff_ne]
    rintro rfl
    exact h hc
  rw [List.takeWhile_append_of_pos hall, List.takeWhile_cons_of_neg (by decide), List.append_nil]

/-- The location is read off the tag. -/
theorem linkedStylesheet?_linkTag (h : '"' ∉ location) :
    linkedStylesheet? (linkTag location) = some (String.ofList location) := by
  have hname : (linkTag location).takeWhile Char.isAlphanum = "link".toList := rfl
  have hrel : attributeOf? "rel".toList (linkTag location) = some "stylesheet".toList := rfl
  have hhref : attributeOf? "href".toList (linkTag location) =
      some ((location ++ ['"']).takeWhile (· != '"')) := rfl
  rw [linkedStylesheet?, if_pos ⟨hname, hrel⟩, hhref, takeWhile_ne_quote h, Option.map_some]

/-- A link stays, and only the blanks in its location are squeezed. -/
theorem shortTag_linkTag (hne : location ≠ []) (h : '"' ∉ location) :
    Minify.shortTag (linkTag location) =
      linkTag (Minify.substitute Minify.blankRun location) := by
  have hchain : (linkTag location).IsChain fun a b => ¬(a = '"' ∧ b = '"') := by
    have hvalue : (location ++ ['"']).Pairwise fun a b => ¬(a = '"' ∧ b = '"') := by
      have hquote : ∀ a ∈ location, ∀ b, ¬(a = '"' ∧ b = '"') := by
        rintro a ha b ⟨rfl, -⟩
        exact h ha
      rw [List.pairwise_append]
      exact ⟨List.pairwise_of_forall_mem_list fun a ha b _ => hquote a ha b,
        List.pairwise_singleton _ _, fun a ha b _ => hquote a ha b⟩
    rw [linkTag, List.append_cons]
    refine List.IsChain.append (by decide) hvalue.isChain ?_
    intro _ _ first hfirst hquotes
    obtain ⟨head, rest, rfl⟩ := List.exists_cons_of_ne_nil hne
    have heq : head = first := Option.some_inj.1 hfirst
    exact h (heq.trans hquotes.2 ▸ List.mem_cons_self)
  have hquote : Text.isBlank '"' = false := by decide
  have hspace : ∀ c ∈ linkStart, Text.isBlank c = true → c = ' ' :=
    Text.forall_mem_of_all (by decide)
  have hblanks : linkStart.IsChain fun a b => Text.isBlank a = true → Text.isBlank b = false := by
    decide
  have hlast : Minify.substitute Minify.blankRun [] = [] := by rw [Minify.substitute]
  rw [Minify.shortTag, Minify.dropEmpty_eq_self hchain, linkTag,
    Minify.substitute_blankRun_append hquote, Minify.substitute_blankRun_eq_self hspace hblanks,
    Minify.substitute_blankRun_append hquote, hlast, linkTag]

end Tags

namespace Links

variable {a b text : String} {l m : List String} {tag : List Char}

/-- The links of a text are those of its parts. -/
theorem append (ha : Links a l) (hb : Links b m) : Links (a ++ b) (l ++ m) := by
  have htags : tags (a ++ b).toList = tags a.toList ++ tags b.toList := by
    rw [String.toList_append, tags_append ha.isMarkup]
  refine ⟨?_, ?_, ?_⟩
  · rw [String.toList_append, isMarkup_append ha.isMarkup hb.isMarkup]
  · rw [htags, List.filterMap_append, ha.plain, hb.plain]
  · rw [htags, List.map_append, List.filterMap_append, ha.minified, hb.minified, List.map_append]

/-- Texts without links have none when they are joined. -/
theorem join {texts : List String} (h : ∀ text ∈ texts, Links text []) :
    Links (String.join texts) [] := by
  induction texts with
  | nil => exact ⟨rfl, rfl, rfl⟩
  | cons text texts ih =>
    rw [List.forall_mem_cons] at h
    rw [String.join_cons]
    exact h.1.append (ih h.2)

/-- Where no tag begins there is no link. -/
theorem of_not_mem (h : '<' ∉ text.toList) : Links text [] := by
  refine ⟨isMarkup_of_not_mem h, ?_, ?_⟩ <;> rw [tags_eq_nil h] <;> rfl

/-- Tags with other names link nothing. -/
theorem of_hasTags {t : List (List Char)} (h : HasTags text.toList t)
    (hother : ∀ tag ∈ t, isOther tag = true) : Links text [] := by
  refine ⟨h.isMarkup, ?_, ?_⟩
  · rw [h.tags, List.filterMap_eq_nil_iff]
    exact fun tag htag => linkedStylesheet?_of_isOther (hother tag htag)
  · rw [h.tags, List.filterMap_map, List.map_nil, List.filterMap_eq_nil_iff]
    exact fun tag htag => linkedStylesheet?_shortTag_of_isOther (hother tag htag)

/-- A tag between brackets that links nothing. -/
theorem of_tag (tag : List Char) (hinner : ∀ c ∈ tag, IsInner c)
    (hcomment : Text.after? commentMark tag = none) (hother : isOther tag = true)
    (htext : text.toList = '<' :: (tag ++ ['>'])) : Links text [] :=
  .of_hasTags (htext ▸ .single hinner hcomment) (List.forall_mem_singleton.2 hother)

/-- A minified text links the same stylesheets. -/
theorem linkedStylesheets_html (h : Links text l) :
    linkedStylesheets (Minify.html text) = l.map Minify.squeezed := by
  rw [linkedStylesheets, Minify.tags_html h.isMarkup, h.minified]

end Links

section Escapes

variable {c d : Char}

/-- What is written for a character of a text holds no bracket. -/
theorem isInner_of_mem_escapeTextChar (h : d ∈ escapeTextChar c) : IsInner d := by
  rw [escapeTextChar] at h
  split_ifs at h with hamp hopen hclose
  · exact Text.forall_mem_of_all (by decide) d h
  · exact Text.forall_mem_of_all (by decide) d h
  · exact Text.forall_mem_of_all (by decide) d h
  · rw [List.mem_singleton.1 h]
    exact ⟨hopen, hclose⟩

/-- Nor does an escaped text. -/
theorem isInner_of_mem_escapeText {text : String} (h : d ∈ (escapeText text).toList) :
    IsInner d := by
  rw [escapeText, String.toList_ofList, List.mem_flatMap] at h
  obtain ⟨c, -, hd⟩ := h
  exact isInner_of_mem_escapeTextChar hd

/-- An escaped value holds nothing that ends it or the tag that it is in. -/
theorem isInner_of_mem_escapeAttribute {value : String} (h : d ∈ (escapeAttribute value).toList) :
    IsInner d ∧ d ≠ '"' := by
  rw [escapeAttribute, String.toList_ofList, List.mem_flatMap] at h
  obtain ⟨c, -, hd⟩ := h
  rw [escapeAttributeChar] at hd
  split at hd
  · exact Text.forall_mem_of_all (P := fun d => IsInner d ∧ d ≠ '"') (by decide) d hd
  · next hquote =>
    refine ⟨isInner_of_mem_escapeTextChar hd, ?_⟩
    rintro rfl
    rw [escapeTextChar] at hd
    split_ifs at hd
    · exact absurd hd (by decide)
    · exact absurd hd (by decide)
    · exact absurd hd (by decide)
    · exact hquote (List.mem_singleton.1 hd).symm

/-- A value that is not empty is not escaped to an empty one. -/
theorem escapeAttribute_ne_nil {value : String} (h : value.toList ≠ []) :
    (escapeAttribute value).toList ≠ [] := by
  obtain ⟨c, cs, hvalue⟩ := List.exists_cons_of_ne_nil h
  rw [escapeAttribute, String.toList_ofList, hvalue, List.flatMap_cons]
  refine List.append_ne_nil_of_left_ne_nil ?_ _
  rw [escapeAttributeChar, escapeTextChar]
  split_ifs <;> exact List.cons_ne_nil _ _

end Escapes

section Body

/-- A node whose tag is not that of a link. The names of its tag and its attributes hold no
brackets. -/
structure IsPlain (n : MarkupNode) : Prop where
  tag : n.tag.toList.head? ≠ some 'l' ∧ n.tag.toList ≠ [] ∧
    n.tag.toList.all Char.isAlphanum = true
  attributes : ∀ name ∈ n.attributes.keys, ∀ c ∈ name.toList, IsInner c

variable {n : MarkupNode}

/-- Letters and digits are no brackets. -/
theorem isInner_of_isAlphanum {c : Char} (h : c.isAlphanum = true) : IsInner c := by
  constructor <;> rintro rfl <;> exact absurd h (by decide)

/-- What is written of an attribute holds no brackets. -/
theorem isInner_of_mem_attributeText {name value : String} (h : ∀ c ∈ name.toList, IsInner c) :
    ∀ c ∈ (attributeText name value).toList, IsInner c := by
  have hspace : ∀ c ∈ " ".toList, IsInner c := Text.forall_mem_of_all (by decide)
  have hvalue : ∀ c ∈ "=\"".toList, IsInner c := Text.forall_mem_of_all (by decide)
  have hquote : ∀ c ∈ "\"".toList, IsInner c := Text.forall_mem_of_all (by decide)
  simp only [attributeText, String.toList_append, List.forall_mem_append]
  exact ⟨⟨⟨⟨hspace, h⟩, hvalue⟩, fun c hc => (isInner_of_mem_escapeAttribute hc).1⟩, hquote⟩

/-- A condition on all characters of some texts is one on those of the joined text. -/
theorem forall_mem_join {P : Char → Prop} {texts : List String}
    (h : ∀ text ∈ texts, ∀ c ∈ text.toList, P c) : ∀ c ∈ (String.join texts).toList, P c := by
  induction texts with
  | nil => exact nofun
  | cons text texts ih =>
    rw [List.forall_mem_cons] at h
    rw [String.join_cons, String.toList_append, List.forall_mem_append]
    exact ⟨h.1, ih h.2⟩

/-- The names of the attributes that are written for a static page hold no brackets. -/
theorem IsPlain.names (h : IsPlain n) :
    ∀ entry ∈ Html.attributes .static n, ∀ c ∈ entry.1.toList, IsInner c := by
  intro entry hentry
  rw [Html.attributes, List.mem_append] at hentry
  rcases hentry with hrole | hown
  · have hid : ∀ c ∈ "id".toList, IsInner c := Text.forall_mem_of_all (by decide)
    cases hn : n.role with
    | element id kind =>
      rw [hn] at hrole
      obtain rfl := List.mem_singleton.1 hrole
      exact hid
    | root => rw [hn] at hrole; cases hrole
    | wrapper => rw [hn] at hrole; cases hrole
  · exact h.attributes entry.1 (List.mem_map_of_mem (List.mem_of_mem_filter hown))

/-- The start tag of a plain node links nothing. -/
theorem IsPlain.links_startTag (h : IsPlain n) : Links (startTag .static n) [] := by
  obtain ⟨c, cs, htag⟩ := List.exists_cons_of_ne_nil h.tag.2.1
  have hletters := htag ▸ List.all_eq_true.1 h.tag.2.2
  have hother : c ≠ 'l' := by
    rintro rfl
    exact h.tag.1 (htag ▸ rfl)
  refine .of_tag (n.tag.toList ++ (String.join ((Html.attributes .static n).map
    fun entry => attributeText entry.1 entry.2)).toList) ?_ ?_ ?_ ?_
  · refine List.forall_mem_append.2 ⟨fun d hd =>
      isInner_of_isAlphanum (List.all_eq_true.1 h.tag.2.2 d hd), ?_⟩
    refine forall_mem_join fun text htext => ?_
    obtain ⟨entry, hentry, rfl⟩ := List.mem_map.1 htext
    exact isInner_of_mem_attributeText (h.names entry hentry)
  · rw [htag, List.cons_append, commentMark, Text.after?, if_neg]
    rintro rfl
    exact absurd (hletters _ List.mem_cons_self) (by decide)
  · rw [htag, List.cons_append, isOther, List.head?_cons, Option.any_some,
      Text.isBlank_of_isAlphanum (hletters c List.mem_cons_self), Bool.and_eq_true, bne_iff_ne]
    exact ⟨hother, rfl⟩
  · rw [startTag, String.toList_append, String.toList_append, String.toList_append]
    rw [List.append_assoc, List.append_assoc, ← List.append_assoc n.tag.toList]
    rfl

/-- Nor does its end tag. -/
theorem IsPlain.links_endTag (h : IsPlain n) : Links (endTag n) [] := by
  refine .of_tag ('/' :: n.tag.toList) ?_ rfl rfl ?_
  · exact List.forall_mem_cons.2 ⟨by decide, fun c hc =>
      isInner_of_isAlphanum (List.all_eq_true.1 h.tag.2.2 c hc)⟩
  · rw [endTag, String.toList_append, String.toList_append, List.append_assoc]
    rfl

/-- A node links nothing if nothing below it does. -/
theorem IsPlain.links_nodeText (h : IsPlain n) (pretty : Bool) (depth : Nat)
    {children : List String} (hchildren : ∀ child ∈ children, Links child []) :
    Links (nodeText ⟨.static, pretty⟩ n depth children) [] := by
  have hmargin : Links (if pretty then indent depth else "") [] := by
    refine .of_not_mem fun hmem => ?_
    split at hmem
    · rw [indent, String.toList_ofList] at hmem
      exact absurd (List.eq_of_mem_replicate hmem) (by decide)
    · cases hmem
  have hnewLine : Links (if pretty then "\n" else "") [] := by
    split <;> exact .of_not_mem (by decide)
  have htext : Links ((n.text.map escapeText).getD "") [] := by
    refine .of_not_mem fun hmem => ?_
    cases ht : n.text with
    | none => rw [ht] at hmem; cases hmem
    | some text => rw [ht] at hmem; exact (isInner_of_mem_escapeText hmem).1 rfl
  have hcontent : Links (if children.isEmpty then (n.text.map escapeText).getD ""
      else (n.text.map escapeText).getD "" ++ (if pretty then "\n" else "") ++
        String.join children ++ (if pretty then indent depth else "")) [] := by
    split
    · exact htext
    · exact ((htext.append hnewLine).append (.join hchildren)).append hmargin
  have hstart := hmargin.append h.links_startTag
  rw [nodeText]
  split
  · exact hstart.append hnewLine
  · exact ((hstart.append hcontent).append h.links_endTag).append hnewLine

variable {t : MarkupTree}

/-- The HTML of a node is that of its children one level deeper in its own. -/
theorem nodeAt_eq {form : HtmlForm} {i : Nat} (h : t.get? i = some n) (depth : Nat) :
    nodeAt t form i depth =
      nodeText form n depth ((t.children i).map fun c => nodeAt t form c (depth + 1)) := by
  rw [nodeAt, MarkupTree.fold_eq]
  simp only [h, List.map_map]
  rfl

/-- A tree of such nodes links nothing. -/
theorem links_nodeAt (h : ∀ i n, t.get? i = some n → IsPlain n) (pretty : Bool) (i depth : Nat) :
    Links (nodeAt t ⟨.static, pretty⟩ i depth) [] := by
  induction i using t.induction_children generalizing depth with
  | step i ih =>
    cases hget : t.get? i with
    | none =>
      rw [nodeAt, MarkupTree.fold_eq]
      simp only [hget]
      exact .of_not_mem (by decide)
    | some n =>
      rw [nodeAt_eq hget]
      exact (h i n hget).links_nodeText pretty depth (List.forall_mem_map.2 fun c hc =>
        ih c hc (depth + 1))

/-- The body of a tree of plain nodes links nothing. -/
theorem links_body (h : ∀ i n, t.get? i = some n → IsPlain n) (pretty : Bool) (depth : Nat) :
    Links (body t ⟨.static, pretty⟩ depth) [] :=
  .join (List.forall_mem_map.2 fun c _ => links_nodeAt h pretty c depth)

end Body

end Html

end Sitework
