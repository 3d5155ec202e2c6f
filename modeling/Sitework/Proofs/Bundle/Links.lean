import Sitework.Bundle.Document
import Sitework.Proofs.Bundle.Images
import Sitework.Proofs.Compilation.Nodes
import Sitework.Proofs.Markup.Links

/-!
# Stylesheets that a document links

The head of a document links its stylesheets, and nothing else in it does: the title and the
description are escaped, and no node of a page has the tag of a link.
-/

namespace Sitework

namespace Compilation

/-- The path of an image is the value of an attribute that images have. -/
theorem HasNames.placed {n : MarkupNode} (h : HasNames n) (pathOf : String → String) :
    HasNames (n.placed pathOf) := by
  cases hid : n.blobId? with
  | none => rwa [n.placed_of_none pathOf hid]
  | some id =>
    rw [n.placed_of_some pathOf hid]
    refine ⟨h.tag, fun name hname => ?_⟩
    rw [MarkupNode.setAttribute, OrderedMap.keys_insert] at hname
    split at hname
    · exact h.attributes name hname
    · rcases List.mem_append.1 hname with hname | hname
      · exact h.attributes name hname
      · rw [List.mem_singleton.1 hname]
        decide

end Compilation

/-- The nodes of a page with its images in place have the tags and attributes of compiled nodes. -/
theorem Page.hasNames_placed {p : Page} {pathOf : String → String} {i : Nat} {n : MarkupNode}
    (h : (p.placed pathOf).get? i = some n) : Compilation.HasNames n := by
  rw [Page.placed, MarkupTree.get?_mapNodes, Option.map_eq_some_iff] at h
  obtain ⟨m, hm, rfl⟩ := h
  have hcomplete := p.compile_isComplete .monitor
  exact (hcomplete.part i m hm).hasNames.placed pathOf

namespace Html

section Head

variable {text location : String} {l : List String}

/-- A line of the head links what it holds. -/
theorem Links.line (h : Links text l) : Links (DocumentHead.line text) l := by
  have hstart : Links "    " [] := .of_not_mem (by decide)
  have hend : Links "\n" [] := .of_not_mem (by decide)
  have hline := (hstart.append h).append hend
  rwa [List.nil_append, List.append_nil] at hline

/-- A line of a head that links a stylesheet. -/
theorem links_stylesheetLink (hne : location.toList ≠ []) :
    Links (DocumentHead.stylesheetLink location) [escapeAttribute location] := by
  have hquote : '"' ∉ (escapeAttribute location).toList := fun hmem =>
    (isInner_of_mem_escapeAttribute hmem).2 rfl
  have hinner : ∀ c ∈ linkTag (escapeAttribute location).toList, IsInner c := by
    have hstart : ∀ c ∈ linkStart ++ ['"'], IsInner c := Text.forall_mem_of_all (by decide)
    rw [linkTag, List.append_cons]
    refine List.forall_mem_append.2 ⟨hstart, List.forall_mem_append.2 ⟨fun c hc => ?_, ?_⟩⟩
    · exact (isInner_of_mem_escapeAttribute hc).1
    · exact List.forall_mem_singleton.2 (by decide)
  have htag := HasTags.single hinner rfl
  have hspace : '"' ∉ Minify.substitute Minify.blankRun (escapeAttribute location).toList :=
    fun hmem => hquote (Minify.mem_of_mem_substitute_blankRun hmem (by decide))
  have htext : ("<link rel=\"stylesheet\" href=\"" ++ escapeAttribute location ++ "\">").toList =
      '<' :: (linkTag (escapeAttribute location).toList ++ ['>']) := by
    rw [String.toList_append, String.toList_append, linkTag, List.append_assoc, List.append_assoc,
      List.cons_append, List.append_assoc]
    rfl
  refine Links.line ⟨?_, ?_, ?_⟩ <;> rw [htext]
  · exact htag.isMarkup
  · rw [htag.tags, List.filterMap_cons_some (linkedStylesheet?_linkTag hquote),
      String.ofList_toList]
    rfl
  · rw [htag.tags, List.map_singleton, shortTag_linkTag (escapeAttribute_ne_nil hne) hquote,
      List.filterMap_cons_some (linkedStylesheet?_linkTag hspace)]
    rfl

/-- Each stylesheet of the head is linked once, in order. -/
theorem links_stylesheetLinks {locations : List String}
    (hne : ∀ location ∈ locations, location.toList ≠ []) :
    Links (String.join (locations.map DocumentHead.stylesheetLink))
      (locations.map escapeAttribute) := by
  induction locations with
  | nil => exact .of_not_mem (by decide)
  | cons location locations ih =>
    rw [List.forall_mem_cons] at hne
    rw [List.map_cons, String.join_cons]
    exact (links_stylesheetLink hne.1).append (ih hne.2)

/-- A description links nothing. -/
theorem links_descriptionLine (head : DocumentHead) : Links head.descriptionLine [] := by
  rw [DocumentHead.descriptionLine]
  split
  · next text _ =>
    refine Links.line (.of_tag ("meta name=\"description\" content=\"".toList ++
      (escapeAttribute text).toList ++ ['"']) ?_ rfl rfl ?_)
    · have hstart : ∀ c ∈ "meta name=\"description\" content=\"".toList, IsInner c :=
        Text.forall_mem_of_all (by decide)
      refine List.forall_mem_append.2 ⟨List.forall_mem_append.2 ⟨hstart, fun c hc => ?_⟩, ?_⟩
      · exact (isInner_of_mem_escapeAttribute hc).1
      · exact List.forall_mem_singleton.2 (by decide)
    · rw [String.toList_append, String.toList_append, List.append_assoc, List.append_assoc]
      rfl
  · exact .of_not_mem (by decide)

/-- Nor does a title. -/
theorem links_title (title : String) :
    Links (DocumentHead.line ("<title>" ++ escapeText title ++ "</title>")) [] := by
  have hopen : Links "<title>" [] :=
    .of_tag "title".toList (Text.forall_mem_of_all (by decide)) rfl rfl rfl
  have htitle : Links (escapeText title) [] :=
    .of_not_mem fun hmem => (isInner_of_mem_escapeText hmem).1 rfl
  have hclose : Links "</title>" [] :=
    .of_tag "/title".toList (Text.forall_mem_of_all (by decide)) rfl rfl rfl
  exact ((hopen.append htitle).append hclose).line

/-- The tag that links the favicon. -/
def faviconTag : List Char := "link rel=\"icon\" href=\"src/favicon.ico\"".toList

/-- The favicon is no stylesheet. -/
theorem links_favicon :
    Links (DocumentHead.line ("<link rel=\"icon\" href=\"" ++ faviconPath ++ "\">")) [] := by
  have hquotes : faviconTag.IsChain fun a b => ¬(a = '"' ∧ b = '"') := by decide
  have hspace : ∀ c ∈ faviconTag, Text.isBlank c = true → c = ' ' :=
    Text.forall_mem_of_all (by decide)
  have hblanks : faviconTag.IsChain fun a b => Text.isBlank a = true → Text.isBlank b = false := by
    decide
  have hshort : Minify.shortTag faviconTag = faviconTag := by
    rw [Minify.shortTag, Minify.dropEmpty_eq_self hquotes,
      Minify.substitute_blankRun_eq_self hspace hblanks]
  have htag : HasTags ("<link rel=\"icon\" href=\"" ++ faviconPath ++ "\">").toList [faviconTag] :=
    ⟨by decide, by decide⟩
  refine Links.line ⟨htag.isMarkup, ?_, ?_⟩ <;> rw [htag.tags]
  · decide
  · rw [List.map_singleton, hshort]
    decide

/-- The head of a document links its stylesheets. -/
theorem links_head {head : DocumentHead}
    (hne : ∀ location ∈ head.stylesheets, location.toList ≠ []) :
    Links head.text (head.stylesheets.map escapeAttribute) := by
  have hcharset : Links "<meta charset=\"utf-8\">" [] :=
    .of_tag "meta charset=\"utf-8\"".toList (Text.forall_mem_of_all (by decide)) rfl rfl rfl
  have hviewport :
      Links "<meta name=\"viewport\" content=\"width=device-width, initial-scale=1\">" [] :=
    .of_tag "meta name=\"viewport\" content=\"width=device-width, initial-scale=1\"".toList
      (Text.forall_mem_of_all (by decide)) rfl rfl rfl
  have hhead := ((((hcharset.line.append hviewport.line).append (links_descriptionLine head)).append
    (links_title head.title)).append links_favicon).append (links_stylesheetLinks hne)
  exact hhead

/-- A document links the stylesheets of its head, if its body links none. -/
theorem links_document {head : DocumentHead} {body : String}
    (hne : ∀ location ∈ head.stylesheets, location.toList ≠ []) (hbody : Links body []) :
    Links (head.document body) (head.stylesheets.map escapeAttribute) := by
  have hstart : Links "<!DOCTYPE html>\n<html lang=\"en\">\n  <head>\n" [] :=
    .of_hasTags (t := ["!DOCTYPE html".toList, "html lang=\"en\"".toList, "head".toList])
      ⟨by decide, by decide⟩ (by decide)
  have hmiddle : Links "  </head>\n  <body>\n" [] :=
    .of_hasTags (t := ["/head".toList, "body".toList]) ⟨by decide, by decide⟩ (by decide)
  have hend : Links "  </body>\n</html>\n" [] :=
    .of_hasTags (t := ["/body".toList, "/html".toList]) ⟨by decide, by decide⟩ (by decide)
  have hdocument := (((hstart.append (links_head hne)).append hmiddle).append hbody).append hend
  rwa [List.nil_append, List.append_nil, List.append_nil, List.append_nil] at hdocument

end Head

section Pages

variable {n : MarkupNode}

/-- A node with one of the tags and some of the attributes links nothing. -/
theorem isPlain_of_hasNames (h : Compilation.HasNames n) : IsPlain n := by
  have htags : ∀ tag ∈ Compilation.tagNames, tag.toList.head? ≠ some 'l' ∧ tag.toList ≠ [] ∧
      tag.toList.all Char.isAlphanum = true := by decide
  have hnames : ∀ name ∈ Compilation.attributeNames, name.toList.all (IsInner ·) = true := by
    decide
  exact ⟨htags _ h.tag, fun name hname =>
    Text.forall_mem_of_all (hnames name (h.attributes name hname))⟩

/-- The markup of a page links nothing. -/
theorem links_page (p : Page) (pathOf : String → String) (pretty : Bool) (depth : Nat) :
    Links (body (p.placed pathOf) ⟨.static, pretty⟩ depth) [] :=
  links_body (fun _ _ hget => isPlain_of_hasNames (Page.hasNames_placed hget)) pretty depth

end Pages

end Html

end Sitework
