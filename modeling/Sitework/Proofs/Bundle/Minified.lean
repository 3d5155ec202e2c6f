import Sitework.Proofs.Bundle.Layout
import Sitework.Proofs.Minify.Markup

/-!
# Minified documents of an exported site

The document of a page is the written form of markup, and so is what minifying makes of it: the
same tags with the same attributes in the same order, without empty attributes and without the
blanks that lay out the tags. But a run of blanks in the value of an attribute becomes one space as
well, so a value with such a run is not kept.
-/

namespace Sitework

namespace Html

open Markup

/-- A text that is the written form of markup. -/
structure Writes (text : String) (m : Markup) : Prop where
  isProper : m.isProper = true
  chars : m.chars = text.toList

namespace Writes

variable {a b text : String} {m n : Markup}

/-- Texts that write markup write the joined markup when they are joined. -/
theorem append (ha : Writes a m) (hb : Writes b n) : Writes (a ++ b) (m ++ n) where
  isProper := by rw [isProper_append, ha.isProper, hb.isProper, Bool.and_self]
  chars := by rw [chars_append, ha.chars, hb.chars, String.toList_append]

/-- An escaped text writes itself. -/
theorem escaped (text : String) : Writes (escapeText text) (ofText text) :=
  ⟨rfl, rfl⟩

/-- A tag between brackets writes itself. -/
theorem ofTag {tag : Tag} (hproper : tag.isProper = true)
    (htext : text.toList = '<' :: (tag.inside ++ ['>'])) : Writes text (ofTag tag) where
  isProper := by rw [Markup.ofTag, Markup.isProper, List.all_cons, List.all_nil, hproper]; rfl
  chars := by rw [chars_ofTag, htext]

/-- A tag is written around the value of its last attribute, whatever that value is. -/
theorem ofValue (name : String) (attributes : List (String × String)) (key : String)
    {start : String} (hproper : Tag.isProper (.start name (attributes ++ [(key, "")])) = true)
    (hstart : start.toList =
      '<' :: ((Tag.start name attributes).inside ++ ' ' :: (key.toList ++ ['=', '"'])))
    (value : String) : Writes (start ++ escapeAttribute value ++ "\">")
      (Markup.ofTag (.start name (attributes ++ [(key, value)]))) := by
  refine .ofTag ?_ ?_
  · rw [Tag.isProper, List.all_append] at hproper ⊢
    exact hproper
  · rw [String.toList_append, String.toList_append, hstart]
    simp only [Tag.inside, List.flatMap_append, List.flatMap_singleton, toList_attributeText,
      List.append_assoc, List.cons_append]
    rfl

/-- So do texts in a row. -/
theorem join {α : Type} {items : List α} {f : α → String} {g : α → Markup}
    (h : ∀ item ∈ items, Writes (f item) (g item)) :
    Writes (String.join (items.map f)) (Markup.join (items.map g)) where
  isProper := by
    rw [isProper_join, List.all_map, List.all_eq_true]
    exact fun item hitem => (h item hitem).isProper
  chars := by
    rw [chars_join, String.toList_join, List.flatMap_map, List.flatMap_map]
    exact List.flatMap_congr fun item hitem => (h item hitem).chars

/-- The written form of markup is read as that markup. -/
theorem read? (h : Writes text m) : read? text = some m := by
  rw [Html.read?, ← h.chars, markup?_chars h.isProper]

/-- A line of the head writes what it holds, with its margin and the line break. -/
theorem line (h : Writes text m) :
    Writes (DocumentHead.line text) (ofText "    " ++ m ++ ofText "\n") :=
  ((escaped "    ").append h).append (escaped "\n")

end Writes

section Documents

/-- The head of a document is the written form of markup. -/
theorem exists_writes_head (head : DocumentHead) : ∃ m, Writes head.text m := by
  have hcharset : Writes "<meta charset=\"utf-8\">"
      (ofTag (.start "meta" [("charset", "utf-8")])) := .ofTag (by decide) (by decide)
  have hviewport : Writes
      "<meta name=\"viewport\" content=\"width=device-width, initial-scale=1\">"
      (ofTag (.start "meta" [("name", "viewport"),
        ("content", "width=device-width, initial-scale=1")])) := .ofTag (by decide) (by decide)
  have hdescription : ∃ m, Writes head.descriptionLine m := by
    rw [DocumentHead.descriptionLine]
    split
    · next text _ =>
      exact ⟨_, Writes.line
        (.ofValue "meta" [("name", "description")] "content" (by decide) (by decide) text)⟩
    · exact ⟨ofText "", .escaped ""⟩
  have htitle : Writes ("<title>" ++ escapeText head.title ++ "</title>")
      (ofTag (.start "title" []) ++ ofText head.title ++ ofTag (.close "title")) :=
    ((Writes.ofTag (by decide) (by decide)).append (.escaped head.title)).append
      (.ofTag (by decide) (by decide))
  have hfavicon : Writes ("<link rel=\"icon\" href=\"" ++ faviconPath ++ "\">")
      (ofTag (.start "link" [("rel", "icon"), ("href", faviconPath)])) :=
    .ofTag (by decide) (by decide)
  have hlinks : Writes (String.join (head.stylesheets.map DocumentHead.stylesheetLink))
      (Markup.join (head.stylesheets.map fun location => ofText "    " ++
        ofTag (.start "link" [("rel", "stylesheet"), ("href", location)]) ++ ofText "\n")) :=
    .join fun location _ => Writes.line
      (.ofValue "link" [("rel", "stylesheet")] "href" (by decide) (by decide) location)
  obtain ⟨m, hdescription⟩ := hdescription
  exact ⟨_, ((((hcharset.line.append hviewport.line).append hdescription).append htitle.line).append
    hfavicon.line).append hlinks⟩

/-- The document of a page is the written form of markup. It begins with a tag, and a line break is
all that follows its last one. -/
theorem exists_writes_document (head : DocumentHead) (p : Page) (pathOf : String → String) :
    ∃ m, Writes (head.document (body (p.placed pathOf) ⟨.static, true⟩ 2)) m ∧
      m.tags.head?.any (·.1 == "") = true ∧ m.last = "\n" := by
  obtain ⟨headMarkup, hhead⟩ := exists_writes_head head
  have hkind : Minify.squeezed "DOCTYPE html" = "DOCTYPE html" := by
    rw [Minify.squeezed,
      Minify.substitute_blankRun_eq_self (Text.forall_mem_of_all (by decide)) (by decide),
      String.ofList_toList]
  have hstart : Writes "<!DOCTYPE html>\n<html lang=\"en\">\n  <head>\n"
      ⟨[("", .declaration "DOCTYPE html"), ("\n", .start "html" [("lang", "en")]),
        ("\n  ", .start "head" [])], "\n"⟩ := by
    refine ⟨?_, by decide⟩
    rw [Markup.isProper, List.all_cons, Tag.isProper, hkind]
    decide
  have hmiddle : Writes "  </head>\n  <body>\n"
      ⟨[("  ", .close "head"), ("\n  ", .start "body" [])], "\n"⟩ := ⟨by decide, by decide⟩
  have hend : Writes "  </body>\n</html>\n"
      ⟨[("  ", .close "body"), ("\n", .close "html")], "\n"⟩ := ⟨by decide, by decide⟩
  have hbody : Writes (body (p.placed pathOf) ⟨.static, true⟩ 2)
      (bodyMarkup (p.placed pathOf) ⟨.static, true⟩ 2) :=
    ⟨isProper_bodyMarkup (fun _ _ hget => Page.hasNames_placed hget) true 2, chars_bodyMarkup ..⟩
  refine ⟨_, (((hstart.append hhead).append hmiddle).append hbody).append hend, ?_, rfl⟩
  rw [head?_tags_append (head?_tags_append (head?_tags_append (head?_tags_append rfl _) _) _)]
  rfl

/-- The minified document of a page has the tags of the document in the same order, without the
attributes that are empty and mean nothing then. It has their values and the texts with one space
for each run of blanks, and no blank texts. -/
theorem exists_read?_html_document (head : DocumentHead) (p : Page) (pathOf : String → String) :
    ∃ m, read? (head.document (body (p.placed pathOf) ⟨.static, true⟩ 2)) = some m ∧
      read? (Minify.html (head.document (body (p.placed pathOf) ⟨.static, true⟩ 2))) =
        some (m.compact.mapValues Minify.squeezed) := by
  obtain ⟨m, hwrites, hfirst, hlast⟩ := exists_writes_document head p pathOf
  have hblank : m.last.toList.all Text.isBlank = true := by
    rw [hlast]
    decide
  have hchars := Minify.toList_html hwrites.isProper hfirst hblank
  rw [hwrites.chars, String.ofList_toList] at hchars
  refine ⟨m, hwrites.read?, ?_⟩
  have hproper : (m.compact.mapValues Minify.squeezed).isProper = true :=
    isProper_map (fun _ => Tag.isProper_mapValues)
      (isProper_map (fun _ => Tag.isProper_compact) hwrites.isProper)
  rw [read?, hchars, markup?_chars hproper]

end Documents

end Html

namespace Exporter

/-- The minified document of a page keeps the tags, the attributes with their values and the texts
of the document, apart from empty attributes and the layout of texts, exactly if no value that it
keeps has a run of blanks other than single spaces. In any case such runs in values are all that is
changed further. -/
theorem exists_read?_html_documentText (site : Site) (blobOf : String → Blob)
    (request : Option String) (p : Page) :
    ∃ m, Html.read? (documentText site blobOf request p) = some m ∧
      Html.read? (Minify.html (documentText site blobOf request p)) =
        some (m.compact.mapValues Minify.squeezed) ∧
      (Html.read? (Minify.html (documentText site blobOf request p)) = some m.compact ↔
        ∀ value ∈ m.compact.values, Minify.squeezed value = value) := by
  obtain ⟨m, hread, hminified⟩ := Html.exists_read?_html_document
    ⟨p.documentTitle, p.id, site.description, request⟩ p (pathOf blobOf site.shownBlobs)
  have hiff : Html.read? (Minify.html (documentText site blobOf request p)) = some m.compact ↔
      ∀ value ∈ m.compact.values, Minify.squeezed value = value := by
    rw [documentText, hminified, Option.some.injEq, Html.Markup.mapValues_eq_self_iff]
  exact ⟨m, hread, hminified, hiff⟩

end Exporter

end Sitework
