import Sitework.Proofs.Markup.Written

/-!
# Markup of minified documents

What minifying makes of the written form of markup is the written form of other markup: blank texts
are gone, runs of blanks in texts are single spaces, and so are those in the values of attributes;
attributes with an empty value are gone, except those whose empty value means something.
-/

namespace Sitework

namespace Html

/-- A text without the blanks that lay out the tags around it. -/
def betweenTags (text : String) : String :=
  if text.toList.all Text.isBlank then "" else text

/-- A text of a minified document: nothing if it is blank, else with one space for each run of
blanks. -/
def compactText (text : String) : String :=
  Minify.squeezed (betweenTags text)

namespace Tag

/-- A tag without empty attributes, except those whose empty value means something. -/
def compact : Tag → Tag
  | .start name attributes =>
    .start name (attributes.filter fun entry =>
      entry.2 != "" || Minify.meaningfulWhenEmpty.contains entry.1)
  | .close name => .close name
  | .declaration text => .declaration text

/-- The values of the attributes of a tag. -/
def values : Tag → List String
  | .start _ attributes => attributes.map Prod.snd
  | _ => []

/-- A tag with other values. -/
def mapValues (f : String → String) : Tag → Tag
  | .start name attributes => .start name (attributes.map fun entry => (entry.1, f entry.2))
  | .close name => .close name
  | .declaration text => .declaration text

end Tag

namespace Markup

/-- Markup with other texts and tags. -/
def map (f : String → String) (g : Tag → Tag) (m : Markup) : Markup :=
  ⟨m.tags.map (Prod.map f g), f m.last⟩

theorem map_nil (f : String → String) (g : Tag → Tag) (last : String) :
    map f g ⟨[], last⟩ = ⟨[], f last⟩ :=
  rfl

theorem map_cons (f : String → String) (g : Tag → Tag) (text : String) (tag : Tag)
    (tags : List (String × Tag)) (last : String) : map f g ⟨(text, tag) :: tags, last⟩ =
      ⟨(f text, g tag) :: tags.map (Prod.map f g), f last⟩ :=
  rfl

/-- Markup without blank texts, runs of blanks in texts and empty attributes, except those whose
empty value means something. -/
def compact (m : Markup) : Markup :=
  m.map compactText Tag.compact

/-- The values of all attributes. -/
def values (m : Markup) : List String :=
  m.tags.flatMap fun entry => entry.2.values

/-- Markup with other values. -/
def mapValues (f : String → String) (m : Markup) : Markup :=
  m.map id (Tag.mapValues f)

end Markup

section Proper

variable {f : String → String} {tag : Tag} {m : Markup}

/-- A tag without its empty attributes is proper if the tag was. -/
theorem Tag.isProper_compact (h : tag.isProper = true) : tag.compact.isProper = true := by
  cases tag with
  | start name attributes =>
    rw [isProper, Bool.and_eq_true, List.all_eq_true] at h
    rw [compact, isProper, Bool.and_eq_true, List.all_eq_true]
    exact ⟨h.1, fun entry hentry => h.2 entry (List.mem_of_mem_filter hentry)⟩
  | close name => exact h
  | declaration text => exact h

/-- A tag with other values is proper if the tag was. -/
theorem Tag.isProper_mapValues (h : tag.isProper = true) : (tag.mapValues f).isProper = true := by
  cases tag with
  | start name attributes => rwa [mapValues, isProper, List.all_map]
  | close name => exact h
  | declaration text => exact h

/-- Mapping texts, and tags to proper ones, keeps markup proper. -/
theorem Markup.isProper_map {g : Tag → Tag}
    (hg : ∀ tag : Tag, tag.isProper = true → (g tag).isProper = true) (h : m.isProper = true) :
    (m.map f g).isProper = true := by
  rw [isProper, List.all_eq_true] at h
  rw [map, isProper, List.all_map, List.all_eq_true]
  exact fun entry hentry => hg _ (h entry hentry)

end Proper

section Values

/-- Mapping the values leaves a tag exactly if it leaves each value. -/
theorem Tag.mapValues_eq_self_iff {f : String → String} {tag : Tag} :
    tag.mapValues f = tag ↔ ∀ value ∈ tag.values, f value = value := by
  cases tag with
  | start name attributes =>
    rw [mapValues, values, List.forall_mem_map, Tag.start.injEq, and_iff_right rfl]
    conv_lhs => rhs; rw [← List.map_id attributes]
    rw [List.map_inj_left]
    exact forall₂_congr fun entry _ => by
      rw [Prod.ext_iff]
      exact and_iff_right rfl
  | close name => exact iff_of_true rfl nofun
  | declaration text => exact iff_of_true rfl nofun

/-- Markup keeps all its values if none of them changes. -/
theorem Markup.mapValues_eq_self_iff {f : String → String} {m : Markup} :
    m.mapValues f = m ↔ ∀ value ∈ m.values, f value = value := by
  obtain ⟨tags, last⟩ := m
  rw [mapValues, map, Markup.mk.injEq, and_iff_left (id_eq last), values,
    List.forall_mem_flatMap]
  conv_lhs => rhs; rw [← List.map_id tags]
  rw [List.map_inj_left]
  refine forall₂_congr fun entry _ => ?_
  rw [Prod.ext_iff, ← Tag.mapValues_eq_self_iff]
  exact and_iff_right rfl

end Values

end Html

namespace Minify

open Html (Tag Markup IsInner compactText escapeText escapeAttribute attributeText)

section Escapes

variable {c d : Char}

/-- A way to write characters that leaves blanks as they are and adds none. -/
structure KeepsBlanks (f : Char → List Char) : Prop where
  blank : ∀ c, Text.isBlank c = true → f c = [c]
  other : ∀ c, Text.isBlank c = false → ∃ d ds, f c = d :: ds ∧
    ∀ e ∈ d :: ds, Text.isBlank e = false

namespace KeepsBlanks

variable {f : Char → List Char}

/-- Blanks at the start may be dropped before or after such a change of characters. -/
theorem dropWhile_flatMap (h : KeepsBlanks f) (cs : List Char) :
    (cs.flatMap f).dropWhile Text.isBlank = (cs.dropWhile Text.isBlank).flatMap f := by
  induction cs with
  | nil => rfl
  | cons c cs ih =>
    rw [List.flatMap_cons]
    cases hc : Text.isBlank c with
    | true =>
      rw [h.blank c hc, List.singleton_append, List.dropWhile_cons_of_pos hc, ih,
        List.dropWhile_cons_of_pos hc]
    | false =>
      obtain ⟨d, ds, hf, hds⟩ := h.other c hc
      have hd := Bool.eq_false_iff.1 (hds d List.mem_cons_self)
      rw [List.dropWhile_cons_of_neg (Bool.eq_false_iff.1 hc), List.flatMap_cons, hf,
        List.cons_append, List.dropWhile_cons_of_neg hd]

/-- Such a change makes a text blank only if it was. -/
theorem all_flatMap (h : KeepsBlanks f) (cs : List Char) :
    (cs.flatMap f).all Text.isBlank = cs.all Text.isBlank := by
  rw [List.all_flatMap]
  refine List.all_congr rfl fun c => ?_
  cases hc : Text.isBlank c with
  | true => rw [h.blank c hc, List.all_cons, hc, List.all_nil, Bool.true_and]
  | false =>
    obtain ⟨d, ds, hf, hds⟩ := h.other c hc
    rw [hf, List.all_cons, hds d List.mem_cons_self, Bool.false_and]

/-- It makes no difference whether characters are squeezed before or after. -/
theorem substitute_blankRun_flatMap (h : KeepsBlanks f) (cs : List Char) :
    substitute blankRun (cs.flatMap f) = (substitute blankRun cs).flatMap f := by
  induction cs using shortens_blankRun.induction with
  | nil => rw [List.flatMap_nil, substitute, List.flatMap_nil]
  | copy c cs hnone ih =>
    have hc := isBlank_of_blankRun_eq_none hnone
    obtain ⟨d, ds, hf, hds⟩ := h.other c hc
    have hnone : ∀ e ∈ f c, ∀ cs, blankRun (e :: cs) = none := fun e he cs =>
      if_neg (Bool.eq_false_iff.1 (hds e (hf ▸ he)))
    rw [List.flatMap_cons, substitute_append_of_none hnone, ih,
      substitute_blankRun_of_not_blank hc, List.flatMap_cons]
  | replace c cs piece rest hsome ih =>
    obtain ⟨hc, -, rfl⟩ := blankRun_eq_some hsome
    rw [List.flatMap_cons, h.blank c hc, List.singleton_append, substitute_blankRun_of_blank hc,
      h.dropWhile_flatMap, ih, substitute_blankRun_of_blank hc, List.flatMap_cons,
      h.blank ' ' (by decide), List.singleton_append]

end KeepsBlanks

/-- Escaping a text leaves its blanks and adds none. -/
theorem keepsBlanks_escapeTextChar : KeepsBlanks Html.escapeTextChar where
  blank c hc := by
    have hne (d : Char) (hd : Text.isBlank d = false) : c ≠ d := by
      rintro rfl
      rw [hd] at hc
      cases hc
    rw [Html.escapeTextChar, if_neg (hne _ (by decide)), if_neg (hne _ (by decide)),
      if_neg (hne _ (by decide))]
  other c hc := by
    rw [Html.escapeTextChar]
    split_ifs
    · exact ⟨_, _, rfl, Text.forall_mem_of_all (by decide)⟩
    · exact ⟨_, _, rfl, Text.forall_mem_of_all (by decide)⟩
    · exact ⟨_, _, rfl, Text.forall_mem_of_all (by decide)⟩
    · exact ⟨c, [], rfl, List.forall_mem_singleton.2 hc⟩

/-- So does escaping a value. -/
theorem keepsBlanks_escapeAttributeChar : KeepsBlanks Html.escapeAttributeChar where
  blank c hc := by
    have hne : c ≠ '"' := by
      rintro rfl
      exact absurd hc (by decide)
    rw [Html.escapeAttributeChar, if_neg hne, keepsBlanks_escapeTextChar.blank c hc]
  other c hc := by
    rw [Html.escapeAttributeChar]
    split_ifs
    · exact ⟨_, _, rfl, Text.forall_mem_of_all (by decide)⟩
    · exact keepsBlanks_escapeTextChar.other c hc

/-- Runs of blanks may be squeezed before or after a text is escaped. -/
theorem substitute_blankRun_escapeText (text : String) :
    substitute blankRun (escapeText text).toList = (escapeText (squeezed text)).toList := by
  rw [escapeText, escapeText, String.toList_ofList, String.toList_ofList, squeezed,
    String.toList_ofList, keepsBlanks_escapeTextChar.substitute_blankRun_flatMap]

/-- So they may in a value. -/
theorem substitute_blankRun_escapeAttribute (value : String) :
    substitute blankRun (escapeAttribute value).toList =
      (escapeAttribute (squeezed value)).toList := by
  rw [escapeAttribute, escapeAttribute, String.toList_ofList, String.toList_ofList, squeezed,
    String.toList_ofList, keepsBlanks_escapeAttributeChar.substitute_blankRun_flatMap]

end Escapes

section EmptyAttributes

variable {name value : String} {attributes : List (String × String)} {cs rest : List Char}

/-- Nothing is dropped before a quote that another quote does not follow. -/
theorem substitute_emptyAttribute_quote (hcs : '"' ∉ cs) (hrest : rest.head? ≠ some '"') :
    substitute emptyAttribute (cs ++ '"' :: rest) =
      cs ++ '"' :: substitute emptyAttribute rest := by
  induction cs with
  | nil => exact substitute_cons_of_none (emptyAttribute_of_not_blank (by decide))
  | cons c cs ih =>
    have hnone : emptyAttribute (c :: (cs ++ '"' :: rest)) = none := by
      cases hsome : emptyAttribute (c :: (cs ++ '"' :: rest)) with
      | none => rfl
      | some result =>
        obtain ⟨blank, name, hblank, hname, heq, -⟩ := emptyAttribute_eq_some hsome
        have hbefore : '"' ∉ blank :: (name ++ ['=']) := by
          have hne : '"' ≠ blank := by
            rintro rfl
            exact absurd hblank (by decide)
          simpa [hne] using hname
        have hbreak := Text.breakOn?_append hbefore ('"' :: result.2)
        have hquotes : c :: (cs ++ '"' :: rest) =
            blank :: (name ++ ['=']) ++ '"' :: '"' :: result.2 := by
          rw [heq, List.cons_append, List.append_assoc, List.append_assoc]
          rfl
        rw [← hquotes, ← List.cons_append, Text.breakOn?_append hcs] at hbreak
        obtain ⟨-, hafter⟩ := Prod.mk.inj (Option.some.inj hbreak)
        rw [hafter] at hrest
        exact absurd rfl hrest
    rw [List.cons_append, substitute_cons_of_none hnone, ih (List.not_mem_of_not_mem_cons hcs),
      List.cons_append]

/-- The characters of an attribute's name, a letter first. -/
theorem exists_of_isAttributeName (h : Html.Tag.isAttributeName name = true) :
    ∃ c cs, name.toList = c :: cs ∧ c.isAlpha = true ∧ ∀ d ∈ name.toList, isNameChar d = true := by
  rw [Html.Tag.isAttributeName, Bool.and_eq_true, List.all_eq_true] at h
  obtain ⟨c, hhead, hc⟩ := (Option.any_eq_true _ _).1 h.1
  obtain ⟨cs, hcs⟩ := List.head?_eq_some_iff.1 hhead
  exact ⟨c, cs, hcs, hc, h.2⟩

/-- An attribute with an empty value is dropped, unless its empty value means something. -/
theorem emptyAttribute_attributeText (h : Html.Tag.isAttributeName name = true)
    (rest : List Char) : emptyAttribute ((attributeText name "").toList ++ rest) =
      some (if meaningfulWhenEmpty.contains name then (attributeText name "").toList else [],
        rest) := by
  obtain ⟨c, cs, hname, hc, hall⟩ := exists_of_isAttributeName h
  rw [hname, List.forall_mem_cons] at hall
  have hend : isNameChar '=' = false := by decide
  have htake : (cs ++ '=' :: '"' :: '"' :: rest).takeWhile isNameChar = cs := by
    rw [List.takeWhile_append_of_pos hall.2, List.takeWhile_cons_of_neg (Bool.eq_false_iff.1 hend),
      List.append_nil]
  have hdrop : (cs ++ '=' :: '"' :: '"' :: rest).dropWhile isNameChar =
      '=' :: '"' :: '"' :: rest := by
    rw [List.dropWhile_append_of_pos hall.2, List.dropWhile_cons_of_neg (Bool.eq_false_iff.1 hend)]
  have hvalue : Text.after? emptyValue ('=' :: '"' :: '"' :: rest) = some rest := rfl
  have htext : (attributeText name "").toList = ' ' :: c :: (cs ++ emptyValue) := by
    rw [Html.toList_attributeText, hname]
    rfl
  have hstart : (Text.isBlank ' ' && c.isAlpha) = true := by
    rw [hc]
    rfl
  rw [htext, List.cons_append, List.cons_append, List.append_assoc]
  change emptyAttribute (' ' :: c :: (cs ++ '=' :: '"' :: '"' :: rest)) = _
  rw [emptyAttribute, if_pos hstart]
  simp only [htake, hdrop, hvalue, ← hname, String.ofList_toList, Option.map_some]
  rw [hname]
  rfl

/-- An attribute with a value stays. -/
theorem substitute_emptyAttribute_attributeText (hname : Html.Tag.isAttributeName name = true)
    (hvalue : value ≠ "") (hrest : rest.head? ≠ some '"') :
    substitute emptyAttribute ((attributeText name value).toList ++ rest) =
      (attributeText name value).toList ++ substitute emptyAttribute rest := by
  have hbefore : '"' ∉ ' ' :: (name.toList ++ ['=']) := by
    obtain ⟨-, -, -, -, hall⟩ := exists_of_isAttributeName hname
    have hquote : '"' ∉ name.toList := fun hmem => absurd (hall _ hmem) (by decide)
    simpa using hquote
  have hinner : '"' ∉ (escapeAttribute value).toList := fun hmem =>
    (Html.isInner_of_mem_escapeAttribute hmem).2 rfl
  have hne : (escapeAttribute value).toList ≠ [] :=
    Html.escapeAttribute_ne_nil (String.toList_eq_nil_iff.not.2 hvalue)
  have hafter : ((escapeAttribute value).toList ++ '"' :: rest).head? ≠ some '"' := by
    rw [List.head?_append_of_ne_nil _ hne]
    exact fun hhead => hinner (List.mem_of_mem_head? hhead)
  have htext : (attributeText name value).toList ++ rest = (' ' :: (name.toList ++ ['='])) ++
      '"' :: ((escapeAttribute value).toList ++ '"' :: rest) := by
    rw [Html.toList_attributeText]
    simp
  rw [htext, substitute_emptyAttribute_quote hbefore hafter,
    substitute_emptyAttribute_quote hinner hrest, Html.toList_attributeText]
  simp

/-- Attributes are dropped one by one. -/
theorem substitute_emptyAttribute_flatMap
    (h : ∀ entry ∈ attributes, Html.Tag.isAttributeName entry.1 = true) :
    substitute emptyAttribute
        (attributes.flatMap fun entry => (attributeText entry.1 entry.2).toList) =
      (attributes.filter fun entry =>
        entry.2 != "" || meaningfulWhenEmpty.contains entry.1).flatMap
          fun entry => (attributeText entry.1 entry.2).toList := by
  induction attributes with
  | nil => rw [List.flatMap_nil, substitute, List.filter_nil, List.flatMap_nil]
  | cons entry attributes ih =>
    obtain ⟨name, value⟩ := entry
    rw [List.forall_mem_cons] at h
    rw [List.flatMap_cons]
    by_cases hvalue : value = ""
    · subst hvalue
      have hsome := emptyAttribute_attributeText h.1
        (attributes.flatMap fun entry => (attributeText entry.1 entry.2).toList)
      rw [Html.toList_attributeText, List.cons_append] at hsome ⊢
      rw [substitute_cons_of_some hsome (shortens_emptyAttribute hsome), ih h.2]
      by_cases hkept : meaningfulWhenEmpty.contains name
      · rw [if_pos hkept, List.filter_cons_of_pos (by rw [hkept, Bool.or_true]), List.flatMap_cons,
          Html.toList_attributeText]
      · rw [if_neg hkept, List.filter_cons_of_neg (by simpa using hkept), List.nil_append]
    · have hrest : (attributes.flatMap fun entry =>
          (attributeText entry.1 entry.2).toList).head? ≠ some '"' := by
        cases attributes with
        | nil => decide
        | cons entry attributes =>
          rw [List.flatMap_cons, Html.toList_attributeText, List.cons_append, List.head?_cons]
          decide
      rw [substitute_emptyAttribute_attributeText h.1 hvalue hrest, ih h.2,
        List.filter_cons_of_pos (by simp [hvalue]), List.flatMap_cons]

/-- Empty attributes are dropped from the written form of a tag. -/
theorem dropEmpty_inside {tag : Tag} (h : tag.isProper = true) :
    dropEmpty tag.inside = tag.compact.inside := by
  cases tag with
  | start name attributes =>
    rw [Html.Tag.isProper, Bool.and_eq_true, List.all_eq_true] at h
    obtain ⟨c, cs, hcons, hc, hall⟩ := Html.Tag.exists_of_isTagName h.1
    have hletter : (Tag.inside (.start name attributes)).head?.any Char.isAlpha = true := by
      rw [Html.Tag.inside, hcons]
      exact hc
    have hname : ∀ d ∈ name.toList, ∀ cs, emptyAttribute (d :: cs) = none := fun d hd cs =>
      emptyAttribute_of_not_blank (Text.isBlank_of_isAlphanum (hall d hd))
    rw [dropEmpty, if_pos hletter, Html.Tag.inside, substitute_append_of_none hname,
      substitute_emptyAttribute_flatMap h.2]
    rfl
  | close name => exact if_neg (show ¬Char.isAlpha '/' = true by decide)
  | declaration text => exact if_neg (show ¬Char.isAlpha '!' = true by decide)

end EmptyAttributes

section Passes

variable {m : Markup} {tag : Tag} {name : String}

theorem chars_nil (last : String) : Markup.chars ⟨[], last⟩ = (escapeText last).toList := by
  rw [Markup.chars, List.flatMap_nil, List.nil_append]

/-- Markup is written as a text, a tag and what follows. -/
theorem chars_cons (text : String) (tag : Tag) (tags : List (String × Tag)) (last : String) :
    Markup.chars ⟨(text, tag) :: tags, last⟩ = (escapeText text).toList ++
      '<' :: (tag.inside ++ '>' :: Markup.chars ⟨tags, last⟩) := by
  rw [Markup.chars, Markup.chars, List.flatMap_cons, Markup.tagChars]
  simp

/-- An escaped text holds no brackets. -/
theorem not_mem_escapeText (text : String) :
    '<' ∉ (escapeText text).toList ∧ '>' ∉ (escapeText text).toList :=
  ⟨fun hmem => (Html.isInner_of_mem_escapeText hmem).1 rfl,
    fun hmem => (Html.isInner_of_mem_escapeText hmem).2 rfl⟩

/-- A proper tag is no comment. -/
theorem after?_commentMark_inside (h : tag.isProper = true) :
    Text.after? Html.commentMark tag.inside = none := by
  cases tag with
  | start name attributes =>
    rw [Html.Tag.isProper, Bool.and_eq_true] at h
    obtain ⟨c, cs, hcons, hc, -⟩ := Html.Tag.exists_of_isTagName h.1
    have hne : '!' ≠ c := by
      rintro rfl
      exact absurd hc (by decide)
    rw [Html.Tag.inside, hcons, List.cons_append, Html.commentMark, Text.after?, if_neg hne]
  | close name => rfl
  | declaration text =>
    rw [Html.Tag.isProper, Bool.and_eq_true, Bool.and_eq_true] at h
    exact Option.isNone_iff_eq_none.1 h.2.1

/-- Markup has no comments. -/
theorem isMarkup_chars (h : m.isProper = true) : Html.isMarkup m.chars = true := by
  obtain ⟨tags, last⟩ := m
  induction tags with
  | nil => exact (chars_nil last).symm ▸ Html.isMarkup_of_not_mem (not_mem_escapeText last).1
  | cons entry tags ih =>
    obtain ⟨hfirst, hrest⟩ := Bool.and_eq_true_iff.1 h
    have htag := Html.HasTags.single (Html.Tag.isInner_of_mem_inside hfirst)
      (after?_commentMark_inside hfirst)
    rw [chars_cons, ← List.singleton_append (x := '>'), ← List.append_assoc, ← List.cons_append]
    exact Html.isMarkup_append (Html.isMarkup_of_not_mem (not_mem_escapeText entry.1).1)
      (Html.isMarkup_append htag.isMarkup (ih hrest))

/-- Empty attributes are dropped from the tags of markup. -/
theorem substitute_startTag_chars (h : m.isProper = true) :
    substitute startTag m.chars = (m.map id Tag.compact).chars := by
  have hother (text : String) : ∀ c ∈ (escapeText text).toList, ∀ cs, startTag (c :: cs) = none :=
    fun c hc cs => startTag_of_ne (Html.isInner_of_mem_escapeText hc).1 cs
  obtain ⟨tags, last⟩ := m
  induction tags with
  | nil =>
    rw [Markup.map_nil, chars_nil, id_eq, chars_nil, substitute_eq_self_of_none (hother last)]
  | cons entry tags ih =>
    obtain ⟨hfirst, hrest⟩ := Bool.and_eq_true_iff.1 h
    rw [chars_cons, substitute_append_of_none (hother entry.1),
      substitute_startTag_tag (Html.Tag.isInner_of_mem_inside hfirst), dropEmpty_inside hfirst,
      ih hrest, Markup.map_cons, chars_cons]
    rfl

/-- Blanks between tags start after a closing bracket. -/
theorem betweenTags_of_ne {c : Char} (h : c ≠ '>') (cs : List Char) :
    betweenTags (c :: cs) = none := by
  cases hsome : betweenTags (c :: cs) with
  | none => rfl
  | some result =>
    obtain ⟨-, blanks, -, heq⟩ := betweenTags_eq_some hsome
    exact absurd (List.cons.inj heq).1 h

/-- Between two tags blanks are dropped if there is nothing else. -/
theorem substitute_betweenTags_gap {gap : List Char} (hgap : ∀ c ∈ gap, IsInner c)
    (rest : List Char) : substitute betweenTags ('>' :: (gap ++ '<' :: rest)) = '>' ::
      ((if gap.all Text.isBlank then [] else gap) ++ '<' :: substitute betweenTags rest) := by
  have hinner : ∀ c ∈ gap, ∀ ds, betweenTags (c :: ds) = none := fun c hc ds =>
    betweenTags_of_ne (hgap c hc).2 ds
  have htag : substitute betweenTags ('<' :: rest) = '<' :: substitute betweenTags rest :=
    substitute_cons_of_none (betweenTags_of_ne (by decide) rest)
  cases hsome : betweenTags ('>' :: (gap ++ '<' :: rest)) with
  | some result =>
    obtain ⟨hpiece, blanks, hblanks, heq⟩ := betweenTags_eq_some hsome
    have hopen {cs : List Char} (h : ∀ c ∈ cs, IsInner c) : '<' ∉ cs := fun hmem => (h _ hmem).1 rfl
    have hbreak := Text.breakOn?_append (hopen fun c hc => ne_of_isBlank (hblanks c hc)) result.2
    rw [← (List.cons.inj heq).2, Text.breakOn?_append (hopen hgap)] at hbreak
    obtain ⟨rfl, hrest⟩ := Prod.mk.inj (Option.some.inj hbreak)
    rw [substitute_cons_of_some hsome (shortens_betweenTags hsome), hpiece, ← hrest,
      if_pos (List.all_eq_true.2 hblanks)]
    rfl
  | none =>
    have hkept : (if gap.all Text.isBlank then [] else gap) = gap := by
      cases gap with
      | nil => rfl
      | cons c gap =>
        refine if_neg fun hall => ?_
        rw [List.all_cons, Bool.and_eq_true, List.all_eq_true] at hall
        rw [List.cons_append, betweenTags, if_pos hall.1, List.dropWhile_append_of_pos hall.2,
          List.dropWhile_cons_of_neg (by decide)] at hsome
        cases hsome
    rw [hkept, substitute_cons_of_none hsome, substitute_append_of_none hinner, htag]

/-- A blank text between tags is dropped, and others stay. -/
theorem escapeText_betweenTags (text : String) : (escapeText (Html.betweenTags text)).toList =
    if (escapeText text).toList.all Text.isBlank then [] else (escapeText text).toList := by
  have hall : (escapeText text).toList.all Text.isBlank = text.toList.all Text.isBlank := by
    rw [escapeText, String.toList_ofList, keepsBlanks_escapeTextChar.all_flatMap]
  rw [hall, Html.betweenTags]
  split_ifs <;> rfl

/-- Blanks that lay out tags are dropped behind each tag. -/
theorem substitute_betweenTags_chars (h : m.isProper = true) :
    substitute betweenTags ('>' :: m.chars) =
      '>' :: Markup.chars ⟨m.tags.map (Prod.map Html.betweenTags id), m.last⟩ := by
  have hother {cs : List Char} (hcs : ∀ c ∈ cs, IsInner c) :
      ∀ c ∈ cs, ∀ ds, betweenTags (c :: ds) = none :=
    fun c hc ds => betweenTags_of_ne (hcs c hc).2 ds
  have hescape (text : String) : ∀ c ∈ (escapeText text).toList, IsInner c :=
    fun _ hc => Html.isInner_of_mem_escapeText hc
  obtain ⟨tags, last⟩ := m
  induction tags with
  | nil =>
    have hnone : betweenTags ('>' :: (escapeText last).toList) = none := by
      cases hsome : betweenTags ('>' :: (escapeText last).toList) with
      | none => rfl
      | some result =>
        obtain ⟨-, blanks, -, heq⟩ := betweenTags_eq_some hsome
        have hopen : '<' ∈ (escapeText last).toList :=
          (List.cons.inj heq).2 ▸ List.mem_append_right _ List.mem_cons_self
        exact absurd rfl (hescape last _ hopen).1
    rw [chars_nil, substitute_cons_of_none hnone,
      substitute_eq_self_of_none (hother (hescape last)), List.map_nil, chars_nil]
  | cons entry tags ih =>
    obtain ⟨hfirst, hrest⟩ := Bool.and_eq_true_iff.1 h
    rw [chars_cons, substitute_betweenTags_gap (hescape entry.1),
      substitute_append_of_none (hother (Html.Tag.isInner_of_mem_inside hfirst)), ih hrest,
      List.map_cons, Prod.map, chars_cons, escapeText_betweenTags]
    rfl

/-- The same of markup that begins with a tag. -/
theorem substitute_betweenTags_document {tags : List (String × Tag)} {last : String}
    (h : Markup.isProper ⟨("", tag) :: tags, last⟩ = true) :
    substitute betweenTags (Markup.chars ⟨("", tag) :: tags, last⟩) =
      Markup.chars ⟨("", tag) :: tags.map (Prod.map Html.betweenTags id), last⟩ := by
  obtain ⟨htag, htags⟩ := Bool.and_eq_true_iff.1 h
  have hinside : ∀ c ∈ tag.inside, ∀ ds, betweenTags (c :: ds) = none := fun c hc ds =>
    betweenTags_of_ne (Html.Tag.isInner_of_mem_inside htag c hc).2 ds
  have hrest := substitute_betweenTags_chars (m := ⟨tags, last⟩) htags
  rw [chars_cons, chars_cons]
  change substitute betweenTags ('<' :: _) = '<' :: _
  rw [substitute_cons_of_none (betweenTags_of_ne (by decide) _),
    substitute_append_of_none hinside, hrest]

/-- Runs of blanks in an attribute are in its value. -/
theorem substitute_blankRun_attributeText (h : Html.Tag.isAttributeName name = true)
    (value : String) (rest : List Char) :
    substitute blankRun ((attributeText name value).toList ++ rest) =
      (attributeText name (squeezed value)).toList ++ substitute blankRun rest := by
  obtain ⟨c, cs, hcons, hc, hall⟩ := exists_of_isAttributeName h
  have hname : ∀ d ∈ name.toList, Text.isBlank d = false := by
    intro d hd
    have hchar := hall d hd
    rw [isNameChar, Bool.or_eq_true, beq_iff_eq] at hchar
    rcases hchar with halphanum | rfl
    · exact Text.isBlank_of_isAlphanum halphanum
    · decide
  have hnone : ∀ d ∈ name.toList, ∀ ds, blankRun (d :: ds) = none := fun d hd ds =>
    if_neg (Bool.eq_false_iff.1 (hname d hd))
  have hkept (ds : List Char) :
      (name.toList ++ ds).dropWhile Text.isBlank = name.toList ++ ds := by
    refine Text.dropWhile_eq_self fun d hd => hname d ?_
    rw [hcons] at hd ⊢
    exact Option.some.inj hd ▸ List.mem_cons_self
  have htext (value : String) (rest : List Char) : (attributeText name value).toList ++ rest =
      ' ' :: (name.toList ++ '=' :: '"' :: ((escapeAttribute value).toList ++ '"' :: rest)) := by
    rw [Html.toList_attributeText]
    simp
  rw [htext, htext, substitute_blankRun_of_blank (by decide), hkept,
    substitute_append_of_none hnone, substitute_blankRun_of_not_blank (by decide),
    substitute_blankRun_of_not_blank (by decide), substitute_blankRun_append (by decide),
    substitute_blankRun_escapeAttribute]

/-- Runs of blanks in a tag are in its values. -/
theorem substitute_blankRun_inside (h : tag.isProper = true) :
    substitute blankRun tag.inside = (tag.mapValues squeezed).inside := by
  have hnone {name : String} (hname : Html.Tag.isTagName name = true) :
      ∀ d ∈ name.toList, ∀ ds, blankRun (d :: ds) = none := by
    obtain ⟨-, -, -, -, hall⟩ := Html.Tag.exists_of_isTagName hname
    exact fun d hd ds => if_neg (Bool.eq_false_iff.1 (Text.isBlank_of_isAlphanum (hall d hd)))
  cases tag with
  | start name attributes =>
    rw [Html.Tag.isProper, Bool.and_eq_true, List.all_eq_true] at h
    rw [Html.Tag.inside, substitute_append_of_none (hnone h.1), Html.Tag.mapValues,
      Html.Tag.inside]
    refine congrArg (name.toList ++ ·) ?_
    induction attributes with
    | nil => rw [List.map_nil, List.flatMap_nil, substitute_nil]
    | cons entry attributes ih =>
      obtain ⟨hname, hattributes⟩ := List.forall_mem_cons.1 h.2
      rw [List.flatMap_cons, substitute_blankRun_attributeText hname, ih ⟨h.1, hattributes⟩,
        List.map_cons, List.flatMap_cons]
  | close name =>
    rw [Html.Tag.inside, substitute_blankRun_of_not_blank (by decide),
      substitute_eq_self_of_none (hnone h), Html.Tag.mapValues, Html.Tag.inside]
  | declaration text =>
    rw [Html.Tag.isProper, Bool.and_eq_true, Bool.and_eq_true, beq_iff_eq] at h
    have htext : substitute blankRun text.toList = text.toList := by
      conv_rhs => rw [← h.2.2, squeezed, String.toList_ofList]
    rw [Html.Tag.inside, substitute_blankRun_of_not_blank (by decide), htext,
      Html.Tag.mapValues, Html.Tag.inside]

/-- Runs of blanks in markup are in its texts and values. -/
theorem substitute_blankRun_chars (h : m.isProper = true) :
    substitute blankRun m.chars = (m.map squeezed (Tag.mapValues squeezed)).chars := by
  obtain ⟨tags, last⟩ := m
  induction tags with
  | nil =>
    rw [Markup.map_nil, chars_nil, chars_nil, substitute_blankRun_escapeText]
  | cons entry tags ih =>
    obtain ⟨hfirst, hrest⟩ := Bool.and_eq_true_iff.1 h
    rw [chars_cons, substitute_blankRun_append (by decide), substitute_blankRun_escapeText,
      substitute_blankRun_append (by decide), substitute_blankRun_inside hfirst, ih hrest]
    rw [Markup.map_cons, chars_cons]
    rfl

/-- Blanks behind the last tag are cut off. -/
theorem trim_chars {tags : List (String × Tag)} {last : String}
    (hlast : last.toList.all Text.isBlank = true) :
    Text.trim (Markup.chars ⟨("", tag) :: tags, last⟩) =
      Markup.chars ⟨("", tag) :: tags, ""⟩ := by
  have hblanks : ∀ c ∈ (escapeText last).toList.reverse, Text.isBlank c = true := by
    rw [← keepsBlanks_escapeTextChar.all_flatMap, List.all_eq_true] at hlast
    intro c hc
    rw [List.mem_reverse, escapeText, String.toList_ofList] at hc
    exact hlast c hc
  have hend : ∃ cs, Markup.chars ⟨("", tag) :: tags, ""⟩ = cs ++ ['>'] := by
    obtain h | ⟨init, entry, h⟩ := List.eq_nil_or_concat (("", tag) :: tags)
    · cases h
    · refine ⟨init.flatMap Markup.tagChars ++
        ((escapeText entry.1).toList ++ '<' :: entry.2.inside), ?_⟩
      rw [h, Markup.chars, List.concat_eq_append, List.flatMap_append, List.flatMap_singleton,
        Markup.tagChars]
      simp [escapeText]
  obtain ⟨cs, hcs⟩ := hend
  have hchars : Markup.chars ⟨("", tag) :: tags, last⟩ = cs ++ '>' :: (escapeText last).toList := by
    rw [List.append_cons, ← hcs, Markup.chars, Markup.chars]
    simp [escapeText]
  have hstart : Markup.chars ⟨("", tag) :: tags, last⟩ = '<' :: (tag.inside ++ '>' ::
      Markup.chars ⟨tags, last⟩) := chars_cons "" tag tags last
  rw [Text.trim, hstart, List.dropWhile_cons_of_neg (by decide), ← hstart, hchars, hcs,
    Text.trimRight, List.reverse_append, List.reverse_cons, List.append_assoc,
    List.dropWhile_append_of_pos hblanks, List.singleton_append,
    List.dropWhile_cons_of_neg (by decide)]
  simp

end Passes

@[simp] theorem squeezed_empty : squeezed "" = "" := by
  rw [squeezed, String.toList_empty, substitute, String.ofList_nil]

/-- What minifying makes of the written form of markup that begins with a tag and has only blanks
after its last one. -/
theorem toList_html {m : Markup} (h : m.isProper = true)
    (hfirst : m.tags.head?.any (·.1 == "") = true)
    (hlast : m.last.toList.all Text.isBlank = true) :
    (html (String.ofList m.chars)).toList = (m.compact.mapValues squeezed).chars := by
  obtain ⟨_ | ⟨⟨text, tag⟩, tags⟩, last⟩ := m
  · cases hfirst
  obtain rfl : text = "" := beq_iff_eq.1 hfirst
  have hshort : Markup.isProper ⟨("", tag.compact) :: tags.map (Prod.map id Tag.compact), last⟩ =
      true := Html.Markup.isProper_map (f := id) (fun _ => Html.Tag.isProper_compact) h
  have hjoined : Markup.isProper
      ⟨("", tag.compact) :: tags.map (Prod.map Html.betweenTags Tag.compact), last⟩ = true :=
    Html.Markup.isProper_map (f := Html.betweenTags) (fun _ => Html.Tag.isProper_compact) h
  have hsqueezed : (squeezed last).toList.all Text.isBlank = true := by
    rw [List.all_eq_true] at hlast ⊢
    intro c hc
    rw [squeezed, String.toList_ofList] at hc
    by_cases hspace : c = ' '
    · rw [hspace]
      rfl
    · exact hlast c (mem_of_mem_substitute_blankRun hc hspace)
  have hbetween := substitute_betweenTags_document hshort
  rw [List.map_map, Prod.map_comp_map, Function.comp_id, Function.id_comp] at hbetween
  have hend : compactText last = "" := by
    rw [compactText, Html.betweenTags, if_pos hlast, squeezed_empty]
  have hstart : compactText "" = "" := by
    rw [compactText, Html.betweenTags, ite_self, squeezed_empty]
  rw [html, String.toList_ofList, String.toList_ofList,
    substitute_comment_eq_self (isMarkup_chars h), substitute_startTag_chars h, Markup.map_cons,
    id_eq, id_eq, hbetween, substitute_blankRun_chars hjoined, Markup.map_cons, squeezed_empty,
    trim_chars hsqueezed, List.map_map, Prod.map_comp_map, Markup.mapValues, Markup.compact,
    Markup.map_cons, Markup.map_cons, hend, hstart, List.map_map, Prod.map_comp_map]
  rfl

end Minify

end Sitework
