import Sitework.Proofs.Markup.Links

/-!
# Reading HTML

A plain reader of HTML. Text runs to the next `<`, a tag to the next `>`, and the value of an
attribute to the next quote; entities stand for the characters that they name. What is written of
markup, with its texts and values escaped, is read as that markup.
-/

namespace Sitework.Html

/-- What stands between the brackets of a tag. -/
inductive Tag where
  /-- The start of an element, with its attributes in order. -/
  | start (name : String) (attributes : List (String × String))
  /-- The end of an element. -/
  | close (name : String)
  /-- A declaration, such as that of the kind of document. -/
  | declaration (text : String)
deriving DecidableEq, Repr

/-- A text as markup. -/
structure Markup where
  /-- The tags in order, each with the text before it. -/
  tags : List (String × Tag)
  /-- The text after the last tag. -/
  last : String
deriving DecidableEq, Repr

/-- The characters that entities stand for, with what follows the ampersand. -/
def entities : List (List Char × Char) :=
  [("amp;".toList, '&'), ("lt;".toList, '<'), ("gt;".toList, '>'), ("quot;".toList, '"')]

/-- Writes the character that an entity stands for. -/
def entity : Minify.Rule
  | '&' :: cs => entities.findSome? fun (name, c) => (Text.after? name cs).map ([c], ·)
  | _ => none

/-- The text that some characters of HTML stand for. -/
def decoded (cs : List Char) : String :=
  String.ofList (Minify.substitute entity cs)

/-- An attribute, and what follows it: a space, a name, an equals sign and a value in quotes. -/
def attribute? (cs : List Char) : Option ((String × String) × List Char) := do
  let (name, rest) ← Text.breakOn? '=' (← Text.after? [' '] cs)
  let (value, rest) ← Text.breakOn? '"' (← Text.after? ['"'] rest)
  return ((String.ofList name, decoded value), rest)

/-- The attributes that some characters consist of. -/
def attributes? (cs : List Char) : Option (List (String × String)) :=
  if cs = [] then some []
  else
    match attribute? cs with
    | none => none
    | some (first, rest) =>
      if _h : rest.length < cs.length then (attributes? rest).map (first :: ·) else none
termination_by cs.length

/-- The tag that some characters between brackets make. -/
def Tag.read? : List Char → Option Tag
  | '!' :: text => some (.declaration (String.ofList text))
  | '/' :: name => some (.close (String.ofList name))
  | cs =>
    let name := cs.takeWhile Char.isAlphanum
    if name = [] then none
    else (attributes? (cs.dropWhile Char.isAlphanum)).map (.start (String.ofList name))

/-- The next tag with the text before it, and what follows it. -/
def nextTag? (cs : List Char) : Option ((String × Tag) × List Char) := do
  let (text, rest) ← Text.breakOn? '<' cs
  let (inside, rest) ← Text.breakOn? '>' rest
  return ((decoded text, ← Tag.read? inside), rest)

/-- Reads characters as markup. -/
def markup? (cs : List Char) : Option Markup :=
  if '<' ∈ cs then
    match nextTag? cs with
    | none => none
    | some (tag, rest) =>
      if _h : rest.length < cs.length then (markup? rest).map fun m => ⟨tag :: m.tags, m.last⟩
      else none
  else some ⟨[], decoded cs⟩
termination_by cs.length

/-- Reads a text as markup. -/
def read? (text : String) : Option Markup :=
  markup? text.toList

namespace Tag

/-- What is written between the brackets of a tag. -/
def inside : Tag → List Char
  | .start name attributes =>
    name.toList ++ attributes.flatMap fun entry => (attributeText entry.1 entry.2).toList
  | .close name => '/' :: name.toList
  | .declaration text => '!' :: text.toList

/-- A name of a tag: a letter, and then letters and digits. -/
def isTagName (name : String) : Bool :=
  name.toList.head?.any Char.isAlpha && name.toList.all Char.isAlphanum

/-- A name of an attribute: a letter, and then letters, digits and dashes. -/
def isAttributeName (name : String) : Bool :=
  name.toList.head?.any Char.isAlpha && name.toList.all Minify.isNameChar

/-- Whether a tag has names that can be read, is no comment, and has single spaces only between the
words of a declaration. -/
def isProper : Tag → Bool
  | .start name attributes => isTagName name && attributes.all fun entry => isAttributeName entry.1
  | .close name => isTagName name
  | .declaration text =>
    text.toList.all (IsInner ·) &&
      ((Text.after? commentMark ('!' :: text.toList)).isNone && Minify.squeezed text == text)

end Tag

namespace Markup

/-- What comes after some markup is put behind its last text. -/
instance : Append Markup where
  append m n :=
    match n.tags with
    | [] => ⟨m.tags, m.last ++ n.last⟩
    | (text, tag) :: rest => ⟨m.tags ++ (m.last ++ text, tag) :: rest, n.last⟩

/-- The written form of a tag with the text before it. -/
def tagChars (entry : String × Tag) : List Char :=
  (escapeText entry.1).toList ++ '<' :: (entry.2.inside ++ ['>'])

/-- The written form of markup. -/
def chars (m : Markup) : List Char :=
  m.tags.flatMap tagChars ++ (escapeText m.last).toList

/-- Whether all tags are proper. -/
def isProper (m : Markup) : Bool :=
  m.tags.all fun entry => entry.2.isProper

end Markup

section Entities

variable {c : Char}

/-- An entity begins with an ampersand. -/
theorem entity_of_ne (h : c ≠ '&') (cs : List Char) : entity (c :: cs) = none := by
  rw [entity]
  rintro rest ⟨⟩
  exact h rfl

/-- A character that is written as an entity is read as itself. -/
theorem substitute_entity_append (name : List Char) (h : (name, c) ∈ entities) (cs : List Char) :
    Minify.substitute entity ('&' :: (name ++ cs)) = c :: Minify.substitute entity cs := by
  have hrule : entity ('&' :: (name ++ cs)) = some ([c], cs) := by
    simp only [entities, List.mem_cons, Prod.mk.injEq, List.not_mem_nil, or_false] at h
    rcases h with ⟨rfl, rfl⟩ | ⟨rfl, rfl⟩ | ⟨rfl, rfl⟩ | ⟨rfl, rfl⟩ <;> rfl
  rw [Minify.substitute_cons_of_some hrule, List.singleton_append]
  rw [List.length_cons, List.length_append]
  omega

/-- The entity of a character in a text is read as the character. -/
theorem substitute_entity_escapeTextChar (c : Char) (cs : List Char) :
    Minify.substitute entity (escapeTextChar c ++ cs) = c :: Minify.substitute entity cs := by
  rw [escapeTextChar]
  split_ifs with hamp hopen hclose
  · exact hamp ▸ substitute_entity_append "amp;".toList (by decide) cs
  · exact hopen ▸ substitute_entity_append "lt;".toList (by decide) cs
  · exact hclose ▸ substitute_entity_append "gt;".toList (by decide) cs
  · exact Minify.substitute_cons_of_none (entity_of_ne hamp cs)

/-- So is the entity of a character in a value. -/
theorem substitute_entity_escapeAttributeChar (c : Char) (cs : List Char) :
    Minify.substitute entity (escapeAttributeChar c ++ cs) =
      c :: Minify.substitute entity cs := by
  rw [escapeAttributeChar]
  split_ifs with hquote
  · exact hquote ▸ substitute_entity_append "quot;".toList (by decide) cs
  · exact substitute_entity_escapeTextChar c cs

theorem substitute_entity_nil : Minify.substitute entity [] = [] := by
  rw [Minify.substitute]

/-- Escaped text is read as that text. -/
@[simp] theorem decoded_escapeText (text : String) : decoded (escapeText text).toList = text := by
  rw [decoded, escapeText, String.toList_ofList]
  refine (congrArg String.ofList ?_).trans String.ofList_toList
  induction text.toList with
  | nil => exact substitute_entity_nil
  | cons c cs ih => rw [List.flatMap_cons, substitute_entity_escapeTextChar, ih]

/-- An escaped value is read as that value. -/
@[simp] theorem decoded_escapeAttribute (value : String) :
    decoded (escapeAttribute value).toList = value := by
  rw [decoded, escapeAttribute, String.toList_ofList]
  refine (congrArg String.ofList ?_).trans String.ofList_toList
  induction value.toList with
  | nil => exact substitute_entity_nil
  | cons c cs ih => rw [List.flatMap_cons, substitute_entity_escapeAttributeChar, ih]

end Entities

section Tags

variable {name value : String}

/-- An attribute is written after a blank, its value in quotes. -/
theorem toList_attributeText (name value : String) : (attributeText name value).toList =
    ' ' :: (name.toList ++ '=' :: '"' :: ((escapeAttribute value).toList ++ ['"'])) := by
  simp only [attributeText, String.toList_append, List.append_assoc]
  rfl

/-- A written attribute is read back, up to what follows it. -/
theorem attribute?_append (hname : '=' ∉ name.toList) (value : String) (rest : List Char) :
    attribute? ((attributeText name value).toList ++ rest) = some ((name, value), rest) := by
  have hvalue : '"' ∉ (escapeAttribute value).toList := fun hmem =>
    (isInner_of_mem_escapeAttribute hmem).2 rfl
  have hblank (cs : List Char) : Text.after? [' '] (' ' :: cs) = some cs := rfl
  have hquote (cs : List Char) : Text.after? ['"'] ('"' :: cs) = some cs := rfl
  rw [toList_attributeText, List.cons_append, List.append_assoc, List.cons_append,
    List.cons_append, List.append_assoc, List.singleton_append, attribute?]
  simp only [bind, Option.bind, hblank, Text.breakOn?_append hname, hquote,
    Text.breakOn?_append hvalue, String.ofList_toList, decoded_escapeAttribute]
  rfl

/-- The name of an attribute holds no equals sign. -/
theorem not_mem_of_isAttributeName (h : Tag.isAttributeName name = true) : '=' ∉ name.toList := by
  intro hmem
  rw [Tag.isAttributeName, Bool.and_eq_true, List.all_eq_true] at h
  exact absurd (h.2 _ hmem) (by decide)

/-- Attributes with names are read one after the other. -/
theorem attributes?_flatMap {attributes : List (String × String)}
    (h : ∀ entry ∈ attributes, Tag.isAttributeName entry.1 = true) :
    attributes? (attributes.flatMap fun entry => (attributeText entry.1 entry.2).toList) =
      some attributes := by
  induction attributes with
  | nil => rw [List.flatMap_nil, attributes?, if_pos rfl]
  | cons entry attributes ih =>
    rw [List.forall_mem_cons] at h
    have hfirst := attribute?_append (not_mem_of_isAttributeName h.1) entry.2
      (attributes.flatMap fun entry => (attributeText entry.1 entry.2).toList)
    have hne : (attributeText entry.1 entry.2).toList ≠ [] := by
      rw [toList_attributeText]
      exact List.cons_ne_nil _ _
    rw [List.flatMap_cons, attributes?, if_neg (List.append_ne_nil_of_left_ne_nil hne _), hfirst]
    have hshorter : (attributes.flatMap fun entry => (attributeText entry.1 entry.2).toList).length
        < ((attributeText entry.1 entry.2).toList ++
          attributes.flatMap fun entry => (attributeText entry.1 entry.2).toList).length := by
      rw [List.length_append]
      exact Nat.lt_add_of_pos_left (List.length_pos_of_ne_nil hne)
    simp only [dif_pos hshorter, ih h.2, Option.map_some]

namespace Tag

/-- The name of a tag starts with a letter and goes on with letters and digits. -/
theorem exists_of_isTagName (h : isTagName name = true) : ∃ c cs, name.toList = c :: cs ∧
    c.isAlpha = true ∧ ∀ d ∈ name.toList, d.isAlphanum = true := by
  rw [isTagName, Bool.and_eq_true, List.all_eq_true] at h
  obtain ⟨c, hhead, hc⟩ := (Option.any_eq_true _ _).1 h.1
  obtain ⟨cs, hcs⟩ := List.head?_eq_some_iff.1 hhead
  exact ⟨c, cs, hcs, hc, h.2⟩

/-- The name of a tag ends where its attributes begin. -/
theorem takeWhile_isAlphanum (h : ∀ d ∈ name.toList, d.isAlphanum = true)
    (attributes : List (String × String)) :
    (inside (.start name attributes)).takeWhile Char.isAlphanum = name.toList ∧
      (inside (.start name attributes)).dropWhile Char.isAlphanum =
        attributes.flatMap fun entry => (attributeText entry.1 entry.2).toList := by
  have hrest : ∀ rest : List Char, rest.head?.all (!Char.isAlphanum ·) = true →
      (name.toList ++ rest).takeWhile Char.isAlphanum = name.toList ∧
        (name.toList ++ rest).dropWhile Char.isAlphanum = rest := by
    intro rest hrest
    rw [List.takeWhile_append_of_pos h, List.dropWhile_append_of_pos h]
    cases rest with
    | nil => exact ⟨List.append_nil _, rfl⟩
    | cons c rest =>
      have hc : ¬c.isAlphanum = true := by simpa using hrest
      rw [List.takeWhile_cons_of_neg hc, List.dropWhile_cons_of_neg hc]
      exact ⟨List.append_nil _, rfl⟩
  refine hrest _ ?_
  cases attributes with
  | nil => rfl
  | cons entry attributes => rw [List.flatMap_cons, toList_attributeText]; rfl

/-- A proper tag is read from what is written of it. -/
theorem read?_inside {tag : Tag} (h : tag.isProper = true) : read? tag.inside = some tag := by
  cases tag with
  | start name attributes =>
    rw [isProper, Bool.and_eq_true, List.all_eq_true] at h
    obtain ⟨c, cs, hcons, hc, hall⟩ := exists_of_isTagName h.1
    obtain ⟨hname, hrest⟩ := takeWhile_isAlphanum hall attributes
    have hne : name.toList ≠ [] := hcons ▸ List.cons_ne_nil c cs
    have hread := attributes?_flatMap h.2
    rw [← hrest] at hread
    have hfirst : inside (.start name attributes) = c :: (cs ++
        attributes.flatMap fun entry => (attributeText entry.1 entry.2).toList) := by
      rw [inside, hcons, List.cons_append]
    have hother (d : Char) (hd : d.isAlpha = false) : c ≠ d := by
      rintro rfl
      rw [hd] at hc
      cases hc
    rw [hfirst] at hname hread ⊢
    rw [read?, hname, if_neg hne, hread, Option.map_some, String.ofList_toList]
    · rintro rest ⟨⟩
      exact hother _ (by decide) rfl
    · rintro rest ⟨⟩
      exact hother _ (by decide) rfl
  | close name => rw [inside, read?, String.ofList_toList]
  | declaration text => rw [inside, read?, String.ofList_toList]

/-- Brackets are no part of a proper tag. -/
theorem isInner_of_mem_inside {tag : Tag} (h : tag.isProper = true) :
    ∀ c ∈ tag.inside, IsInner c := by
  have hnamed {name : String} (h : isTagName name = true) : ∀ c ∈ name.toList, IsInner c := by
    obtain ⟨-, -, -, -, hall⟩ := exists_of_isTagName h
    exact fun c hc => isInner_of_isAlphanum (hall c hc)
  cases tag with
  | start name attributes =>
    rw [isProper, Bool.and_eq_true, List.all_eq_true] at h
    refine List.forall_mem_append.2 ⟨hnamed h.1, fun c hc => ?_⟩
    obtain ⟨entry, hentry, hc⟩ := List.mem_flatMap.1 hc
    obtain ⟨-, hattribute⟩ := Bool.and_eq_true_iff.1 (h.2 entry hentry)
    refine isInner_of_mem_attributeText (fun d hd => ?_) c hc
    have hchar := List.all_eq_true.1 hattribute d hd
    constructor <;> rintro rfl <;> exact absurd hchar (by decide)
  | close name => exact List.forall_mem_cons.2 ⟨by decide, hnamed h⟩
  | declaration text =>
    rw [isProper, Bool.and_eq_true, List.all_eq_true] at h
    exact List.forall_mem_cons.2 ⟨by decide, fun c hc => of_decide_eq_true (h.1 c hc)⟩

end Tag

end Tags

section Markup

namespace Markup

variable {m n : Markup}

/-- Markup is read tag by tag. -/
theorem nextTag?_tagChars {entry : String × Tag} (h : entry.2.isProper = true)
    (rest : List Char) : nextTag? (tagChars entry ++ rest) = some (entry, rest) := by
  have hopen : '<' ∉ (escapeText entry.1).toList := fun hmem =>
    (isInner_of_mem_escapeText hmem).1 rfl
  have hclose : '>' ∉ entry.2.inside := fun hmem => (Tag.isInner_of_mem_inside h _ hmem).2 rfl
  rw [tagChars, List.append_assoc, List.cons_append, List.append_assoc, List.singleton_append,
    nextTag?]
  simp only [bind, Option.bind, Text.breakOn?_append hopen, Text.breakOn?_append hclose,
    Tag.read?_inside h, decoded_escapeText]
  rfl

/-- What is written of proper markup is read as that markup. -/
theorem markup?_chars (h : m.isProper = true) : markup? m.chars = some m := by
  obtain ⟨tags, last⟩ := m
  have hlast : '<' ∉ (escapeText last).toList := fun hmem =>
    (isInner_of_mem_escapeText hmem).1 rfl
  induction tags with
  | nil => rw [chars, List.flatMap_nil, List.nil_append, markup?, if_neg hlast, decoded_escapeText]
  | cons entry tags ih =>
    obtain ⟨hfirst, hrest⟩ := Bool.and_eq_true_iff.1 h
    have hchars : chars ⟨entry :: tags, last⟩ = tagChars entry ++ chars ⟨tags, last⟩ := by
      rw [chars, chars, List.flatMap_cons, List.append_assoc]
    have hmem : '<' ∈ tagChars entry := List.mem_append_right _ List.mem_cons_self
    have hshorter : (chars ⟨tags, last⟩).length <
        (tagChars entry ++ chars ⟨tags, last⟩).length := by
      rw [List.length_append]
      exact Nat.lt_add_of_pos_left (List.length_pos_of_mem hmem)
    rw [hchars, markup?, if_pos (List.mem_append_left _ hmem), nextTag?_tagChars hfirst]
    simp only [dif_pos hshorter, ih hrest, Option.map_some]

/-- Markup is joined by putting the last text before the first text of what follows. -/
theorem append_def (m n : Markup) : m ++ n = match n.tags with
    | [] => ⟨m.tags, m.last ++ n.last⟩
    | (text, tag) :: rest => ⟨m.tags ++ (m.last ++ text, tag) :: rest, n.last⟩ :=
  rfl

/-- The tags of joined markup are those of its first part before those of its last text with the
second part. -/
theorem tags_append (m n : Markup) : (m ++ n).tags = m.tags ++ (Markup.mk [] m.last ++ n).tags := by
  rw [append_def, append_def]
  cases n.tags with
  | nil => exact (List.append_nil _).symm
  | cons entry rest => rfl

theorem last_append (m n : Markup) : (m ++ n).last = (Markup.mk [] m.last ++ n).last := by
  rw [append_def, append_def]
  cases n.tags <;> rfl

/-- Markup in three parts may be joined from either end. -/
theorem append_assoc (l m n : Markup) : l ++ m ++ n = l ++ (m ++ n) := by
  obtain ⟨tags, last⟩ := n
  obtain ⟨tags', last'⟩ := m
  cases tags <;> cases tags' <;> simp [append_def, String.append_assoc]

/-- Joining leaves the first tag with the text before it. -/
theorem head?_tags_append {entry : String × Tag} (h : m.tags.head? = some entry) (n : Markup) :
    (m ++ n).tags.head? = some entry := by
  rw [tags_append, List.head?_append, h, Option.some_or]

/-- What is written of markup followed by other markup is what is written of both. -/
theorem chars_append (m n : Markup) : (m ++ n).chars = m.chars ++ n.chars := by
  have hescape (a b : String) :
      (escapeText (a ++ b)).toList = (escapeText a).toList ++ (escapeText b).toList := by
    simp only [escapeText, String.toList_ofList, String.toList_append, List.flatMap_append]
  obtain ⟨tags, last⟩ := n
  cases tags with
  | nil => simp only [append_def, chars, hescape, List.flatMap_nil, List.nil_append,
      List.append_assoc]
  | cons entry rest =>
    simp only [append_def, chars, List.flatMap_append, List.flatMap_cons, tagChars, hescape,
      List.append_assoc]

/-- Joined markup is proper exactly if both parts are. -/
theorem isProper_append : (m ++ n).isProper = (m.isProper && n.isProper) := by
  obtain ⟨tags, last⟩ := n
  cases tags with
  | nil => simp [append_def, isProper]
  | cons entry rest => simp [append_def, isProper]

end Markup

end Markup

end Sitework.Html
