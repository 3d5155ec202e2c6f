import Sitework.Proofs.Text.Split

/-!
# Tags of a text

A text is read as HTML: a tag is what stands between `<` and the next `>`. Where every `<` begins a
tag, the tags of a text are those of its parts, one part after the other. Of the tags that link
something, those of stylesheets are told by their attributes.
-/

namespace Sitework.Html

/-- The rest of a tag that has begun: what comes before the next `>`. It is no tag if another `<`
comes first, or if nothing ends it. -/
def tagAt? : List Char → Option (List Char)
  | [] => none
  | c :: cs =>
    if c = '>' then some []
    else if c = '<' then none
    else (tagAt? cs).map (c :: ·)

/-- The tags of a text in order, without their brackets. -/
def tags : List Char → List (List Char)
  | [] => []
  | c :: cs => if c = '<' then (tagAt? cs).toList ++ tags cs else tags cs

/-- What follows `<` in a comment. -/
def commentMark : List Char := ['!', '-', '-']

/-- Whether every `<` begins a tag and none begins a comment. -/
def isMarkup : List Char → Bool
  | [] => true
  | c :: cs =>
    (c != '<' || (tagAt? cs).any fun tag => (Text.after? commentMark tag).isNone) && isMarkup cs

/-- The value of an attribute of a tag, as it is written. -/
def attributeOf? (name : List Char) : List Char → Option (List Char)
  | [] => none
  | c :: cs =>
    ((Text.after? (' ' :: name ++ ['=', '"']) (c :: cs)).map (·.takeWhile (· != '"'))).or
      (attributeOf? name cs)

/-- The location of the stylesheet that a tag links, as it is written. -/
def linkedStylesheet? (tag : List Char) : Option String :=
  if tag.takeWhile Char.isAlphanum = "link".toList ∧
      attributeOf? "rel".toList tag = some "stylesheet".toList then
    (attributeOf? "href".toList tag).map String.ofList
  else none

/-- The locations of the stylesheets that a text links, in order and as they are written. -/
def linkedStylesheets (text : String) : List String :=
  (tags text.toList).filterMap linkedStylesheet?

/-- A character between the brackets of a tag. -/
def IsInner (c : Char) : Prop := c ≠ '<' ∧ c ≠ '>'

instance : DecidablePred IsInner := fun c =>
  inferInstanceAs (Decidable (c ≠ '<' ∧ c ≠ '>'))

section Tags

variable {a b cs tag : List Char}

/-- What ends a tag comes before anything else that follows. -/
theorem tagAt?_append (h : tagAt? a = some tag) (b : List Char) : tagAt? (a ++ b) = some tag := by
  induction a generalizing tag with
  | nil => cases h
  | cons c cs ih =>
    rw [tagAt?] at h
    rw [List.cons_append, tagAt?]
    split at h
    · next hclose => rw [if_pos hclose, h]
    · next hclose =>
      split at h
      · cases h
      · next hopen =>
        obtain ⟨rest, hrest, rfl⟩ := Option.map_eq_some_iff.1 h
        rw [if_neg hclose, if_neg hopen, ih hrest, Option.map_some]

/-- Up to the bracket, a tag is cut off whole. -/
theorem tagAt?_inner (h : ∀ c ∈ tag, IsInner c) (rest : List Char) :
    tagAt? (tag ++ '>' :: rest) = some tag := by
  induction tag with
  | nil => rw [List.nil_append, tagAt?, if_pos rfl]
  | cons c cs ih =>
    rw [List.forall_mem_cons] at h
    rw [List.cons_append, tagAt?, if_neg h.1.2, if_neg h.1.1, ih h.2, Option.map_some]

/-- A tag ends at the next bracket. -/
theorem exists_of_tagAt?_eq_some (h : tagAt? cs = some tag) :
    (∀ c ∈ tag, IsInner c) ∧ ∃ rest, cs = tag ++ '>' :: rest := by
  induction cs generalizing tag with
  | nil => cases h
  | cons c cs ih =>
    rw [tagAt?] at h
    split at h
    · next hclose =>
      obtain rfl := Option.some_inj.1 h
      exact ⟨nofun, cs, hclose ▸ rfl⟩
    · next hclose =>
      split at h
      · cases h
      · next hopen =>
        obtain ⟨inner, hinner, rfl⟩ := Option.map_eq_some_iff.1 h
        obtain ⟨hall, rest, rfl⟩ := ih hinner
        exact ⟨List.forall_mem_cons.2 ⟨⟨hopen, hclose⟩, hall⟩, rest, rfl⟩

/-- The tags of a text whose tags all end are followed by those of what comes after it. -/
theorem tags_append (h : isMarkup a = true) (b : List Char) : tags (a ++ b) = tags a ++ tags b := by
  induction a with
  | nil => rfl
  | cons c cs ih =>
    rw [isMarkup, Bool.and_eq_true] at h
    rw [List.cons_append, tags, tags, ih h.2]
    split
    · next hopen =>
      obtain ⟨tag, htag, -⟩ := (Option.any_eq_true _ _).1 (by simpa [hopen] using h.1)
      rw [tagAt?_append htag, htag, List.append_assoc]
    · rfl

/-- Markup after markup is markup. -/
theorem isMarkup_append (ha : isMarkup a = true) (hb : isMarkup b = true) :
    isMarkup (a ++ b) = true := by
  induction a with
  | nil => exact hb
  | cons c cs ih =>
    rw [isMarkup, Bool.and_eq_true] at ha
    rw [List.cons_append, isMarkup, Bool.and_eq_true]
    refine ⟨?_, ih ha.2⟩
    rw [Bool.or_eq_true] at ha ⊢
    refine ha.1.imp_right fun hany => ?_
    obtain ⟨tag, htag, hcomment⟩ := (Option.any_eq_true _ _).1 hany
    rw [tagAt?_append htag]
    exact hcomment

/-- Without brackets there is no tag. -/
theorem tags_append_of_not_mem (h : '<' ∉ a) (b : List Char) : tags (a ++ b) = tags b := by
  induction a with
  | nil => rfl
  | cons c cs ih =>
    rw [List.mem_cons, not_or] at h
    rw [List.cons_append, tags, if_neg (Ne.symm h.1), ih h.2]

/-- A tag is followed by those after it. -/
theorem tags_tag (h : ∀ c ∈ tag, IsInner c) (rest : List Char) :
    tags ('<' :: (tag ++ '>' :: rest)) = tag :: tags rest := by
  have hopen : '<' ∉ tag := fun hmem => (h _ hmem).1 rfl
  rw [tags, if_pos rfl, tagAt?_inner h, tags_append_of_not_mem hopen, tags, if_neg (by decide)]
  rfl

/-- There is no tag without an opening bracket. -/
theorem tags_eq_nil (h : '<' ∉ cs) : tags cs = [] := by
  rw [← List.append_nil cs, tags_append_of_not_mem h]
  rfl

/-- A text without an opening bracket is markup. -/
theorem isMarkup_of_not_mem (h : '<' ∉ cs) : isMarkup cs = true := by
  induction cs with
  | nil => rfl
  | cons c cs ih =>
    rw [List.mem_cons, not_or] at h
    rw [isMarkup, ih h.2, Bool.and_true, Bool.or_eq_true]
    exact .inl (bne_iff_ne.2 (Ne.symm h.1))

end Tags

/-- Characters with these tags. -/
structure HasTags (cs : List Char) (ts : List (List Char)) : Prop where
  isMarkup : isMarkup cs = true
  tags : tags cs = ts

namespace HasTags

variable {a b cs tag : List Char} {s t : List (List Char)}

/-- Tags are listed in order when texts are joined. -/
theorem append (ha : HasTags a s) (hb : HasTags b t) : HasTags (a ++ b) (s ++ t) :=
  ⟨isMarkup_append ha.isMarkup hb.isMarkup, by rw [tags_append ha.isMarkup, ha.tags, hb.tags]⟩

/-- A text without an opening bracket has no tags. -/
theorem plain (h : '<' ∉ cs) : HasTags cs [] :=
  ⟨isMarkup_of_not_mem h, tags_eq_nil h⟩

/-- One tag is the tag of its text. -/
theorem single (hinner : ∀ c ∈ tag, IsInner c) (hcomment : Text.after? commentMark tag = none) :
    HasTags ('<' :: (tag ++ ['>'])) [tag] := by
  have hrest : '<' ∉ tag ++ ['>'] := by
    rw [List.mem_append, List.mem_singleton, not_or]
    exact ⟨fun hmem => (hinner _ hmem).1 rfl, by decide⟩
  refine ⟨?_, tags_tag hinner []⟩
  rw [Html.isMarkup, tagAt?_inner hinner, isMarkup_of_not_mem hrest, Option.any_some, hcomment]
  rfl

end HasTags

end Sitework.Html
