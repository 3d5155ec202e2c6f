import Sitework.Minify.Html
import Sitework.Proofs.Markup.Tags
import Sitework.Proofs.Minify.Substitution

/-!
# Tags of minified documents

Minifying goes over a document four times. None of the passes adds or drops a tag, as long as the
document has no comments: blanks between tags are no part of a tag, blanks inside become one space
each, and empty attributes are dropped from one tag at a time.
-/

namespace Sitework.Minify

open Html (tagAt? tags IsInner)

section Blanks

variable {c : Char} {cs : List Char}

theorem isBlank_open : Text.isBlank '<' = false := by
  decide

theorem isBlank_close : Text.isBlank '>' = false := by
  decide

/-- No bracket is a blank. -/
theorem ne_of_isBlank (h : Text.isBlank c = true) : c ≠ '<' ∧ c ≠ '>' := by
  constructor
  · rintro rfl
    rw [isBlank_open] at h
    cases h
  · rintro rfl
    rw [isBlank_close] at h
    cases h

/-- Blanks before a tag's characters are the first of them. -/
theorem tagAt?_dropWhile_isBlank (cs : List Char) :
    tagAt? (cs.dropWhile Text.isBlank) = (tagAt? cs).map (·.dropWhile Text.isBlank) := by
  induction cs with
  | nil => rfl
  | cons c cs ih =>
    cases hblank : Text.isBlank c with
    | true =>
      obtain ⟨hopen, hclose⟩ := ne_of_isBlank hblank
      rw [List.dropWhile_cons_of_pos hblank, ih, tagAt?, if_neg hclose, if_neg hopen,
        Option.map_map]
      refine congrArg (fun f => Option.map f (tagAt? cs)) (funext fun tag => ?_)
      exact (List.dropWhile_cons_of_pos hblank).symm
    | false =>
      rw [List.dropWhile_cons_of_neg (Bool.eq_false_iff.1 hblank), tagAt?]
      split
      · rfl
      · split
        · rfl
        · rw [Option.map_map]
          refine congrArg (fun f => Option.map f (tagAt? cs)) (funext fun tag => ?_)
          exact (List.dropWhile_cons_of_neg (Bool.eq_false_iff.1 hblank)).symm

/-- Blanks at the start belong to no tag. -/
theorem tags_dropWhile_isBlank (cs : List Char) : tags (cs.dropWhile Text.isBlank) = tags cs := by
  induction cs with
  | nil => rfl
  | cons c cs ih =>
    cases hblank : Text.isBlank c with
    | true => rw [List.dropWhile_cons_of_pos hblank, ih, tags, if_neg (ne_of_isBlank hblank).1]
    | false => rw [List.dropWhile_cons_of_neg (Bool.eq_false_iff.1 hblank)]

/-- A tag is cut off before or after its blanks are squeezed. -/
theorem tagAt?_substitute_blankRun (cs : List Char) :
    tagAt? (substitute blankRun cs) = (tagAt? cs).map (substitute blankRun) := by
  induction cs using shortens_blankRun.induction with
  | nil => rw [substitute]; rfl
  | copy c cs hnone ih =>
    have hblank := isBlank_of_blankRun_eq_none hnone
    rw [substitute_blankRun_of_not_blank hblank, tagAt?, tagAt?]
    split
    · rw [Option.map_some, substitute]
    · split
      · rfl
      · rw [ih, Option.map_map, Option.map_map]
        refine congrArg (fun f => Option.map f (tagAt? cs)) (funext fun tag => ?_)
        exact (substitute_blankRun_of_not_blank hblank).symm
  | replace c cs piece rest hsome ih =>
    obtain ⟨hblank, -, rfl⟩ := blankRun_eq_some hsome
    obtain ⟨hopen, hclose⟩ := ne_of_isBlank hblank
    rw [substitute_blankRun_of_blank hblank, tagAt?, if_neg (by decide), if_neg (by decide), ih,
      tagAt?_dropWhile_isBlank, tagAt?, if_neg hclose, if_neg hopen, Option.map_map,
      Option.map_map, Option.map_map]
    refine congrArg (fun f => Option.map f (tagAt? cs)) (funext fun tag => ?_)
    exact (substitute_blankRun_of_blank hblank).symm

/-- Blanks become spaces in each tag by itself. -/
theorem tags_substitute_blankRun (cs : List Char) :
    tags (substitute blankRun cs) = (tags cs).map (substitute blankRun) := by
  induction cs using shortens_blankRun.induction with
  | nil => rw [substitute]; rfl
  | copy c cs hnone ih =>
    rw [substitute_blankRun_of_not_blank (isBlank_of_blankRun_eq_none hnone), tags, tags, ih]
    split
    · rw [tagAt?_substitute_blankRun, List.map_append]
      cases tagAt? cs <;> rfl
    · rfl
  | replace c cs piece rest hsome ih =>
    obtain ⟨hblank, -, rfl⟩ := blankRun_eq_some hsome
    rw [substitute_blankRun_of_blank hblank, tags, if_neg (by decide), ih, tags_dropWhile_isBlank,
      tags, if_neg (ne_of_isBlank hblank).1]

/-- Nothing after the last tag is part of it. -/
theorem tagAt?_append_blanks {blanks : List Char} (h : ∀ c ∈ blanks, Text.isBlank c = true)
    (cs : List Char) : tagAt? (cs ++ blanks) = tagAt? cs := by
  induction cs with
  | nil =>
    cases htag : tagAt? blanks with
    | none => rw [List.nil_append, htag]; rfl
    | some tag =>
      obtain ⟨-, rest, rfl⟩ := Html.exists_of_tagAt?_eq_some htag
      have hclose := h '>' (List.mem_append_right _ List.mem_cons_self)
      rw [isBlank_close] at hclose
      cases hclose
  | cons c cs ih => rw [List.cons_append, tagAt?, tagAt?, ih]

/-- Blanks at the end add no tag. -/
theorem tags_append_blanks {blanks : List Char} (h : ∀ c ∈ blanks, Text.isBlank c = true)
    (cs : List Char) : tags (cs ++ blanks) = tags cs := by
  induction cs with
  | nil =>
    refine Html.tags_eq_nil fun hmem => ?_
    have hopen := h '<' hmem
    rw [isBlank_open] at hopen
    cases hopen
  | cons c cs ih => rw [List.cons_append, tags, tags, ih, tagAt?_append_blanks h]

/-- Blanks at either end are no part of a tag. -/
theorem tags_trim (cs : List Char) : tags (Text.trim cs) = tags cs := by
  rw [Text.trim, Text.trimRight, ← tags_dropWhile_isBlank cs]
  generalize cs.dropWhile Text.isBlank = ds
  have hparts : (ds.reverse.dropWhile Text.isBlank).reverse ++
      (ds.reverse.takeWhile Text.isBlank).reverse = ds := by
    rw [← List.reverse_append, List.takeWhile_append_dropWhile, List.reverse_reverse]
  have hblanks : ∀ c ∈ (ds.reverse.takeWhile Text.isBlank).reverse, Text.isBlank c = true := by
    intro c hc
    exact List.all_eq_true.1 List.all_takeWhile c (List.mem_reverse.1 hc)
  rw [← tags_append_blanks hblanks, hparts]

end Blanks

section BetweenTags

variable {c : Char} {cs : List Char}

/-- The rule takes the blanks between two tags, with the brackets around them. -/
theorem betweenTags_eq_some {piece rest : List Char} (h : betweenTags cs = some (piece, rest)) :
    piece = ['>', '<'] ∧ ∃ blanks, (∀ c ∈ blanks, Text.isBlank c = true) ∧
      cs = '>' :: (blanks ++ '<' :: rest) := by
  unfold betweenTags at h
  split at h
  · next c ds =>
    split at h
    · next hblank =>
      obtain ⟨after, hafter, heq⟩ := Option.map_eq_some_iff.1 h
      obtain ⟨rfl, rfl⟩ := Prod.mk.inj heq
      have hopen : '<' :: after = ds.dropWhile Text.isBlank := Text.append_of_after? hafter
      refine ⟨rfl, c :: ds.takeWhile Text.isBlank, ?_, ?_⟩
      · exact List.forall_mem_cons.2 ⟨hblank, List.all_eq_true.1 List.all_takeWhile⟩
      · rw [List.cons_append, hopen, List.takeWhile_append_dropWhile]
    · cases h
  · cases h

/-- The rule leaves less than there was. -/
theorem shortens_betweenTags : Shortens betweenTags := by
  intro c cs piece rest h
  obtain ⟨-, blanks, -, hcs⟩ := betweenTags_eq_some h
  rw [hcs, List.length_cons, List.length_append, List.length_cons]
  omega

/-- Blanks before a text add no tag. -/
theorem tags_blanks_append {blanks : List Char} (h : ∀ c ∈ blanks, Text.isBlank c = true)
    (cs : List Char) : tags (blanks ++ cs) = tags cs := by
  rw [← tags_dropWhile_isBlank (blanks ++ cs), List.dropWhile_append_of_pos h,
    tags_dropWhile_isBlank]

/-- Dropping blanks between tags leaves the inside of a tag alone. -/
theorem tagAt?_substitute_betweenTags (cs : List Char) :
    tagAt? (substitute betweenTags cs) = tagAt? cs := by
  induction cs using shortens_betweenTags.induction with
  | nil => rw [substitute]
  | copy c cs hnone ih => rw [substitute_cons_of_none hnone, tagAt?, tagAt?, ih]
  | replace c cs piece rest hsome ih =>
    obtain ⟨rfl, blanks, -, hcs⟩ := betweenTags_eq_some hsome
    rw [substitute_cons_of_some hsome (shortens_betweenTags hsome), hcs]
    rfl

/-- What stands between two tags is no part of either. -/
theorem tags_substitute_betweenTags (cs : List Char) :
    tags (substitute betweenTags cs) = tags cs := by
  induction cs using shortens_betweenTags.induction with
  | nil => rw [substitute]
  | copy c cs hnone ih =>
    rw [substitute_cons_of_none hnone, tags, tags, ih, tagAt?_substitute_betweenTags]
  | replace c cs piece rest hsome ih =>
    obtain ⟨rfl, blanks, hblanks, hcs⟩ := betweenTags_eq_some hsome
    rw [substitute_cons_of_some hsome (shortens_betweenTags hsome), hcs, tags, if_neg (by decide),
      tags_blanks_append hblanks, List.cons_append, tags, if_neg (by decide),
      List.singleton_append, tags, tags, ih, tagAt?_substitute_betweenTags]

end BetweenTags

section Comments

/-- Where no comment begins, none is dropped. -/
theorem substitute_comment_eq_self {cs : List Char} (h : Html.isMarkup cs = true) :
    substitute (comment ['<', '!', '-', '-'] ['-', '-', '>']) cs = cs := by
  induction cs with
  | nil => rw [substitute]
  | cons c cs ih =>
    rw [Html.isMarkup, Bool.and_eq_true, Bool.or_eq_true] at h
    have hnone : comment ['<', '!', '-', '-'] ['-', '-', '>'] (c :: cs) = none := by
      rw [comment, Text.after?]
      split
      · next hopen =>
        obtain ⟨tag, htag, hcomment⟩ : ∃ tag, tagAt? cs = some tag ∧
            Text.after? Html.commentMark tag = none := by
          have hany := h.1.resolve_left (by rw [← hopen]; decide)
          obtain ⟨tag, htag, hcomment⟩ := (Option.any_eq_true _ _).1 hany
          exact ⟨tag, htag, Option.isNone_iff_eq_none.1 hcomment⟩
        obtain ⟨-, rest, rfl⟩ := Html.exists_of_tagAt?_eq_some htag
        have hclose : '>' ∉ Html.commentMark := by decide
        have hafter := Text.after?_append_of_none hcomment hclose rest
        rw [Html.commentMark] at hafter
        rw [hafter, Option.bind_none]
      · rfl
    rw [substitute_cons_of_none hnone, ih h.2]

end Comments

section EmptyAttributes

variable {c : Char} {cs piece rest : List Char}

/-- The rule takes a blank with a name and an empty value after it, which is dropped or kept as a
whole. -/
theorem emptyAttribute_eq_some (h : emptyAttribute cs = some (piece, rest)) :
    ∃ blank name, Text.isBlank blank = true ∧ '"' ∉ name ∧
      cs = blank :: (name ++ emptyValue ++ rest) ∧
      (piece = [] ∨ piece = blank :: (name ++ emptyValue)) := by
  unfold emptyAttribute at h
  split at h
  · next blank c ds =>
    split at h
    · next hstart =>
      obtain ⟨after, hafter, heq⟩ := Option.map_eq_some_iff.1 h
      obtain ⟨hpiece, rfl⟩ := Prod.mk.inj heq
      obtain ⟨hblank, hletter⟩ := Bool.and_eq_true_iff.1 hstart
      refine ⟨blank, c :: ds.takeWhile isNameChar, hblank, ?_, ?_, ?_⟩
      · rw [List.mem_cons, not_or]
        refine ⟨?_, fun hmem => ?_⟩
        · rintro rfl
          exact absurd hletter (by decide)
        · exact absurd (List.all_eq_true.1 List.all_takeWhile _ hmem) (by decide)
      · rw [List.append_assoc, Text.append_of_after? hafter, List.cons_append,
          List.takeWhile_append_dropWhile]
      · rw [← hpiece]
        split
        · exact .inr rfl
        · exact .inl rfl
    · cases h
  · cases h

/-- The rule leaves less than there was. -/
theorem shortens_emptyAttribute : Shortens emptyAttribute := by
  intro c cs piece rest h
  obtain ⟨blank, name, -, -, hcs, -⟩ := emptyAttribute_eq_some h
  rw [hcs, List.length_cons, List.length_append]
  omega

/-- It matches only at a blank. -/
theorem emptyAttribute_of_not_blank (h : Text.isBlank c = false) :
    emptyAttribute (c :: cs) = none := by
  unfold emptyAttribute
  split
  · next heq =>
    obtain ⟨rfl, -⟩ := List.cons.inj heq
    rw [h, Bool.false_and]
    rfl
  · rfl

/-- Dropping attributes adds no characters. -/
theorem mem_of_mem_substitute_emptyAttribute {d : Char} :
    d ∈ substitute emptyAttribute cs → d ∈ cs := by
  induction cs using shortens_emptyAttribute.induction with
  | nil => rw [substitute]; exact id
  | copy c cs hnone ih =>
    rw [substitute_cons_of_none hnone, List.mem_cons, List.mem_cons]
    exact Or.imp_right ih
  | replace c cs piece rest hsome ih =>
    obtain ⟨blank, name, -, -, hcs, hpiece⟩ := emptyAttribute_eq_some hsome
    rw [substitute_cons_of_some hsome (shortens_emptyAttribute hsome), hcs, List.mem_append]
    rintro (hd | hd)
    · rcases hpiece with rfl | rfl
      · exact absurd hd List.not_mem_nil
      · rw [← List.cons_append]
        exact List.mem_append_left _ hd
    · exact List.mem_cons_of_mem _ (List.mem_append_right _ (ih hd))

/-- What ends a tag is no part of an attribute. -/
theorem emptyAttribute_append_close (cs : List Char) :
    emptyAttribute (cs ++ ['>']) = (emptyAttribute cs).map fun r => (r.1, r.2 ++ ['>']) := by
  match cs with
  | [] => rfl
  | [blank] =>
    change (if Text.isBlank blank && Char.isAlpha '>' then _ else none) = none
    rw [show Char.isAlpha '>' = false by decide, Bool.and_false]
    rfl
  | blank :: c :: cs =>
    have hafter : Text.after? emptyValue (cs.dropWhile isNameChar ++ ['>']) =
        (Text.after? emptyValue (cs.dropWhile isNameChar)).map (· ++ ['>']) := by
      cases hvalue : Text.after? emptyValue (cs.dropWhile isNameChar) with
      | none => exact Text.after?_append_of_none hvalue (by decide) []
      | some rest => rw [← Text.append_of_after? hvalue, List.append_assoc, Text.after?_append]; rfl
    rw [List.cons_append, List.cons_append, emptyAttribute, emptyAttribute,
      Text.takeWhile_append_cons (by decide), Text.dropWhile_append_cons (by decide), hafter]
    split
    · rw [Option.map_map, Option.map_map]
      rfl
    · rfl

/-- The bracket that ends a tag is no part of an attribute. -/
theorem substitute_emptyAttribute_append_close (cs : List Char) :
    substitute emptyAttribute (cs ++ ['>']) = substitute emptyAttribute cs ++ ['>'] := by
  induction cs using shortens_emptyAttribute.induction with
  | nil =>
    rw [List.nil_append, substitute_cons_of_none (emptyAttribute_of_not_blank isBlank_close),
      substitute, List.nil_append]
  | copy c cs hnone ih =>
    have hclose := emptyAttribute_append_close (c :: cs)
    rw [hnone, List.cons_append] at hclose
    rw [List.cons_append, substitute_cons_of_none hclose, substitute_cons_of_none hnone, ih]
    rfl
  | replace c cs piece rest hsome ih =>
    have hclose := emptyAttribute_append_close (c :: cs)
    rw [hsome, List.cons_append] at hclose
    rw [List.cons_append, substitute_cons_of_some hclose (shortens_emptyAttribute hclose),
      substitute_cons_of_some hsome (shortens_emptyAttribute hsome), ih, List.append_assoc]

/-- Without two quotes in a row no value is empty. -/
theorem substitute_emptyAttribute_eq_self
    (h : cs.IsChain fun a b => ¬(a = '"' ∧ b = '"')) : substitute emptyAttribute cs = cs := by
  induction cs using shortens_emptyAttribute.induction with
  | nil => rw [substitute]
  | copy c cs hnone ih => rw [substitute_cons_of_none hnone, ih h.tail]
  | replace c cs piece rest hsome ih =>
    obtain ⟨blank, name, -, -, hcs, -⟩ := emptyAttribute_eq_some hsome
    have hvalue : c :: cs = (blank :: (name ++ ['='])) ++ '"' :: '"' :: rest := by
      rw [hcs]
      simp [emptyValue]
    rw [hvalue] at h
    exact absurd ⟨rfl, rfl⟩ (List.isChain_append_cons_cons.1 h).2.1

/-- A tag without its empty attributes; end tags stay as they are. -/
def dropEmpty (tag : List Char) : List Char :=
  if tag.head?.any Char.isAlpha then substitute emptyAttribute tag else tag

/-- The first character of a tag stays. -/
theorem exists_dropEmpty_cons (h : Text.isBlank c = false) (cs : List Char) :
    ∃ rest, dropEmpty (c :: cs) = c :: rest := by
  rw [dropEmpty]
  split
  · exact ⟨_, substitute_cons_of_none (emptyAttribute_of_not_blank h)⟩
  · exact ⟨cs, rfl⟩

/-- A tag without two quotes next to each other stays as it is. -/
theorem dropEmpty_eq_self (h : cs.IsChain fun a b => ¬(a = '"' ∧ b = '"')) :
    dropEmpty cs = cs := by
  rw [dropEmpty]
  split
  · exact substitute_emptyAttribute_eq_self h
  · rfl

end EmptyAttributes

section StartTags

variable {c : Char} {cs tag piece rest : List Char}

/-- The characters inside a tag are those that are no brackets. -/
theorem isTagChar_iff : isTagChar c = true ↔ IsInner c := by
  rw [isTagChar, Bool.and_eq_true, bne_iff_ne, bne_iff_ne]
  rfl

/-- The inside of a tag is cut off before its bracket. -/
theorem takeWhile_isTagChar (h : ∀ c ∈ tag, IsInner c) (rest : List Char) :
    (tag ++ '>' :: rest).takeWhile isTagChar = tag ∧
      (tag ++ '>' :: rest).dropWhile isTagChar = '>' :: rest := by
  have hall : ∀ c ∈ tag, isTagChar c = true := fun c hc => isTagChar_iff.2 (h c hc)
  have hclose : ¬isTagChar '>' = true := by decide
  rw [List.takeWhile_append_of_pos hall, List.dropWhile_append_of_pos hall,
    List.takeWhile_cons_of_neg hclose, List.dropWhile_cons_of_neg hclose, List.append_nil]
  exact ⟨rfl, rfl⟩

/-- A start tag begins with a letter. -/
theorem startTag_eq_some_iff : startTag cs = some (piece, rest) ↔ ∃ tag, (∀ c ∈ tag, IsInner c) ∧
    tag.head?.any Char.isAlpha = true ∧ cs = '<' :: (tag ++ '>' :: rest) ∧
    piece = substitute emptyAttribute ('<' :: (tag ++ ['>'])) := by
  constructor
  · intro h
    unfold startTag at h
    split at h
    · next c ds =>
      split at h
      · next hletter =>
        split at h
        · next after hafter =>
          obtain ⟨rfl, rfl⟩ := Prod.mk.inj (Option.some.inj h)
          have hc : IsInner c := by
            constructor <;> rintro rfl <;> exact absurd hletter (by decide)
          refine ⟨c :: ds.takeWhile isTagChar, List.forall_mem_cons.2 ⟨hc, fun d hd => ?_⟩,
            hletter, ?_, rfl⟩
          · exact isTagChar_iff.1 (List.all_eq_true.1 List.all_takeWhile d hd)
          · rw [← hafter, List.cons_append, List.takeWhile_append_dropWhile]
        · cases h
      · cases h
    · cases h
  · rintro ⟨tag, hinner, hletter, rfl, rfl⟩
    cases tag with
    | nil => cases hletter
    | cons c tag =>
      obtain ⟨htake, hdrop⟩ := takeWhile_isTagChar (List.forall_mem_cons.1 hinner).2 rest
      have hc : c.isAlpha = true := hletter
      rw [List.cons_append, startTag, if_pos hc, hdrop, htake]
      rfl

/-- The rule for start tags leaves less than there was. -/
theorem shortens_startTag : Shortens startTag := by
  intro c cs piece rest h
  obtain ⟨tag, -, -, hcs, -⟩ := startTag_eq_some_iff.1 h
  rw [hcs, List.length_cons, List.length_append, List.length_cons]
  omega

/-- It matches only at an opening bracket. -/
theorem startTag_of_ne (h : c ≠ '<') (cs : List Char) : startTag (c :: cs) = none := by
  cases hsome : startTag (c :: cs) with
  | none => rfl
  | some result =>
    obtain ⟨_, -, -, heq, -⟩ := startTag_eq_some_iff.1 hsome
    exact absurd (List.cons.inj heq).1 h

/-- Empty attributes are dropped from a tag; end tags stay as they are. -/
theorem substitute_startTag_tag (h : ∀ c ∈ tag, IsInner c) (rest : List Char) :
    substitute startTag ('<' :: (tag ++ '>' :: rest)) =
      '<' :: (dropEmpty tag ++ '>' :: substitute startTag rest) := by
  by_cases hletter : tag.head?.any Char.isAlpha = true
  · have hsome : startTag ('<' :: (tag ++ '>' :: rest)) = some (_, rest) :=
      startTag_eq_some_iff.2 ⟨tag, h, hletter, rfl, rfl⟩
    rw [substitute_cons_of_some hsome (shortens_startTag hsome),
      substitute_cons_of_none (emptyAttribute_of_not_blank isBlank_open),
      substitute_emptyAttribute_append_close, dropEmpty, if_pos hletter, List.cons_append,
      List.append_assoc, List.singleton_append]
  · have hnone : startTag ('<' :: (tag ++ '>' :: rest)) = none := by
      cases hsome : startTag ('<' :: (tag ++ '>' :: rest)) with
      | none => rfl
      | some result =>
        obtain ⟨other, hinner, hfirst, heq, -⟩ := startTag_eq_some_iff.1 hsome
        have hread := Html.tagAt?_inner h rest
        rw [(List.cons.inj heq).2, Html.tagAt?_inner hinner] at hread
        exact absurd (Option.some.inj hread ▸ hfirst) hletter
    rw [substitute_cons_of_none hnone,
      substitute_append_of_none fun c hc cs => startTag_of_ne (h c hc).1 cs,
      substitute_cons_of_none (startTag_of_ne (by decide) rest), dropEmpty, if_neg hletter]

/-- Where it matches, empty attributes are dropped up to the closing bracket. -/
theorem substitute_startTag_of_some (h : startTag (c :: cs) = some (piece, rest)) :
    ∃ tag, (∀ c ∈ tag, IsInner c) ∧ c :: cs = '<' :: (tag ++ '>' :: rest) ∧
      substitute startTag (c :: cs) =
        '<' :: (dropEmpty tag ++ '>' :: substitute startTag rest) := by
  obtain ⟨tag, hinner, -, hcs, -⟩ := startTag_eq_some_iff.1 h
  exact ⟨tag, hinner, hcs, hcs ▸ substitute_startTag_tag hinner rest⟩

/-- A tag that has begun is no start tag of its own. -/
theorem tagAt?_substitute_startTag (cs : List Char) :
    tagAt? (substitute startTag cs) = tagAt? cs := by
  induction cs using shortens_startTag.induction with
  | nil => rw [substitute]
  | copy c cs hnone ih => rw [substitute_cons_of_none hnone, tagAt?, tagAt?, ih]
  | replace c cs piece rest hsome ih =>
    obtain ⟨tag, -, hcs, hsubstitute⟩ := substitute_startTag_of_some hsome
    rw [hsubstitute, hcs]
    rfl

/-- Empty attributes are dropped from each tag by itself. -/
theorem tags_substitute_startTag (cs : List Char) :
    tags (substitute startTag cs) = (tags cs).map dropEmpty := by
  induction cs using shortens_startTag.induction with
  | nil => rw [substitute]; rfl
  | copy c cs hnone ih =>
    rw [substitute_cons_of_none hnone, tags, tags, ih, tagAt?_substitute_startTag]
    split
    · next hopen =>
      subst hopen
      rw [List.map_append]
      cases htag : tagAt? cs with
      | none => rfl
      | some tag =>
        obtain ⟨hinner, rest, rfl⟩ := Html.exists_of_tagAt?_eq_some htag
        have hletter : ¬tag.head?.any Char.isAlpha = true := by
          intro hletter
          rw [startTag_eq_some_iff.2 ⟨tag, hinner, hletter, rfl, rfl⟩] at hnone
          cases hnone
        rw [Option.toList_some, List.map_singleton, dropEmpty, if_neg hletter]
    · rfl
  | replace c cs piece rest hsome ih =>
    obtain ⟨tag, hinner, hcs, hsubstitute⟩ := substitute_startTag_of_some hsome
    have hshort : ∀ c ∈ dropEmpty tag, IsInner c := by
      intro c hc
      rw [dropEmpty] at hc
      split at hc
      · exact hinner c (mem_of_mem_substitute_emptyAttribute hc)
      · exact hinner c hc
    rw [hsubstitute, hcs, Html.tags_tag hshort, Html.tags_tag hinner, ih, List.map_cons]

end StartTags

/-- A tag as it is minified. -/
def shortTag (tag : List Char) : List Char :=
  substitute blankRun (dropEmpty tag)

/-- A minified document has the same tags in a shorter form. -/
theorem tags_html {text : String} (h : Html.isMarkup text.toList = true) :
    tags (html text).toList = (tags text.toList).map shortTag := by
  rw [html, String.toList_ofList, tags_trim, tags_substitute_blankRun, tags_substitute_betweenTags,
    tags_substitute_startTag, substitute_comment_eq_self h, List.map_map]
  rfl

end Sitework.Minify
