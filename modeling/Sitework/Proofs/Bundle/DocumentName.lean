import Mathlib.Data.List.Perm.Subperm
import Sitework.Bundle.FileName
import Sitework.Proofs.Number.RoundTrip
import Sitework.Proofs.Text.Character
import Sitework.Proofs.Text.Split
import Sitework.Proofs.Validation

/-!
# Names of documents

The name of a document is a slug: words of lower case letters and digits with dashes between them.
It is the first form of its title that no other page has; there are more forms than pages, so one
is found. The front page has a name of its own before any other page gets one.
-/

namespace Sitework

theorem toList_toString (n : Nat) : (toString n).toList = Decimal.digits n :=
  String.toList_ofList

/-- A number is known by its digits. -/
theorem toString_injective {m n : Nat} (h : toString m = toString n) : m = n := by
  have hdigits := congrArg String.toList h
  rw [toList_toString, toList_toString] at hdigits
  rw [← Decimal.ofDigits_digits m, hdigits, Decimal.ofDigits_digits]

/-- A lower case letter or a digit. -/
def isSlugChar (c : Char) : Bool :=
  c.isLower || c.isDigit

/-- Words of lower case letters and digits, with one dash between each and the next. -/
def IsSlug (cs : List Char) : Prop :=
  ∀ word ∈ Text.splitBy (· == '-') cs, word ≠ [] ∧ ∀ c ∈ word, isSlugChar c = true

instance (cs : List Char) : Decidable (IsSlug cs) :=
  decidable_of_iff (∀ word ∈ Text.splitBy (· == '-') cs, word ≠ [] ∧ word.all isSlugChar = true) <|
    forall₂_congr fun _ _ => and_congr_right' List.all_eq_true

/-- Letters and digits are characters of slugs once they are in lower case. -/
theorem isSlugChar_toLower {c : Char} (h : c.isAlphanum = true) : isSlugChar c.toLower = true := by
  rw [Text.isAlphanum_iff, Text.isAlpha_iff, Text.isUpper_iff, Text.isLower_iff,
    Text.isDigit_iff] at h
  rw [isSlugChar, Bool.or_eq_true, Text.isLower_iff, Text.isDigit_iff, Text.toNat_toLower]
  simp only [Text.isUpper_iff]
  split <;> omega

/-- The dash is no such character by itself. -/
theorem isSlugChar_ne_dash {c : Char} (h : isSlugChar c = true) : (c == '-') = false := by
  rw [Bool.eq_false_iff, Ne, beq_iff_eq]
  rintro rfl
  exact absurd h (by decide)

namespace IsSlug

variable {c : Char} {cs ds : List Char}

/-- One character makes a slug. -/
theorem single (hc : isSlugChar c = true) : IsSlug [c] := by
  rw [IsSlug, Text.splitBy, isSlugChar_ne_dash hc]
  exact List.forall_mem_singleton.2 ⟨List.cons_ne_nil _ _, List.forall_mem_singleton.2 hc⟩

/-- One more character makes the first word longer. -/
theorem cons (hc : isSlugChar c = true) (h : IsSlug cs) : IsSlug (c :: cs) := by
  rw [IsSlug] at h ⊢
  rw [Text.splitBy, isSlugChar_ne_dash hc]
  cases hsplit : Text.splitBy (· == '-') cs with
  | nil => exact absurd hsplit (Text.splitBy_ne_nil _ _)
  | cons word words =>
    rw [hsplit, List.forall_mem_cons] at h
    exact List.forall_mem_cons.2
      ⟨⟨List.cons_ne_nil _ _, List.forall_mem_cons.2 ⟨hc, h.1.2⟩⟩, h.2⟩

/-- A dash separates the words of two slugs. -/
theorem append_dash (h : IsSlug cs) (h' : IsSlug ds) : IsSlug (cs ++ '-' :: ds) := by
  rw [IsSlug, Text.splitBy_append_cons (by rfl), List.forall_mem_append]
  exact ⟨h, h'⟩

/-- So does any number of them without dashes. -/
theorem of_forall (hne : cs ≠ []) (h : ∀ c ∈ cs, isSlugChar c = true) : IsSlug cs := by
  induction cs with
  | nil => exact absurd rfl hne
  | cons c cs ih =>
    rw [List.forall_mem_cons] at h
    by_cases hcs : cs = []
    · rw [hcs]
      exact single h.1
    · exact cons h.1 (ih hcs h.2)

/-- A slug consists of its characters and dashes. -/
theorem of_mem (h : IsSlug cs) (hc : c ∈ cs) : isSlugChar c = true ∨ c = '-' := by
  rcases Text.mem_splitBy (p := (· == '-')) hc with hdash | ⟨word, hword, hmem⟩
  · exact .inr (beq_iff_eq.1 hdash)
  · exact .inl ((h word hword).2 c hmem)

end IsSlug

/-- What is written after a letter or digit goes on with the slug. -/
theorem isSlug_cons_slugChars {c : Char} (hc : isSlugChar c = true) (pendingDash : Bool)
    (cs : List Char) : IsSlug (c :: slugChars pendingDash true cs) := by
  induction cs generalizing c pendingDash with
  | nil => exact .single hc
  | cons first cs ih =>
    rw [slugChars]
    split
    · next hfirst =>
      have hrest := ih (isSlugChar_toLower hfirst) false
      cases pendingDash with
      | false => exact .cons hc hrest
      | true => exact (IsSlug.single hc).append_dash hrest
    · exact ih hc true

/-- A title with a letter or digit has a slug. -/
theorem isSlug_slugChars (pendingDash : Bool) (cs : List Char) :
    slugChars pendingDash false cs = [] ∨ IsSlug (slugChars pendingDash false cs) := by
  induction cs generalizing pendingDash with
  | nil => exact .inl rfl
  | cons first cs ih =>
    rw [slugChars]
    split
    · next hfirst =>
      rw [Bool.and_false]
      exact .inr (isSlug_cons_slugChars (isSlugChar_toLower hfirst) false cs)
    · exact ih true

/-- What is made of a title is a slug. -/
theorem isSlug_slugify (title : String) : IsSlug (slugify title).toList := by
  rw [slugify]
  rcases isSlug_slugChars false title.toList with hempty | hslug
  · rw [hempty]
    decide
  · split
    · decide
    · rwa [String.toList_ofList]

namespace FileName

/-- The forms of a stem: as it is, and numbered from two on. -/
def form (stem : String) : Nat → String
  | 0 => stem
  | k + 1 => stem ++ "-" ++ toString (k + 2)

/-- The candidates are the numbered forms of a stem, in order. -/
theorem candidates_eq (stem : String) (n : Nat) :
    candidates stem n = (List.range (n + 1)).map (form stem) := by
  rw [List.range_succ_eq_map, List.map_cons, List.map_map]
  rfl

/-- No two forms of a stem are the same. -/
theorem form_injective (stem : String) : Function.Injective (form stem) := by
  have hne (k : Nat) : stem ≠ stem ++ "-" ++ toString (k + 2) := by
    intro h
    have hlength := congrArg String.length h
    rw [String.length_append, String.length_append] at hlength
    have hdash : "-".length = 1 := rfl
    omega
  intro j k h
  cases j with
  | zero =>
    cases k with
    | zero => rfl
    | succ k => exact absurd h (hne k)
  | succ j =>
    cases k with
    | zero => exact absurd h.symm (hne j)
    | succ k =>
      have hnumber := toString_injective (String.append_right_inj _ |>.1 h)
      omega

/-- A slug with a number is a slug. -/
theorem isSlug_form {stem : String} (h : IsSlug stem.toList) (k : Nat) :
    IsSlug (form stem k).toList := by
  cases k with
  | zero => exact h
  | succ k =>
    have hdigits : IsSlug (Decimal.digits (k + 2)) := by
      refine .of_forall (Decimal.digits_ne_nil _) fun c hc => ?_
      rw [isSlugChar, Decimal.isDigit_of_mem_digits hc, Bool.or_true]
    rw [form, String.toList_append, String.toList_append, toList_toString, List.append_assoc]
    exact h.append_dash hdigits

/-- The first form that is not taken is found, because there are more forms than taken names. -/
theorem exists_free_eq (taken : List String) (stem : String) :
    ∃ k, free taken stem = form stem k ∧ form stem k ∉ taken ∧ ∀ j < k, form stem j ∈ taken := by
  rw [free, candidates_eq]
  cases hfind : ((List.range (taken.length + 1)).map (form stem)).find? fun name =>
      !taken.contains name with
  | some name =>
    obtain ⟨hname, k, hk, hget, hbefore⟩ := List.find?_eq_some_iff_getElem.1 hfind
    rw [List.getElem_map, List.getElem_range] at hget
    subst hget
    refine ⟨k, rfl, by simpa using hname, fun j hj => ?_⟩
    simpa using hbefore j hj
  | none =>
    have htaken : (List.range (taken.length + 1)).map (form stem) ⊆ taken := by
      intro name hname
      simpa using List.find?_eq_none.1 hfind name hname
    have hnodup := (List.nodup_range (n := taken.length + 1)).map (form_injective stem)
    have hle := (hnodup.subperm htaken).length_le
    rw [List.length_map, List.length_range] at hle
    exact absurd hle (Nat.not_succ_le_self _)

/-- The candidate that is chosen is not taken. -/
theorem free_not_mem (taken : List String) (stem : String) : free taken stem ∉ taken := by
  obtain ⟨k, hfree, hnew, -⟩ := exists_free_eq taken stem
  rwa [hfree]

/-- Slugs of which no two are the same. -/
structure AreDistinct (names : OrderedMap String) : Prop where
  nodup : names.values.Nodup
  slugs : ∀ name ∈ names.values, IsSlug name.toList

variable {names : OrderedMap String}

/-- The front page has a name of its own. -/
theorem areDistinct_front (s : Site) : AreDistinct (front s) := by
  rw [front]
  cases s.indexPage? with
  | none => exact ⟨List.nodup_nil, nofun⟩
  | some p =>
    have hindex : IsSlug "index".toList := by decide
    exact ⟨List.nodup_singleton _, List.forall_mem_singleton.2 hindex⟩

/-- The only page that has a name before the others is the front page. -/
theorem exists_of_mem_keys_front {s : Site} {id : String} (h : id ∈ (front s).keys) :
    ∃ p ∈ s.pages.values, p.isIndex = true ∧ p.id = id := by
  rw [front] at h
  cases hfind : s.indexPage? with
  | none => rw [hfind] at h; cases h
  | some p =>
    rw [hfind] at h
    exact ⟨p, List.mem_of_find?_eq_some hfind, List.find?_some hfind, (List.mem_singleton.1 h).symm⟩

namespace AreDistinct

/-- A name for one more page is different from the others. -/
theorem name (h : AreDistinct names) (p : Page) : AreDistinct (name names p) := by
  rw [FileName.name]
  split
  · exact h
  · next hcontains =>
    have hnew : p.id ∉ names.keys := fun h => hcontains (OrderedMap.contains_iff.2 h)
    have hvalues : (names.insert p.id (free names.values (slugify p.name))).values =
        names.values ++ [free names.values (slugify p.name)] := by
      rw [OrderedMap.values, OrderedMap.entries_insert_of_not_mem hnew, List.map_append]
      rfl
    constructor
    · rw [hvalues]
      exact List.concat_eq_append ▸ h.nodup.concat (free_not_mem _ _)
    · rw [hvalues]
      refine List.forall_mem_append.2 ⟨h.slugs, List.forall_mem_singleton.2 ?_⟩
      obtain ⟨k, hfree, -⟩ := exists_free_eq names.values (slugify p.name)
      rw [hfree]
      exact isSlug_form (isSlug_slugify p.name) k

/-- Naming pages one after the other keeps the names distinct. -/
theorem foldl (h : AreDistinct names) (ps : List Page) :
    AreDistinct (ps.foldl FileName.name names) := by
  induction ps generalizing names with
  | nil => exact h
  | cons p ps ih => exact ih (h.name p)

end AreDistinct

/-- A page that gets a name has one, and so has every page that had one. -/
theorem mem_keys_name {p : Page} {id : String} :
    id ∈ (name names p).keys ↔ id ∈ names.keys ∨ id = p.id := by
  rw [name]
  split
  · next hcontains =>
    rw [or_iff_left_of_imp]
    rintro rfl
    exact OrderedMap.contains_iff.1 hcontains
  · next hcontains =>
    rw [OrderedMap.keys_insert, if_neg (mt OrderedMap.contains_iff.2 hcontains),
      List.mem_append, List.mem_singleton]

/-- Named are the pages that were before and those that came. -/
theorem mem_keys_foldl {ps : List Page} {id : String} :
    id ∈ (ps.foldl name names).keys ↔ id ∈ names.keys ∨ id ∈ ps.map (·.id) := by
  induction ps generalizing names with
  | nil => simp
  | cons p ps ih => rw [List.foldl_cons, ih, mem_keys_name, List.map_cons, List.mem_cons, or_assoc]

/-- A name that was given stays. -/
theorem get?_name_of_some {id stem : String} (h : names.get? id = some stem) (p : Page) :
    (name names p).get? id = some stem := by
  rw [name]
  split
  · exact h
  · next hcontains =>
    rw [OrderedMap.get?_insert, if_neg, h]
    rintro rfl
    rw [OrderedMap.contains, h] at hcontains
    exact hcontains rfl

/-- A name that is given stays. -/
theorem get?_foldl_of_some {id stem : String} (h : names.get? id = some stem) (ps : List Page) :
    (ps.foldl name names).get? id = some stem := by
  induction ps generalizing names with
  | nil => exact h
  | cons p ps ih => exact ih (get?_name_of_some h p)

/-- A page without a name gets the first form of its title that no page has. -/
theorem exists_get?_foldl {ps : List Page} (hnodup : (ps.map (·.id)).Nodup) {p : Page}
    (hp : p ∈ ps) (hnew : p.id ∉ names.keys) :
    ∃ k, (ps.foldl name names).get? p.id = some (form (slugify p.name) k) ∧
      ∀ j < k, ∃ id, id ≠ p.id ∧
        (ps.foldl name names).get? id = some (form (slugify p.name) j) := by
  induction ps generalizing names with
  | nil => exact absurd hp List.not_mem_nil
  | cons q ps ih =>
    rw [List.map_cons, List.nodup_cons] at hnodup
    rw [List.foldl_cons]
    rcases List.mem_cons.1 hp with rfl | hp
    · obtain ⟨k, hfree, -, hbefore⟩ := exists_free_eq names.values (slugify p.name)
      have hname : name names p = names.insert p.id (form (slugify p.name) k) := by
        rw [name, if_neg (mt OrderedMap.contains_iff.1 hnew), hfree]
      refine ⟨k, get?_foldl_of_some ?_ ps, fun j hj => ?_⟩
      · rw [hname, OrderedMap.get?_insert, if_pos rfl]
      · obtain ⟨entry, hentry, hform⟩ := List.mem_map.1 (hbefore j hj)
        have hgiven : names.get? entry.1 = some (form (slugify p.name) j) :=
          OrderedMap.get?_eq_some_iff.2 (hform ▸ hentry)
        refine ⟨entry.1, ?_, get?_foldl_of_some (get?_name_of_some hgiven p) ps⟩
        intro heq
        exact hnew (heq ▸ List.mem_map_of_mem hentry)
    · refine ih hnodup.2 hp fun hmem => ?_
      rcases mem_keys_name.1 hmem with hmem | heq
      · exact hnew hmem
      · exact hnodup.1 (heq ▸ List.mem_map_of_mem hp)

end FileName

namespace Site

variable {s : Site}

/-- A file is named by the stem of its page. -/
theorem get?_fileNames (s : Site) (id : String) : s.fileNames.get? id =
    ((s.pages.values.foldl FileName.name (FileName.front s)).get? id).map (· ++ ".html") := by
  rw [fileNames, OrderedMap.get?_map]

/-- Every page has a file, named by a slug. -/
theorem exists_fileName {p : Page} (hp : p ∈ s.pages.values) :
    ∃ stem, s.fileNames.get? p.id = some (stem ++ ".html") ∧ IsSlug stem.toList := by
  have hmem : p.id ∈ (s.pages.values.foldl FileName.name (FileName.front s)).keys :=
    FileName.mem_keys_foldl.2 (.inr (List.mem_map_of_mem hp))
  obtain ⟨stem, hstem⟩ := OrderedMap.exists_get?_of_mem_keys hmem
  refine ⟨stem, by rw [get?_fileNames, hstem, Option.map_some], ?_⟩
  have hentry := List.mem_map_of_mem (OrderedMap.get?_eq_some_iff.1 hstem) (f := Prod.snd)
  exact ((FileName.areDistinct_front s).foldl _).slugs _ hentry

/-- Only pages have files. -/
theorem exists_of_fileName {id file : String} (h : s.fileNames.get? id = some file) :
    ∃ p ∈ s.pages.values, p.id = id := by
  rw [get?_fileNames, Option.map_eq_some_iff] at h
  obtain ⟨stem, hstem, -⟩ := h
  have hkey : id ∈ (s.pages.values.foldl FileName.name (FileName.front s)).keys :=
    List.mem_map.2 ⟨_, OrderedMap.get?_eq_some_iff.1 hstem, rfl⟩
  rcases FileName.mem_keys_foldl.1 hkey with hmem | hmem
  · obtain ⟨p, hp, -, hid⟩ := FileName.exists_of_mem_keys_front hmem
    exact ⟨p, hp, hid⟩
  · exact List.mem_map.1 hmem

/-- No two pages have the same file. -/
theorem eq_of_fileNames_eq {a b file : String} (ha : s.fileNames.get? a = some file)
    (hb : s.fileNames.get? b = some file) : a = b := by
  rw [get?_fileNames, Option.map_eq_some_iff] at ha hb
  obtain ⟨stem, hstem, rfl⟩ := ha
  obtain ⟨other, hother, heq⟩ := hb
  rw [String.append_left_inj] at heq
  subst heq
  exact OrderedMap.eq_of_get?_eq ((FileName.areDistinct_front s).foldl _).nodup hstem hother

/-- If the pages have different names, then every page but the front page has the first form of its
title that is not the file of another page. -/
theorem exists_form (hids : (s.pages.values.map (·.id)).Nodup) {p : Page}
    (hp : p ∈ s.pages.values) (hindex : p.isIndex = false) :
    ∃ k, s.fileNames.get? p.id = some (FileName.form (slugify p.name) k ++ ".html") ∧
      ∀ j < k, ∃ q ∈ s.pages.values, q ≠ p ∧
        s.fileNames.get? q.id = some (FileName.form (slugify p.name) j ++ ".html") := by
  have hnew : p.id ∉ (FileName.front s).keys := by
    intro hmem
    obtain ⟨q, hq, hqindex, hid⟩ := FileName.exists_of_mem_keys_front hmem
    obtain rfl := List.inj_on_of_nodup_map hids hq hp hid
    rw [hindex] at hqindex
    cases hqindex
  obtain ⟨k, hk, hbefore⟩ := FileName.exists_get?_foldl hids hp hnew
  refine ⟨k, by rw [get?_fileNames, hk, Option.map_some], fun j hj => ?_⟩
  obtain ⟨id, hne, hid⟩ := hbefore j hj
  have hfile : s.fileNames.get? id = some (FileName.form (slugify p.name) j ++ ".html") := by
    rw [get?_fileNames, hid, Option.map_some]
  obtain ⟨q, hq, rfl⟩ := exists_of_fileName hfile
  exact ⟨q, hq, fun heq => hne (heq ▸ rfl), hfile⟩

/-- How the documents of a site are named: by slugs, of which no two are the same. The front page is
the index, and every other page has the first form of its title that is not the name of another
page. -/
structure HasFileNames (s : Site) : Prop where
  slug : ∀ p ∈ s.pages.values, ∃ stem,
    s.fileNames.get? p.id = some (stem ++ ".html") ∧ IsSlug stem.toList
  distinct : ∀ p ∈ s.pages.values, ∀ q ∈ s.pages.values,
    s.fileNames.get? p.id = s.fileNames.get? q.id → p = q
  front : ∀ p ∈ s.pages.values, p.isIndex = true → s.fileNames.get? p.id = some "index.html"
  first : ∀ p ∈ s.pages.values, p.isIndex = false → ∃ k,
    s.fileNames.get? p.id = some (FileName.form (slugify p.name) k ++ ".html") ∧
      ∀ j < k, ∃ q ∈ s.pages.values, q ≠ p ∧
        s.fileNames.get? q.id = some (FileName.form (slugify p.name) j ++ ".html")

/-- The documents of an accepted site have their names. -/
theorem hasFileNames (h : Validation.checkSite s = .ok ()) : s.HasFileNames where
  slug p hp := exists_fileName hp
  distinct := by
    intro p hp q hq heq
    obtain ⟨stem, hstem, -⟩ := exists_fileName hp
    have hid := eq_of_fileNames_eq hstem (heq ▸ hstem)
    exact List.inj_on_of_nodup_map (Validation.nodup_ids_of_checkSite h) hp hq hid
  front := by
    intro p hp hindex
    have hfront : (FileName.front s).get? p.id = some "index" := by
      rw [FileName.front, Validation.indexPage?_of_checkSite h hp hindex]
      exact OrderedMap.get?_eq_some_iff.2 (List.mem_singleton_self _)
    rw [get?_fileNames, FileName.get?_foldl_of_some hfront, Option.map_some]
    rfl
  first p hp hindex := exists_form (Validation.nodup_ids_of_checkSite h) hp hindex

end Site

end Sitework
