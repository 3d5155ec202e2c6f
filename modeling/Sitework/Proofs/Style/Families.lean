import Sitework.Proofs.Style.Accepted
import Sitework.Proofs.Style.Completion
import Sitework.Proofs.Text.Split
import Sitework.Proofs.Text.Trim

/-!
# Font families in force

A font family is declared as a quoted text with a generic family after it. Taking this apart gives
the family back, if it has no comma and begins and ends with no blank and no quote: what takes it
apart does not know that commas may be quoted. The families that are declared at the base and
wherever an element has a layer are those that are in force at any breakpoint.
-/

namespace Sitework

/-- A font family is written in quotes, with a generic one after it. -/
theorem toList_fontFamilyCss (family : String) : (fontFamilyCss family).toList =
    '"' :: (family.toList ++ '"' :: ", sans-serif".toList) := by
  rw [fontFamilyCss, String.toList_append, String.toList_append]
  simp only [List.append_assoc]
  rfl

/-- A family that is not taken apart: it has no comma, and at its ends are no blanks and no
quotes. -/
def IsWholeFamily (family : String) : Prop :=
  ',' ∉ family.toList ∧ Text.IsTrimmed family.toList ∧
    family.toList.head? ≠ some '\'' ∧ family.toList.getLast? ≠ some '\''

instance (family : String) : Decidable (IsWholeFamily family) :=
  inferInstanceAs (Decidable (_ ∧ _ ∧ _ ∧ _))

/-- A quoted text without quotes is what is between them, if that does not end in any. -/
theorem withoutQuotes_quoted {cs : List Char} (hne : cs ≠ [])
    (hfirst : ∀ c ∈ cs.head?, (c == '"' || c == '\'') = false)
    (hlast : ∀ c ∈ cs.getLast?, (c == '"' || c == '\'') = false) :
    Value.withoutQuotes ('"' :: cs ++ ['"']) = cs := by
  have hstart : ∀ c ∈ (cs ++ ['"']).head?, (c == '"' || c == '\'') = false := by
    rwa [List.head?_append_of_ne_nil _ hne]
  have hend : ∀ c ∈ cs.reverse.head?, (c == '"' || c == '\'') = false := by
    rwa [List.head?_reverse]
  rw [Value.withoutQuotes, List.cons_append, List.dropWhile_cons_of_pos rfl,
    Text.dropWhile_eq_self hstart, List.reverse_append, List.reverse_singleton,
    List.singleton_append, List.dropWhile_cons_of_pos rfl, Text.dropWhile_eq_self hend,
    List.reverse_reverse]

/-- The declared form of a family without commas has two parts. -/
theorem splitBy_fontFamilyCss {family : String} (hcomma : ',' ∉ family.toList) :
    Text.splitBy (· == ',') (fontFamilyCss family).toList =
      ['"' :: family.toList ++ ['"'], " sans-serif".toList] := by
  have htext : (fontFamilyCss family).toList =
      '"' :: family.toList ++ ['"'] ++ ',' :: " sans-serif".toList := by
    rw [toList_fontFamilyCss, List.append_assoc]
    rfl
  rw [htext, Text.splitBy_append_cons rfl, Text.splitBy_eq_singleton, Text.splitBy_eq_singleton]
  · rfl
  · exact Text.forall_mem_of_all (by decide)
  · intro c hc
    refine beq_eq_false_iff_ne.2 (ne_of_mem_of_not_mem hc ?_)
    rw [List.mem_append, List.mem_cons, not_or, not_or]
    exact ⟨⟨by decide, hcomma⟩, by decide⟩

/-- The declared form of an accepted family that is not taken apart has that family and the generic
one. -/
theorem fontStack_fontFamilyCss {family : String} (h : Validation.isFontFamily family = true)
    (hwhole : IsWholeFamily family) :
    Value.fontStack (fontFamilyCss family) = [family, "sans-serif"] := by
  obtain ⟨hcomma, htrimmed, hfirst, hlast⟩ := hwhole
  obtain ⟨c, hc, -⟩ := (Validation.isFontFamily_iff.1 h).1
  have hne : family.toList ≠ [] := List.ne_nil_of_mem hc
  have hquote : '"' ∉ family.toList := Validation.not_mem_of_isFontFamily h (.inl rfl)
  have hends {c : Char} (hc : c ∈ family.toList) (hsingle : c ≠ '\'') :
      (c == '"' || c == '\'') = false := by
    rw [Bool.or_eq_false_iff, beq_eq_false_iff_ne, beq_eq_false_iff_ne]
    exact ⟨ne_of_mem_of_not_mem hc hquote, hsingle⟩
  have hpiece : Text.trim (Value.withoutQuotes (Text.trim ('"' :: family.toList ++ ['"']))) =
      family.toList := by
    have hquoted : Text.IsTrimmed ('"' :: family.toList ++ ['"']) :=
      Text.IsTrimmed.append_concat (a := ['"']) (by decide) (by decide) (by decide) family.toList
    rw [hquoted.trim_eq_self, withoutQuotes_quoted hne ?_ ?_, htrimmed.trim_eq_self]
    · exact fun c hc => hends (List.mem_of_mem_head? hc) fun heq => hfirst (heq ▸ hc)
    · exact fun c hc => hends (List.mem_of_getLast? hc) fun heq => hlast (heq ▸ hc)
  have hgeneric : Text.trim (Value.withoutQuotes (Text.trim " sans-serif".toList)) =
      "sans-serif".toList := by
    decide
  have hkept : [family.toList, "sans-serif".toList].filter (· ≠ []) =
      [family.toList, "sans-serif".toList] := by
    refine List.filter_eq_self.2 ?_
    rw [List.forall_mem_cons, List.forall_mem_singleton]
    exact ⟨decide_eq_true hne, by decide⟩
  rw [Value.fontStack, splitBy_fontFamilyCss hcomma, List.map_cons, List.map_singleton, hpiece,
    hgeneric, hkept, List.map_cons, List.map_singleton, String.ofList_toList, String.ofList_toList]

/-- A condition on font families, as one on all values. -/
def Property.OnFamily (P : String → Prop) : (q : Property) → q.Value → Prop
  | .fontFamily, family => P family
  | _, _ => True

/-- A condition on font families concerns the one that a style sets. -/
theorem Style.meets_onFamily_iff {P : String → Prop} {s : Style} :
    s.Meets (Property.OnFamily P) ↔ ∀ family ∈ s.fontFamily, P family := by
  refine ⟨fun h family hfamily => h .fontFamily family hfamily, fun h q x hx => ?_⟩
  cases q with
  | fontFamily => exact h x hx
  | _ => trivial

/-- Completing leaves the font family. -/
theorem Style.fontFamily_completed (s : Style) : s.completed.fontFamily = s.fontFamily :=
  s.get_completed_of_owner_ne (p := .fontFamily) (fun _ => nofun) (by decide)

namespace Element

variable {e : Element}

/-- What is in force anywhere is in force at the base or where the element has a layer. -/
theorem exists_layer_of_resolvedStyle (e : Element) (b : Breakpoint) : ∃ c : Breakpoint,
    (c.isBase || (e.responsive.get c).isSome) = true ∧ e.resolvedStyle c = e.resolvedStyle b := by
  induction b using Breakpoint.widestFirst with
  | base => exact ⟨.monitor, rfl, rfl⟩
  | step b w hw ih =>
    cases hlayer : e.responsive.get b with
    | some layer => exact ⟨b, by rw [hlayer, Option.isSome_some, Bool.or_true], rfl⟩
    | none =>
      obtain ⟨c, hc, hsame⟩ := ih
      refine ⟨c, hc, hsame.trans ?_⟩
      rw [resolvedStyle, resolvedStyle, Cascade.resolve_eq_cover _ _ hw, hlayer]
      rfl

/-- Font families in force meet what those of the base style and of the layers do. -/
theorem fontFamily_resolvedStyle {P : String → Prop}
    (h : ∀ s ∈ e.styles, ∀ family ∈ s.fontFamily, P family) (b : Breakpoint) :
    ∀ family ∈ (e.resolvedStyle b).fontFamily, P family :=
  Style.meets_onFamily_iff.1
    (meets_resolvedStyle (fun s hs => Style.meets_onFamily_iff.2 (h s hs)) b)

/-- The family in force is declared. -/
theorem get?_fontFamily (e : Element) (b : Breakpoint) :
    (e.declarationsAt b none).get? "font-family" =
      (e.resolvedStyle b).fontFamily.map fontFamilyCss := by
  rw [declarationsAt_none, ← Style.fontFamily_completed]
  exact Style.get?_declarations _ .fontFamily

end Element

end Sitework
