import Sitework.Proofs.Json.Record
import Sitework.Proofs.Json.Token
import Sitework.Proofs.Style.Accepted
import Sitework.Style.Breakpoint

/-!
# The stored form of styles

A style and its layers are read back from their stored form, value by value. The stored form holds
no numbers but those of the values.
-/

namespace Sitework

open Json (Members)

/-- A choice is found under its stored name. -/
theorem Keyword.ofJson?_toJson {α : Type} [Keyword α] (form : Json.ChoiceForm) {x : α}
    (h : ofStored? (stored x) = some x) : ofJson? form (toJson x) = some x :=
  h

namespace Property

/-- A value is read from its stored form. -/
theorem ofJson?_toJson (form : Json.ChoiceForm) (p : Property) (x : p.Value) :
    p.ofJson? form (p.toJson x) = some x := by
  cases p with
  | length q => cases x <;> rfl
  | color q => rfl
  | fontFamily => rfl
  | fontSize => cases x <;> rfl
  | trackCount a =>
    have hx := UInt32.toNat_lt x
    have hvalue : Json.integer? 0 (2 ^ 32 - 1) (.integer (UInt32.toNat x)) =
        some (UInt32.toNat x : Int) := if_pos (by omega)
    change (Json.integer? 0 (2 ^ 32 - 1) (.integer (UInt32.toNat x))).map _ = some x
    rw [hvalue, Option.map_some, Int.toNat_natCast, UInt32.ofNat_toNat]
  | trackSize a => cases x <;> rfl
  | transform q => rfl
  | zIndex =>
    have hlow := Int32.le_toInt x
    have hhigh := Int32.toInt_lt x
    have hvalue : Json.integer? (-(2 ^ 31)) (2 ^ 31 - 1) (.integer (Int32.toInt x)) =
        some (Int32.toInt x) := if_pos (by omega)
    change (Json.integer? (-(2 ^ 31)) (2 ^ 31 - 1) (.integer (Int32.toInt x))).map _ = some x
    rw [hvalue, Option.map_some, Int32.ofInt_toInt]
  | borderStyle => cases x <;> exact Keyword.ofJson?_toJson form rfl
  | fontWeight => cases x <;> exact Keyword.ofJson?_toJson form rfl
  | textAlign => cases x <;> exact Keyword.ofJson?_toJson form rfl
  | display => cases x <;> exact Keyword.ofJson?_toJson form rfl
  | flexDirection => cases x <;> exact Keyword.ofJson?_toJson form rfl
  | alignItems => cases x <;> exact Keyword.ofJson?_toJson form rfl
  | justifyContent => cases x <;> exact Keyword.ofJson?_toJson form rfl
  | position => cases x <;> exact Keyword.ofJson?_toJson form rfl

/-- A value is not stored as `null`. -/
theorem toJson_ne_null (p : Property) (x : p.Value) : p.toJson x ≠ .null := by
  cases p with
  | length q => cases x <;> exact Json.noConfusion
  | fontSize => cases x <;> exact Json.noConfusion
  | trackSize a => cases x <;> exact Json.noConfusion
  | _ => exact Json.noConfusion

/-- A stored value holds the numbers of the value. -/
theorem within_toJson {P : Binary64 → Prop} {p : Property} {x : p.Value}
    (h : ∀ n ∈ p.numbers x, P n) (depth : Nat) : (p.toJson x).Within P depth := by
  cases p with
  | length q =>
    cases x with
    | px n => exact .number _ (h n List.mem_cons_self)
    | _ => exact .string _ _
  | fontSize =>
    cases x with
    | px n => exact .number _ (h n List.mem_cons_self)
    | inherit => exact .string _ _
  | trackSize a =>
    cases x with
    | px n => exact .number _ (h n List.mem_cons_self)
    | auto => exact .string _ _
  | transform q => exact .number _ (h x List.mem_cons_self)
  | trackCount a =>
    have hx := UInt32.toNat_lt x
    exact .integer _ (by omega) (by omega)
  | zIndex =>
    have hlow := Int32.le_toInt x
    have hhigh := Int32.toInt_lt x
    exact .integer _ (by omega) (by omega)
  | _ => exact .string _ _

theorem nodup_keys : (all.map key).Nodup := by
  decide

end Property

namespace Style

/-- The numbers in a style. -/
def numbers (s : Style) : List Binary64 :=
  Property.all.flatMap fun p => (s.get p).toList.flatMap p.numbers

theorem mem_numbers {s : Style} {p : Property} {x : p.Value} (h : s.get p = some x)
    {n : Binary64} (hn : n ∈ p.numbers x) : n ∈ s.numbers := by
  refine List.mem_flatMap.2 ⟨p, p.mem_all, ?_⟩
  rw [h, Option.toList_some, List.flatMap_singleton]
  exact hn

/-- Setting the values of some properties one after the other. -/
private theorem exists_foldlM {read : Style → Property → Option Style} {s : Style}
    (hread : ∀ t p, read t p = some (match s.get p with
      | some x => t.set p x
      | none => t)) (ps : List Property) (t : Style) :
    ∃ u, ps.foldlM read t = some u ∧
      ∀ q, u.get q = if q ∈ ps ∧ (s.get q).isSome then s.get q else t.get q := by
  induction ps generalizing t with
  | nil => exact ⟨t, rfl, fun q => by simp⟩
  | cons p ps ih =>
    rw [List.foldlM_cons, hread, Option.bind_eq_bind, Option.bind_some]
    cases hp : s.get p with
    | none =>
      obtain ⟨u, hu, hget⟩ := ih t
      refine ⟨u, hu, fun q => ?_⟩
      rw [hget]
      by_cases hq : q = p
      · subst hq
        simp [hp]
      · simp [hq]
    | some x =>
      obtain ⟨u, hu, hget⟩ := ih (t.set p x)
      refine ⟨u, hu, fun q => ?_⟩
      rw [hget]
      by_cases hq : q = p
      · subst hq
        simp [hp, get_set_self]
      · simp [hq, get_set_of_ne t x (Ne.symm hq)]

/-- A style is read from its stored form. -/
theorem ofJson?_toJson (form : Json.ChoiceForm) (s : Style) : ofJson? form s.toJson = some s := by
  let members : Members :=
    Property.all.flatMap fun p => Json.optionalMember p.key ((s.get p).map p.toJson)
  have hkeys : (members.all fun member => (Property.all.map Property.key).contains member.1) =
      true := by
    rw [List.all_eq_true]
    intro member hmember
    obtain ⟨p, hp, hmember⟩ := List.mem_flatMap.1 hmember
    obtain ⟨value, -, rfl⟩ := List.mem_map.1 hmember
    exact List.contains_iff_mem.2 (List.mem_map_of_mem hp)
  have hoptional (p : Property) :
      members.optional? p.key (p.ofJson? form) = some (s.get p) := by
    refine Json.Members.optional?_of_values ?_ fun x _ => ⟨p.ofJson?_toJson form x,
      p.toJson_ne_null x⟩
    exact Json.Members.values_flatMap_optionalMember Property.nodup_keys p.mem_all _
  let read (t : Style) (p : Property) : Option Style := do
    match ← members.optional? p.key (p.ofJson? form) with
    | some x => return t.set p x
    | none => return t
  have hread (t : Style) (p : Property) : read t p = some (match s.get p with
      | some x => t.set p x
      | none => t) := by
    simp only [read, hoptional]
    cases s.get p <;> rfl
  obtain ⟨u, hu, hget⟩ := exists_foldlM hread Property.all empty
  have hsame : u = s := by
    refine ext_get fun p => ?_
    rw [hget, get_empty]
    cases hp : s.get p with
    | none => simp
    | some x => simp [p.mem_all]
  calc ofJson? form s.toJson
    _ = if members.all fun member => (Property.all.map Property.key).contains member.1 then
          Property.all.foldlM read empty
        else none := rfl
    _ = some s := by rw [if_pos hkeys, hu, hsame]

/-- A stored style holds the numbers of the style. -/
theorem within_toJson {P : Binary64 → Prop} {s : Style} (h : ∀ n ∈ s.numbers, P n) :
    s.toJson.Within P 1 := by
  refine .object fun member hmember => ?_
  obtain ⟨p, -, hmember⟩ := List.mem_flatMap.1 hmember
  obtain ⟨value, hvalue, rfl⟩ := List.mem_map.1 hmember
  obtain ⟨x, hx, rfl⟩ := Option.map_eq_some_iff.1 (Option.mem_toList.1 hvalue)
  exact Property.within_toJson (fun n hn => h n (mem_numbers hx hn)) 0

end Style

namespace Overrides

private theorem ofName?_name (b : Breakpoint) : Breakpoint.ofName? b.name = some b := by
  cases b <;> rfl

/-- Setting the layers of some classes one after the other. -/
private theorem exists_foldlM {read : Overrides → String × Json → Option Overrides}
    {layers : Overrides} (hread : ∀ (t : Overrides) b layer, layers.get b = some layer →
      read t (b.name, layer.toJson) = some (t.set b (some layer)))
    (bs : List Breakpoint) (t : Overrides) :
    ∃ u, (bs.filterMap fun b => (layers.get b).map fun layer => (b.name, layer.toJson)).foldlM
        read t = some u ∧
      ∀ c, u.get c = if c ∈ bs ∧ (layers.get c).isSome then layers.get c else t.get c := by
  induction bs generalizing t with
  | nil => exact ⟨t, rfl, fun c => by simp⟩
  | cons b bs ih =>
    cases hb : layers.get b with
    | none =>
      obtain ⟨u, hu, hget⟩ := ih t
      refine ⟨u, by simpa [List.filterMap_cons, hb] using hu, fun c => ?_⟩
      rw [hget]
      by_cases hc : c = b
      · subst hc
        simp [hb]
      · simp [hc]
    | some layer =>
      obtain ⟨u, hu, hget⟩ := ih (t.set b (some layer))
      refine ⟨u, by simpa [List.filterMap_cons, hb, hread t b layer hb] using hu, fun c => ?_⟩
      rw [hget, Layers.get_set]
      by_cases hc : c = b
      · subst hc
        simp [hb]
      · simp [hc]

/-- Layers are read from their stored form. -/
theorem ofJson?_toJson (form : Json.ChoiceForm) (layers : Overrides) :
    ofJson? form (toJson layers) = some layers := by
  let read (t : Overrides) (member : String × Json) : Option Overrides := do
    return t.set (← Breakpoint.ofName? member.1) (some (← Style.ofJson? form member.2))
  have hread (t : Overrides) (b : Breakpoint) (layer : Style) (_ : layers.get b = some layer) :
      read t (b.name, layer.toJson) = some (t.set b (some layer)) := by
    simp [read, ofName?_name, Style.ofJson?_toJson]
  obtain ⟨u, hu, hget⟩ := exists_foldlM hread Breakpoint.all Layers.empty
  have hsame : u = layers := by
    refine Layers.ext_get fun b => ?_
    rw [hget, Layers.get_empty]
    cases hb : layers.get b with
    | none => simp
    | some layer => simp [b.mem_all]
  have hentries : (layers.entries.map fun entry => (entry.1.name, entry.2.toJson)) =
      Breakpoint.all.filterMap fun b => (layers.get b).map fun layer => (b.name, layer.toJson) := by
    rw [Layers.entries, List.map_filterMap]
    refine List.filterMap_congr fun b _ => ?_
    rw [Option.map_map]
    rfl
  calc ofJson? form (toJson layers)
    _ = (layers.entries.map fun entry => (entry.1.name, entry.2.toJson)).foldlM read
          Layers.empty := rfl
    _ = some layers := by rw [hentries, hu, hsame]

/-- Stored layers hold the numbers of the layers. -/
theorem within_toJson {P : Binary64 → Prop} {layers : Overrides}
    (h : ∀ entry ∈ layers.entries, ∀ n ∈ entry.2.numbers, P n) : (toJson layers).Within P 2 := by
  refine .object fun member hmember => ?_
  obtain ⟨entry, hentry, rfl⟩ := List.mem_map.1 hmember
  exact Style.within_toJson (h entry hentry)

end Overrides

end Sitework
