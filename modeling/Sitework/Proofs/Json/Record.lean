import Mathlib.Data.List.Nodup
import Sitework.Json.Record

/-!
# Fields that were written are found

The values given for a field are those of its members, in order. A field that was written once, or
left out, is read as it was.
-/

namespace Sitework.Json.Members

@[simp] theorem values_nil (name : String) : values [] name = [] := rfl

@[simp] theorem values_cons (key : String) (value : Json) (members : Members) (name : String) :
    values ((key, value) :: members) name =
      if key = name then value :: values members name else values members name := by
  by_cases h : key = name <;> simp [values, h]

/-- The values of a name in a row of members come before those in the next. -/
@[simp] theorem values_append (members more : Members) (name : String) :
    values (members ++ more) name = values members name ++ values more name :=
  List.filterMap_append

/-- An optional member gives its value to its own name only. -/
@[simp] theorem values_optionalMember (key : String) (value : Option Json) (name : String) :
    values (optionalMember key value) name = if key = name then value.toList else [] := by
  cases value <;> simp [optionalMember]

/-- Of members under different keys a key has its own. -/
theorem values_flatMap_optionalMember {ι : Type} {fields : List ι} {key : ι → String}
    (h : (fields.map key).Nodup) {field : ι} (hfield : field ∈ fields)
    (value : ι → Option Json) :
    values (fields.flatMap fun f => optionalMember (key f) (value f)) (key field) =
      (value field).toList := by
  have hnone (others : List ι) (hothers : key field ∉ others.map key) :
      values (others.flatMap fun f => optionalMember (key f) (value f)) (key field) = [] := by
    induction others with
    | nil => rfl
    | cons other others ih =>
      simp only [List.map_cons, List.mem_cons, not_or] at hothers
      rw [List.flatMap_cons, values_append, values_optionalMember, if_neg (Ne.symm hothers.1),
        ih hothers.2, List.append_nil]
  induction fields with
  | nil => exact absurd hfield List.not_mem_nil
  | cons first fields ih =>
    rw [List.map_cons, List.nodup_cons] at h
    rw [List.flatMap_cons, values_append, values_optionalMember]
    rcases List.mem_cons.1 hfield with rfl | hmem
    · rw [if_pos rfl, hnone fields h.1, List.append_nil]
    · have hne : key first ≠ key field := fun heq => h.1 (heq ▸ List.mem_map_of_mem hmem)
      rw [if_neg hne, ih h.2 hmem, List.nil_append]

variable {α : Type} {members : Members} {name : String} {decode : Json → Option α}
  {encode : α → Json}

/-- A required field is decoded from the one value that its name has. -/
theorem required?_of_values {value : Json} (h : members.values name = [value]) :
    members.required? name decode = decode value := by
  rw [required?, h]

/-- A field that was written, or left out if it has no value, is read as it was. -/
theorem optional?_of_values {value : Option α}
    (h : members.values name = (value.map encode).toList)
    (hread : ∀ x, value = some x → decode (encode x) = some x ∧ encode x ≠ .null) :
    members.optional? name decode = some value := by
  cases value with
  | none => rw [optional?, h]; rfl
  | some x =>
    obtain ⟨hdecode, hnull⟩ := hread x rfl
    rw [optional?, h, Option.map_some, Option.toList_some]
    split
    · exact absurd ‹_› (List.cons_ne_nil _ _)
    · next heq => exact absurd (List.cons.inj heq).1 hnull
    · next heq =>
      obtain ⟨rfl, -⟩ := List.cons.inj heq
      rw [hdecode, Option.map_some]
    · next heq => exact absurd rfl (heq _)

/-- So is a field with a default. -/
theorem withDefault?_of_values {default : α} {value : Json} (h : members.values name = [value]) :
    members.withDefault? name default decode = decode value := by
  rw [withDefault?, h]

/-- Without a value it has its default. -/
theorem withDefault?_of_nil {default : α} (h : members.values name = []) :
    members.withDefault? name default decode = some default := by
  rw [withDefault?, h]

/-- The values of a name are values of members. -/
theorem exists_of_mem_values {value : Json} (h : value ∈ members.values name) :
    ∃ member ∈ members, member.2 = value := by
  obtain ⟨⟨key, given⟩, hmember, hvalue⟩ := List.mem_filterMap.1 h
  refine ⟨(key, given), hmember, ?_⟩
  simp only at hvalue
  split at hvalue
  · exact Option.some.inj hvalue
  · cases hvalue

/-- A field that has a value is read from one of the members. -/
theorem exists_of_optional? {x : α} (h : members.optional? name decode = some (some x)) :
    ∃ member ∈ members, decode member.2 = some x := by
  unfold optional? at h
  split at h
  · cases h
  · cases h
  · next value _ hvalues =>
    obtain ⟨member, hmember, rfl⟩ := exists_of_mem_values (hvalues ▸ List.mem_singleton_self value)
    obtain ⟨y, hy, heq⟩ := Option.map_eq_some_iff.1 h
    exact ⟨member, hmember, Option.some.inj heq ▸ hy⟩
  · cases h

/-- A field that may be left out is read from one of the members unless it is. -/
theorem exists_of_withDefault? {default x : α}
    (h : members.withDefault? name default decode = some x) :
    x = default ∨ ∃ member ∈ members, decode member.2 = some x := by
  unfold withDefault? at h
  split at h
  · exact .inl (Option.some.inj h).symm
  · next value hvalues =>
    obtain ⟨member, hmember, rfl⟩ := exists_of_mem_values (hvalues ▸ List.mem_singleton_self value)
    exact .inr ⟨member, hmember, h⟩
  · cases h

end Sitework.Json.Members
