import Mathlib.Data.List.Nodup
import Sitework.Names
import Sitework.Proofs.OrderedMap

/-!
# Lists of names and alphabetical order

A list without repetition has the names of the list, each once, and a map in alphabetical order
finds what it found before.
-/

namespace Sitework

namespace Names

/-- The names with one more at the end, unless it is there already. -/
def add (names : List String) (name : String) : List String :=
  if names.contains name then names else names ++ [name]

/-- A name that is there is not added again. -/
theorem add_of_mem {names : List String} {name : String} (h : name ∈ names) :
    add names name = names :=
  if_pos (List.contains_iff_mem.2 h)

/-- A new name is added at the end. -/
theorem add_of_not_mem {names : List String} {name : String} (h : name ∉ names) :
    add names name = names ++ [name] :=
  if_neg fun hcontains => h (List.contains_iff_mem.1 hcontains)

@[simp] theorem mem_add {names : List String} {name other : String} :
    other ∈ add names name ↔ other ∈ names ∨ other = name := by
  by_cases h : name ∈ names
  · rw [add_of_mem h, or_iff_left_of_imp]
    rintro rfl
    exact h
  · rw [add_of_not_mem h, List.mem_append, List.mem_singleton]

/-- Names stay distinct. -/
theorem nodup_add {names : List String} (h : names.Nodup) (name : String) :
    (add names name).Nodup := by
  by_cases hmem : name ∈ names
  · rwa [add_of_mem hmem]
  · rw [add_of_not_mem hmem, List.nodup_append]
    refine ⟨h, List.nodup_singleton name, ?_⟩
    rintro first hfirst other hother rfl
    exact hmem (List.mem_singleton.1 hother ▸ hfirst)

/-- The names of a list are added one after the other. -/
theorem distinct_eq_foldl (names : List String) : distinct names = names.foldl add [] := rfl

/-- Adding names one by one gives all of them. -/
theorem mem_foldl_add {seen names : List String} {name : String} :
    name ∈ names.foldl add seen ↔ name ∈ seen ∨ name ∈ names := by
  induction names generalizing seen with
  | nil => simp
  | cons first names ih => rw [List.foldl_cons, ih, mem_add, List.mem_cons, or_assoc]

/-- They stay distinct. -/
theorem nodup_foldl_add {seen : List String} (h : seen.Nodup) (names : List String) :
    (names.foldl add seen).Nodup := by
  induction names generalizing seen with
  | nil => exact h
  | cons first names ih => exact ih (nodup_add h first)

/-- Names that are there keep their places. -/
theorem prefix_foldl_add (seen names : List String) : seen <+: names.foldl add seen := by
  induction names generalizing seen with
  | nil => exact List.prefix_rfl
  | cons first names ih =>
    have hadd : seen <+: add seen first := by
      rw [add]
      split
      · exact List.prefix_rfl
      · exact List.prefix_append _ _
    exact hadd.trans (ih _)

/-- So the distinct names of a list are. -/
theorem nodup_distinct (names : List String) : (distinct names).Nodup :=
  nodup_foldl_add List.nodup_nil names

@[simp] theorem mem_distinct {names : List String} {name : String} :
    name ∈ distinct names ↔ name ∈ names := by
  rw [distinct_eq_foldl, mem_foldl_add]
  simp

@[simp] theorem mem_sorted {names : List String} {name : String} :
    name ∈ sorted names ↔ name ∈ names := by
  rw [sorted, (List.mergeSort_perm _ _).mem_iff, mem_distinct]

end Names

namespace OrderedMap

variable {α : Type}

/-- A map has the same entries in alphabetical order. -/
theorem mem_entries_sorted {m : OrderedMap α} {entry : String × α} :
    entry ∈ m.sorted.entries ↔ entry ∈ m.entries :=
  (List.mergeSort_perm _ _).mem_iff

/-- A map finds the same in alphabetical order. -/
@[simp] theorem get?_sorted (m : OrderedMap α) (key : String) :
    m.sorted.get? key = m.get? key := by
  apply Option.ext
  intro value
  rw [get?_eq_some_iff, get?_eq_some_iff, mem_entries_sorted]

end OrderedMap

end Sitework
