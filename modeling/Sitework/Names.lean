import Sitework.OrderedMap

/-!
# Lists of names

Names without repetition, in order of their first place or in alphabetical order. Alphabetical
order compares code points.
-/

namespace Sitework.Names

/-- The names without those that occur before. -/
def distinct (names : List String) : List String :=
  names.foldl (fun seen name => if seen.contains name then seen else seen ++ [name]) []

/-- The names other than a given one. -/
def without (names : List String) (name : String) : List String :=
  names.filter (· ≠ name)

/-- A list without one of its names is shorter. -/
theorem length_without_lt {names : List String} {name : String} (h : name ∈ names) :
    (without names name).length < names.length := by
  rw [without, List.length_filter_lt_length_iff_exists]
  exact ⟨name, h, by simp⟩

@[simp] theorem mem_without {names : List String} {name other : String} :
    other ∈ without names name ↔ other ∈ names ∧ other ≠ name := by
  simp [without]

/-- The names in alphabetical order, each once. -/
def sorted (names : List String) : List String :=
  (distinct names).mergeSort fun a b => decide (a ≤ b)

end Sitework.Names

namespace Sitework.OrderedMap

/-- The entries in alphabetical order of their keys. -/
def sorted {α : Type} (m : OrderedMap α) : OrderedMap α where
  entries := m.entries.mergeSort fun a b => decide (a.1 ≤ b.1)
  nodup := (((List.mergeSort_perm _ _).map Prod.fst).nodup_iff).2 m.nodup

end Sitework.OrderedMap
