import Mathlib.Data.List.Nodup
import Sitework.OrderedMap

/-!
# Ordered maps and their entries

An ordered map and the row of its entries say the same: a value is found under a key exactly if
the two are an entry, and a row without a repeated key is the row of the map made of it.
-/

namespace Sitework.OrderedMap

variable {α β : Type}

/-- With distinct keys, what is found for a key is what is listed with it. -/
theorem findEntry?_eq_some_iff {entries : List (String × α)} (h : (entries.map Prod.fst).Nodup)
    {key : String} {value : α} : findEntry? key entries = some value ↔ (key, value) ∈ entries := by
  induction entries with
  | nil => exact ⟨nofun, nofun⟩
  | cons entry rest ih =>
    obtain ⟨first, x⟩ := entry
    simp only [List.map_cons, List.nodup_cons] at h
    by_cases hkey : first = key
    · subst hkey
      have hrest : (first, value) ∉ rest := fun hmem =>
        h.1 (List.mem_map.2 ⟨_, hmem, rfl⟩)
      simp [hrest, findEntry?, eq_comm]
    · simp [hkey, findEntry?, Ne.symm hkey, ih h.2]

/-- A value is found under a key exactly if the two are an entry. -/
theorem get?_eq_some_iff {m : OrderedMap α} {key : String} {value : α} :
    m.get? key = some value ↔ (key, value) ∈ m.entries :=
  findEntry?_eq_some_iff m.nodup

/-- What is found is a value of the map. -/
theorem mem_values_of_get? {m : OrderedMap α} {key : String} {value : α}
    (h : m.get? key = some value) : value ∈ m.values :=
  List.mem_map.2 ⟨_, get?_eq_some_iff.1 h, rfl⟩

/-- Nothing is found for a key that is not listed. -/
theorem findEntry?_eq_none_iff {entries : List (String × α)} {key : String} :
    findEntry? key entries = none ↔ key ∉ entries.map Prod.fst := by
  induction entries with
  | nil => exact ⟨fun _ => List.not_mem_nil, fun _ => rfl⟩
  | cons entry rest ih =>
    by_cases hkey : entry.1 = key
    · simp [hkey, findEntry?]
    · simp [hkey, findEntry?, ih, Ne.symm hkey]

theorem get?_eq_none_iff {m : OrderedMap α} {key : String} :
    m.get? key = none ↔ key ∉ m.keys :=
  findEntry?_eq_none_iff

/-- Maps with the same entries have the same values, whatever their order. -/
theorem get?_of_perm {m n : OrderedMap α} (h : m.entries.Perm n.entries) (key : String) :
    m.get? key = n.get? key := by
  ext value
  rw [get?_eq_some_iff, get?_eq_some_iff, h.mem_iff]

/-- A new key is put at the end. -/
theorem insertEntry_of_not_mem {key : String} {entries : List (String × α)}
    (h : key ∉ entries.map Prod.fst) (value : α) :
    insertEntry key value entries = entries ++ [(key, value)] := by
  induction entries with
  | nil => rfl
  | cons entry rest ih =>
    simp only [List.map_cons, List.mem_cons, not_or] at h
    rw [insertEntry, if_neg (Ne.symm h.1), ih h.2, List.cons_append]

/-- Entries under new keys are added in order. -/
theorem entries_insertAll (m : OrderedMap α) {entries : List (String × α)}
    (h : ((m.entries ++ entries).map Prod.fst).Nodup) :
    (m.insertAll entries).entries = m.entries ++ entries := by
  induction entries generalizing m with
  | nil => simp [insertAll]
  | cons entry rest ih =>
    have hnew : entry.1 ∉ m.entries.map Prod.fst := by
      rw [List.map_append, List.nodup_append] at h
      exact fun hmem => h.2.2 _ hmem _ (by simp) rfl
    have hinsert : (m.insert entry.1 entry.2).entries = m.entries ++ [entry] :=
      insertEntry_of_not_mem hnew entry.2
    have hrest := ih (m.insert entry.1 entry.2) (by rw [hinsert]; simpa using h)
    rw [hinsert, List.append_assoc] at hrest
    exact hrest

/-- The map of entries without a repeated key has these entries. -/
theorem entries_ofList {entries : List (String × α)} (h : (entries.map Prod.fst).Nodup) :
    (ofList entries).entries = entries :=
  entries_insertAll empty h

/-- Entries under new keys come last. -/
theorem keys_insertAll {m : OrderedMap α} {entries : List (String × α)}
    (h : (m.keys ++ entries.map Prod.fst).Nodup) :
    (m.insertAll entries).keys = m.keys ++ entries.map Prod.fst := by
  rw [keys, entries_insertAll m (by rwa [List.map_append]), List.map_append]
  rfl

/-- Distinct keys are kept in order. -/
theorem keys_ofList {entries : List (String × α)} (h : (entries.map Prod.fst).Nodup) :
    (ofList entries).keys = entries.map Prod.fst := by
  rw [keys, entries_ofList h]

/-- The keys are those that were there and those that are inserted. -/
theorem mem_keys_insertAll {m : OrderedMap α} {entries : List (String × α)} {key : String} :
    key ∈ (m.insertAll entries).keys ↔ key ∈ m.keys ∨ key ∈ entries.map Prod.fst := by
  induction entries generalizing m with
  | nil => exact (or_iff_left List.not_mem_nil).symm
  | cons entry entries ih =>
    change key ∈ ((m.insert entry.1 entry.2).insertAll entries).keys ↔ _
    rw [ih, keys_insert, List.map_cons, List.mem_cons, ← or_assoc]
    refine or_congr_left ?_
    split
    · next hmem =>
      rw [or_iff_left_of_imp]
      rintro rfl
      exact hmem
    · rw [List.mem_append, List.mem_singleton]

/-- No key of a list is lost. -/
theorem mem_keys_ofList {entries : List (String × α)} {key : String} :
    key ∈ (ofList entries).keys ↔ key ∈ entries.map Prod.fst :=
  mem_keys_insertAll.trans (or_iff_right List.not_mem_nil)

/-- Entries may be inserted in two parts. -/
theorem insertAll_append (m : OrderedMap α) (entries more : List (String × α)) :
    m.insertAll (entries ++ more) = (m.insertAll entries).insertAll more :=
  List.foldl_append

/-- So they may in any number of parts. -/
theorem insertAll_flatMap (m : OrderedMap α) {ι : Type} (xs : List ι)
    (entriesOf : ι → List (String × α)) :
    m.insertAll (xs.flatMap entriesOf) = xs.foldl (fun m x => m.insertAll (entriesOf x)) m :=
  List.foldl_flatMap

/-- Inserted entries come before what was in the map. -/
theorem get?_insertAll (m : OrderedMap α) {entries : List (String × α)}
    (h : (entries.map Prod.fst).Nodup) (key : String) :
    (m.insertAll entries).get? key = ( findEntry? key entries).or (m.get? key) := by
  induction entries generalizing m with
  | nil => rfl
  | cons entry rest ih =>
    rw [List.map_cons, List.nodup_cons] at h
    change ((m.insert entry.1 entry.2).insertAll rest).get? key = _
    rw [ih _ h.2, get?_insert, findEntry?]
    by_cases hkey : entry.1 = key
    · subst hkey
      rw [if_pos rfl, if_pos rfl, findEntry?_eq_none_iff.2 h.1]
      rfl
    · rw [if_neg hkey, if_neg (Ne.symm hkey)]

/-- A map made of the entries of a map is that map. -/
theorem ofList_entries (m : OrderedMap α) : ofList m.entries = m :=
  ext (entries_ofList m.nodup)

/-- A new key comes last. -/
theorem entries_insert_of_not_mem {m : OrderedMap α} {key : String} (h : key ∉ m.keys) (value : α) :
    (m.insert key value).entries = m.entries ++ [(key, value)] :=
  insertEntry_of_not_mem h value

@[simp] theorem contains_iff {m : OrderedMap α} {key : String} :
    m.contains key = true ↔ key ∈ m.keys := by
  rw [contains, Option.isSome_iff_ne_none, ne_eq, get?_eq_none_iff, not_not]

/-- Every key has a value. -/
theorem exists_get?_of_mem_keys {m : OrderedMap α} {key : String} (h : key ∈ m.keys) :
    ∃ value, m.get? key = some value :=
  Option.ne_none_iff_exists'.1 fun hnone => get?_eq_none_iff.1 hnone h

theorem entries_map (f : α → β) (m : OrderedMap α) :
    (m.map f).entries = m.entries.map fun entry => (entry.1, f entry.2) := rfl

/-- A map with other values finds these. -/
@[simp] theorem get?_map (f : α → β) (m : OrderedMap α) (key : String) :
    (m.map f).get? key = (m.get? key).map f := by
  obtain ⟨entries, hnodup⟩ := m
  change findEntry? key (entries.map fun entry => (entry.1, f entry.2)) =
    ( findEntry? key entries).map f
  clear hnodup
  induction entries with
  | nil => rfl
  | cons entry rest ih =>
    rw [List.map_cons, findEntry?, findEntry?, ih]
    split <;> rfl

/-- An inserted value is one of the other values as well. -/
theorem map_insert (f : α → β) (m : OrderedMap α) (key : String) (value : α) :
    (m.insert key value).map f = (m.map f).insert key (f value) := by
  apply ext
  change (insertEntry key value m.entries).map (fun entry => (entry.1, f entry.2)) =
    insertEntry key (f value) (m.entries.map fun entry => (entry.1, f entry.2))
  induction m.entries with
  | nil => rfl
  | cons entry rest ih =>
    rw [List.map_cons, insertEntry, insertEntry, ← ih]
    split <;> rfl

/-- Inserting a value that is there changes nothing. -/
theorem insertEntry_eq_self {key : String} {value : α} {entries : List (String × α)}
    (h : findEntry? key entries = some value) : insertEntry key value entries = entries := by
  induction entries with
  | nil => cases h
  | cons entry rest ih =>
    unfold findEntry? at h
    rw [insertEntry]
    split at h
    · next hkey => rw [if_pos hkey, ← hkey, ← Option.some_inj.1 h]
    · next hkey => rw [if_neg hkey, ih h]

/-- The value that a key has is in place. -/
theorem insert_of_get?_eq_some {m : OrderedMap α} {key : String} {value : α}
    (h : m.get? key = some value) : m.insert key value = m :=
  ext (insertEntry_eq_self h)

/-- If no value is repeated, a value is found under one key only. -/
theorem eq_of_get?_eq {m : OrderedMap α} (h : m.values.Nodup) {a b : String} {value : α}
    (ha : m.get? a = some value) (hb : m.get? b = some value) : a = b := by
  have heq := List.inj_on_of_nodup_map h (get?_eq_some_iff.1 ha) (get?_eq_some_iff.1 hb) rfl
  exact congrArg Prod.fst heq

/-- A map with other values has the same keys. -/
@[simp] theorem keys_map (f : α → β) (m : OrderedMap α) : (m.map f).keys = m.keys := by
  rw [keys, map, List.map_map]
  rfl

/-- A filtered map has the values that satisfy the condition. -/
@[simp] theorem get?_filter (m : OrderedMap α) (p : String → α → Bool) (key : String) :
    (m.filter p).get? key = (m.get? key).filter (p key) := by
  ext value
  rw [get?_eq_some_iff, filter, List.mem_filter, Option.filter_eq_some_iff, get?_eq_some_iff]

/-- Inserting a value adds no other one. -/
theorem snd_mem_insertEntry {key : String} {value x : α} {entries : List (String × α)}
    (h : x ∈ (insertEntry key value entries).map Prod.snd) :
    x = value ∨ x ∈ entries.map Prod.snd := by
  induction entries with
  | nil => exact .inl (List.mem_singleton.1 h)
  | cons entry rest ih =>
    rw [insertEntry] at h
    split at h
    · exact (List.mem_cons.1 h).imp_right (List.mem_cons_of_mem _)
    · rcases List.mem_cons.1 h with rfl | h
      · exact .inr List.mem_cons_self
      · exact (ih h).imp_right (List.mem_cons_of_mem _)

/-- The values of the map of some entries are among those of the entries. -/
theorem snd_mem_of_mem_values_ofList {entries : List (String × α)} {x : α}
    (h : x ∈ (ofList entries).values) : x ∈ entries.map Prod.snd := by
  have hall : ∀ m : OrderedMap α, x ∈ (m.insertAll entries).values →
      x ∈ m.values ∨ x ∈ entries.map Prod.snd := by
    clear h
    induction entries with
    | nil => exact fun m h => .inl h
    | cons entry rest ih =>
      intro m h
      rcases ih (m.insert entry.1 entry.2) h with h | h
      · rcases snd_mem_insertEntry h with rfl | h
        · exact .inr List.mem_cons_self
        · exact .inl h
      · exact .inr (List.mem_cons_of_mem _ h)
  exact (hall empty h).resolve_left List.not_mem_nil

end Sitework.OrderedMap
