/-!
# Maps in insertion order

A map from texts to values that remembers the order in which its keys were first inserted. A new
value for a known key takes the place of the old one. Each key occurs once.
-/

namespace Sitework

/-- A map from texts to values, in insertion order. -/
structure OrderedMap (α : Type) where
  /-- The keys and values, in order. -/
  entries : List (String × α)
  /-- No key occurs twice. -/
  nodup : (entries.map Prod.fst).Nodup
deriving DecidableEq, Repr

namespace OrderedMap

variable {α β : Type}

/-- The map without keys. -/
def empty : OrderedMap α := ⟨[], by simp⟩

instance : Inhabited (OrderedMap α) := ⟨empty⟩

/-- The keys in order. -/
def keys (m : OrderedMap α) : List String :=
  m.entries.map Prod.fst

/-- The values in order. -/
def values (m : OrderedMap α) : List α :=
  m.entries.map Prod.snd

/-- The number of keys. -/
def size (m : OrderedMap α) : Nat :=
  m.entries.length

/-- Whether there is no key. -/
def isEmpty (m : OrderedMap α) : Bool :=
  m.entries.isEmpty

/-- The value of the first entry with a key. -/
def findEntry? (key : String) : List (String × α) → Option α
  | [] => none
  | entry :: rest => if entry.1 = key then some entry.2 else findEntry? key rest

/-- The value of a key. -/
def get? (m : OrderedMap α) (key : String) : Option α :=
  findEntry? key m.entries

/-- Whether a key has a value. -/
def contains (m : OrderedMap α) (key : String) : Bool :=
  (m.get? key).isSome

/-- Replaces the value of a key in place, or adds the key at the end. -/
def insertEntry (key : String) (value : α) : List (String × α) → List (String × α)
  | [] => [(key, value)]
  | entry :: rest =>
    if entry.1 = key then (key, value) :: rest else entry :: insertEntry key value rest

/-- A new key comes last, and a known one keeps its place. -/
theorem map_fst_insertEntry (key : String) (value : α) (entries : List (String × α)) :
    (insertEntry key value entries).map Prod.fst =
      if key ∈ entries.map Prod.fst then entries.map Prod.fst
      else entries.map Prod.fst ++ [key] := by
  induction entries with
  | nil => simp [insertEntry]
  | cons entry rest ih =>
    by_cases h : entry.1 = key
    · simp [insertEntry, h]
    · have h' : key ≠ entry.1 := fun e => h e.symm
      simp only [insertEntry, if_neg h, List.map_cons, ih, List.mem_cons, h', false_or]
      split <;> simp

/-- The map with a value for a key: a known key keeps its place. -/
def insert (m : OrderedMap α) (key : String) (value : α) : OrderedMap α where
  entries := insertEntry key value m.entries
  nodup := by
    rw [map_fst_insertEntry]
    split
    · exact m.nodup
    · next h =>
      simp only [List.nodup_append, List.nodup_cons, List.not_mem_nil, not_false_eq_true,
        List.nodup_nil, and_self, List.mem_singleton, true_and]
      exact ⟨m.nodup, fun a ha b hb e => h (by subst hb; exact e ▸ ha)⟩

/-- The keys that satisfy a condition, with their values. -/
def filter (m : OrderedMap α) (p : String → α → Bool) : OrderedMap α where
  entries := m.entries.filter fun entry => p entry.1 entry.2
  nodup := m.nodup.sublist (List.filter_sublist.map Prod.fst)

/-- The map without a key; the other keys keep their order. -/
def erase (m : OrderedMap α) (key : String) : OrderedMap α :=
  m.filter fun other _ => other != key

/-- The map with every value replaced. -/
def map (f : α → β) (m : OrderedMap α) : OrderedMap β where
  entries := m.entries.map fun entry => (entry.1, f entry.2)
  nodup := by
    rw [List.map_map]
    exact m.nodup

/-- The map with all entries inserted one after the other. -/
def insertAll (m : OrderedMap α) (entries : List (String × α)) : OrderedMap α :=
  entries.foldl (fun m entry => m.insert entry.1 entry.2) m

/-- The map of some entries: of a repeated key the last value stays, at the first place. -/
def ofList (entries : List (String × α)) : OrderedMap α :=
  empty.insertAll entries

@[simp] theorem get?_empty (key : String) : (empty : OrderedMap α).get? key = none := rfl

/-- An inserted value is found under its key, and other keys are unaffected. -/
theorem findEntry?_insertEntry (key other : String) (value : α) (entries : List (String × α)) :
    findEntry? other (insertEntry key value entries) =
      if other = key then some value else findEntry? other entries := by
  induction entries with
  | nil => simp [insertEntry, findEntry?, eq_comm]
  | cons entry rest ih => grind [insertEntry, findEntry?]

/-- An inserted value is found under its key, and other keys are unaffected. -/
@[simp] theorem get?_insert (m : OrderedMap α) (key other : String) (value : α) :
    (m.insert key value).get? other = if other = key then some value else m.get? other :=
  findEntry?_insertEntry key other value m.entries

/-- A new key comes last; a known one keeps its place. -/
theorem keys_insert (m : OrderedMap α) (key : String) (value : α) :
    (m.insert key value).keys = if key ∈ m.keys then m.keys else m.keys ++ [key] :=
  map_fst_insertEntry key value m.entries

/-- Two maps with the same entries in the same order are equal. -/
@[ext] theorem ext {m n : OrderedMap α} (h : m.entries = n.entries) : m = n := by
  cases m
  cases n
  simp_all

end OrderedMap

end Sitework
