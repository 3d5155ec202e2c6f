import Sitework.Style.Basic

/-!
# Breakpoints

The classes of viewport widths, from narrow to wide. The widest one has no upper bound and holds
the base values; each of the others holds a layer that also applies to every narrower class.
-/

namespace Sitework

/-- A class of viewport widths. -/
inductive Breakpoint where
  | smartphone | tablet | laptop | monitor
deriving DecidableEq, Repr, Inhabited

namespace Breakpoint

/-- Every class, narrowest first. -/
def all : List Breakpoint := [.smartphone, .tablet, .laptop, .monitor]

/-- The classes below the base, widest first. -/
def responsive : List Breakpoint := [.laptop, .tablet, .smartphone]

/-- The place of a class among the widths. -/
def rank : Breakpoint → Nat
  | .smartphone => 0
  | .tablet => 1
  | .laptop => 2
  | .monitor => 3

instance : LT Breakpoint := ⟨fun a b => a.rank < b.rank⟩
instance : LE Breakpoint := ⟨fun a b => a.rank ≤ b.rank⟩
instance (a b : Breakpoint) : Decidable (a < b) := inferInstanceAs (Decidable (a.rank < b.rank))
instance (a b : Breakpoint) : Decidable (a ≤ b) := inferInstanceAs (Decidable (a.rank ≤ b.rank))

/-- The greatest width of the class, in pixels. -/
def maxWidth? : Breakpoint → Option Nat
  | .smartphone => some 640
  | .tablet => some 1024
  | .laptop => some 1440
  | .monitor => none

/-- Whether the class holds the base values. -/
def isBase (b : Breakpoint) : Bool :=
  b == .monitor

/-- Whether a layer of this class also applies at the other class. -/
def contains (b other : Breakpoint) : Bool :=
  decide (other ≤ b)

/-- The name of the class. -/
def name : Breakpoint → String
  | .smartphone => "smartphone"
  | .tablet => "tablet"
  | .laptop => "laptop"
  | .monitor => "monitor"

/-- The class of a name. -/
def ofName? (name : String) : Option Breakpoint :=
  all.find? fun b => b.name == name

theorem mem_all (b : Breakpoint) : b ∈ all := by
  cases b <;> decide

end Breakpoint

/-- At most one value for each class of widths. -/
structure Layers (α : Type) where
  smartphone : Option α := none
  tablet : Option α := none
  laptop : Option α := none
  monitor : Option α := none
deriving DecidableEq, Repr, Inhabited

namespace Layers

variable {α β : Type}

/-- No layers. -/
def empty : Layers α := {}

/-- The layer of a class. -/
def get (layers : Layers α) : Breakpoint → Option α
  | .smartphone => layers.smartphone
  | .tablet => layers.tablet
  | .laptop => layers.laptop
  | .monitor => layers.monitor

/-- The layers that a function gives. -/
def ofFunction (f : Breakpoint → Option α) : Layers α where
  smartphone := f .smartphone
  tablet := f .tablet
  laptop := f .laptop
  monitor := f .monitor

@[simp] theorem get_ofFunction (f : Breakpoint → Option α) (b : Breakpoint) :
    (ofFunction f).get b = f b := by
  cases b <;> rfl

@[simp] theorem get_empty (b : Breakpoint) : (empty : Layers α).get b = none := by
  cases b <;> rfl

/-- Layers that agree at every class are equal. -/
theorem ext_get {l m : Layers α} (h : ∀ b, l.get b = m.get b) : l = m := by
  have : ofFunction l.get = ofFunction m.get := by rw [funext h]
  exact this

/-- The layers with that of one class replaced or taken away. -/
def set (layers : Layers α) (b : Breakpoint) (value : Option α) : Layers α :=
  ofFunction fun c => if c = b then value else layers.get c

@[simp] theorem get_set (layers : Layers α) (b c : Breakpoint) (value : Option α) :
    (layers.set b value).get c = if c = b then value else layers.get c := by
  simp [set]

/-- The classes that have a layer, narrowest first. -/
def keys (layers : Layers α) : List Breakpoint :=
  Breakpoint.all.filter fun b => (layers.get b).isSome

/-- Whether no class has a layer. -/
def isEmpty (layers : Layers α) : Bool :=
  layers.keys.isEmpty

/-- The layers with their classes, narrowest first. -/
def entries (layers : Layers α) : List (Breakpoint × α) :=
  Breakpoint.all.filterMap fun b => (layers.get b).map (b, ·)

/-- The layers with every value replaced. -/
def map (f : α → β) (layers : Layers α) : Layers β :=
  ofFunction fun b => (layers.get b).map f

end Layers

/-- The values that an element sets at some classes, on top of its base style. -/
abbrev Overrides := Layers Style

namespace Overrides

/-- Stored layers are members named for their class, narrowest first. -/
def toJson (overrides : Overrides) : Json :=
  .object (overrides.entries.map fun (b, layer) => (b.name, layer.toJson))

/-- The layers of a stored form. Of a repeated class the last layer counts. -/
def ofJson? (form : Json.ChoiceForm) (value : Json) : Option Overrides := do
  (← value.object?).foldlM (fun (overrides : Overrides) (name, layer) => do
    return overrides.set (← Breakpoint.ofName? name) (some (← Style.ofJson? form layer)))
    Layers.empty

end Overrides

end Sitework
