import Sitework.OrderedMap

/-!
# Declarations

The rendered form of a style: names of properties with the texts of their values, in the order in
which they are declared.
-/

namespace Sitework

/-- Names and values of rendered properties, in order. -/
abbrev Declarations := OrderedMap String

namespace Declarations

/-- The declarations that are missing from `base` or have another value there. -/
def diff (declarations base : Declarations) : Declarations :=
  declarations.filter fun name value => base.get? name != some value

/-- One declaration. -/
def line (name value : String) : String :=
  name ++ ": " ++ value

/-- The form of a `style` attribute, on one line. -/
def inline (declarations : Declarations) : String :=
  "; ".intercalate (declarations.entries.map fun (name, value) => line name value)

/-- The form inside a rule, one declaration a line. -/
def block (declarations : Declarations) : String :=
  String.join (declarations.entries.map fun (name, value) => line name value ++ ";\n")

end Declarations

end Sitework
