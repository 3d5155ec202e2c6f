import Sitework.Markup.Tree
import Sitework.Names
import Sitework.Style.Value

/-!
# What a markup tree applies

The declarations that elements were last rendered with, and the font families that any node
applies at any breakpoint.
-/

namespace Sitework

/-- The declarations that elements were last rendered with, by name of the element. -/
abbrev DeclarationCache := OrderedMap Declarations

/-- Families that name no font of their own, but a kind of font or the font of the parent. -/
def genericFamilies : List String :=
  ["serif", "sans-serif", "monospace", "cursive", "fantasy", "system-ui", "inherit"]

/-- Whether a family is generic, in any case of its letters. -/
def isGenericFamily (family : String) : Bool :=
  genericFamilies.contains (String.ofList (Text.lower family.toList))

namespace MarkupTree

/-- The numbers of the nodes that stand for elements, in order. -/
def elements (t : MarkupTree) : List Nat :=
  t.query MarkupNode.isElement

/-- The declarations of every element of the tree. Of two nodes for one element the later one
counts. -/
def declarationCache (t : MarkupTree) : DeclarationCache :=
  OrderedMap.ofList (t.nodes.filterMap fun n => n.elementId?.map (·, n.declarations))

/-- The families of some declarations that are not generic. -/
def familiesOf (declarations : Declarations) : List String :=
  match declarations.get? "font-family" with
  | some stack => (Value.fontStack stack).filter fun family => !isGenericFamily family
  | none => []

/-- Every family that some node applies at some breakpoint and that is not generic, in
alphabetical order. -/
def fontFamilies (t : MarkupTree) : List String :=
  Names.sorted (t.nodes.flatMap fun n =>
    (n.declarations :: n.layers.entries.map (·.2)).flatMap familiesOf)

end MarkupTree

end Sitework
