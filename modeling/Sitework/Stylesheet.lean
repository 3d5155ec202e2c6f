import Sitework.Page
import Sitework.Style.Selector

/-!
# Stylesheets of a page

The base sheet has a rule for each element with declarations. The responsive sheet has a block for
each narrower breakpoint, widest first, with the declarations that differ from those at the base.
Neither has an empty rule or block.
-/

namespace Sitework

/-- The stylesheets of a page. -/
structure PageStylesheets where
  /-- The rules at the base. -/
  base : String
  /-- The blocks of the narrower breakpoints. -/
  responsive : String
deriving DecidableEq, Repr, Inhabited

namespace Stylesheet

/-- A rule for the element of a name, at a depth. -/
def rule (id : String) (declarations : Declarations) (depth : Nat) : String :=
  let margin := String.ofList (List.replicate (2 * depth) ' ')
  let line (entry : String × String) : String :=
    margin ++ "  " ++ Declarations.line entry.1 entry.2 ++ ";\n"
  margin ++ "#" ++ Selector.escape id ++ " \x7b\n" ++
    String.join (declarations.entries.map line) ++ margin ++ "\x7d\n"

/-- The declarations of an element at the base. -/
def baseDeclarations (e : Element) : Declarations :=
  e.declarationsAt .monitor none

/-- The declarations of an element at a breakpoint that differ from those at the base. -/
def changedDeclarations (b : Breakpoint) (e : Element) : Declarations :=
  Declarations.diff (e.declarationsAt b none) (baseDeclarations e)

/-- The rules for some elements; an element without declarations has none. -/
def rules (depth : Nat) (declarationsOf : Element → Declarations) (es : List Element) :
    List String :=
  es.filterMap fun e =>
    let declarations := declarationsOf e
    if declarations.isEmpty then none else some (rule e.id declarations depth)

/-- The block of rules for viewports up to a width. -/
def block (width : Nat) (rules : List String) : String :=
  "@media (max-width: " ++ toString width ++ "px) \x7b\n" ++ "\n".intercalate rules ++ "\x7d\n"

/-- The block of a breakpoint, if it has any rules. -/
def blockAt? (es : List Element) (b : Breakpoint) : Option String :=
  b.maxWidth?.bind fun width =>
    let overridden := es.filter fun e => (e.responsive.get b).isSome
    match rules 1 (changedDeclarations b) overridden with
    | [] => none
    | rules => some (block width rules)

end Stylesheet

namespace Page

/-- The stylesheets of a page. -/
def stylesheets (p : Page) : PageStylesheets where
  base := "\n".intercalate (Stylesheet.rules 0 Stylesheet.baseDeclarations p.elements.values)
  responsive :=
    "\n".intercalate (Breakpoint.responsive.filterMap (Stylesheet.blockAt? p.elements.values))

end Page

end Sitework
