import Sitework.Page
import Sitework.Style.Color
import Sitework.Text.Blank
import Sitework.Text.Quoted

/-!
# Validation

A page or a site is accepted as a whole or refused with the first fault that is found. An accepted
page has elements under their own names, parents that may have children and form no cycle, colors
and font families that render as one value each, and layers that are minimal.
-/

namespace Sitework

/-- Why a page or a site is refused. -/
inductive ValidationError where
  /-- A record has an empty name; `what` says which kind of record. -/
  | emptyId (what : String)
  /-- A record is kept under another name than its own. -/
  | keyMismatch (key id : String)
  /-- A section has a parent. -/
  | sectionWithParent (page element : String)
  /-- The parents of an element form a cycle. -/
  | parentCycle (page element : String)
  /-- The parent of an element is of a kind without children. -/
  | parentCannotHaveChildren (page parent element : String)
  /-- An element of a stored page has nested children. -/
  | nestedChildren (page element : String)
  /-- A heading has a level below one or above six. -/
  | invalidHeadingLevel (page element : String) (level : UInt8)
  /-- The name of a page cannot be part of a file name. -/
  | invalidPageId (id : String)
  /-- A color or a font family does not render as one value. -/
  | invalidStyleValue (page element property value : String)
  /-- A layer holds a value that is in force without it. -/
  | redundantOverride (page element : String) (breakpoint : Breakpoint)
  /-- Two pages are marked as the front page. -/
  | multipleIndexPages (first second : String)
deriving DecidableEq, Repr

/-- The text of the error. -/
def ValidationError.message : ValidationError → String
  | .emptyId what => what ++ " has an empty id"
  | .keyMismatch key id => "map key '" ++ key ++ "' does not match record id '" ++ id ++ "'"
  | .sectionWithParent page element =>
    "page '" ++ page ++ "': section '" ++ element ++ "' must not have a parent"
  | .parentCycle page element =>
    "page '" ++ page ++ "': element '" ++ element ++ "' is nested under its own subtree"
  | .parentCannotHaveChildren page parent element =>
    "page '" ++ page ++ "': '" ++ parent ++ "' cannot contain children (child '" ++ element ++ "')"
  | .nestedChildren page element =>
    "page '" ++ page ++ "': element '" ++ element ++ "' stores nested children"
  | .invalidHeadingLevel page element level =>
    "page '" ++ page ++ "': heading '" ++ element ++ "' has invalid level " ++
      toString level.toNat
  | .invalidPageId id =>
    "page id '" ++ id ++ "' may only contain ASCII letters, digits, '-' and '_'"
  | .invalidStyleValue page element property value =>
    "page '" ++ page ++ "': element '" ++ element ++ "' has an invalid " ++ property ++ ": " ++
      Text.quoted value
  | .redundantOverride page element breakpoint =>
    "page '" ++ page ++ "': element '" ++ element ++ "' stores a " ++ breakpoint.name ++
      " override the cascade already produces"
  | .multipleIndexPages first second =>
    "more than one index page: '" ++ first ++ "' and '" ++ second ++ "'"

namespace Validation

/-- The outcome of a check. -/
abbrev Check := Except ValidationError Unit

/-- Accepts if a condition holds, and gives the error otherwise. -/
def ensure (condition : Bool) (error : ValidationError) : Check :=
  if condition then .ok () else .error error

/-- The first error among some checks. -/
def first (checks : List Check) : Check :=
  checks.forM id

/-- Control characters. -/
def isControl (c : Char) : Bool :=
  c.toNat < 0x20 || (0x7F ≤ c.toNat && c.toNat < 0xA0)

/-- Characters that end a quoted font family, its declaration or its rule. -/
def endsFamily (c : Char) : Bool :=
  c == '"' || c == '\\' || c == ';' || c == '\x7b' || c == '\x7d'

/-- Whether a font family renders as one quoted text. -/
def isFontFamily (family : String) : Bool :=
  Text.trim family.toList != [] && !family.toList.any fun c => endsFamily c || isControl c

/-- Whether a text is a color. -/
def isColor (text : String) : Bool :=
  match Color.parse text with
  | .ok _ => true
  | .error _ => false

/-- The colors in the order in which they are checked. -/
def colorOrder : List ColorProperty := [.text, .background, .border]

/-- Checks the colors and the font family of a style. -/
def checkStyle (page : Page) (e : Element) (s : Style) : Check :=
  let check (property : String) (accept : String → Bool) : Option String → Check
    | some value => ensure (accept value) (.invalidStyleValue page.id e.id property value)
    | none => .ok ()
  first (colorOrder.map (fun p => check p.css isColor (s.get (.color p))) ++
    [check "font-family" isFontFamily s.fontFamily])

/-- Checks that no layer holds a value that is in force without it. -/
def checkMinimal (page : Page) (e : Element) : Check :=
  let pruned := Cascade.prune e.style e.responsive
  first (e.responsive.entries.map fun (b, layer) =>
    ensure ((pruned.get b).any (· == layer)) (.redundantOverride page.id e.id b))

/-- Whether the chain of parents of an element leaves the names in `unseen` before it ends. -/
def leaves (elements : OrderedMap Element) (unseen : List String) (e : Element) : Bool :=
  match e.parentId.bind elements.get? with
  | none => false
  | some parent =>
    if _h : parent.id ∈ unseen then leaves elements (Names.without unseen parent.id) parent
    else true
termination_by unseen.length
decreasing_by exact Names.length_without_lt _h

/-- Whether the chain of parents of an element comes back to it or to one of its parents. -/
def isCyclic (page : Page) (e : Element) : Bool :=
  leaves page.elements (Names.without (page.elements.values.map (·.id)) e.id) e

/-- Checks the parent of an element. A parent that is not on the page is no fault: the element
then stands on its own. -/
def checkParent (page : Page) (e : Element) : Check :=
  match e.parentId with
  | none => .ok ()
  | some parentId =>
    if e.isSection then .error (.sectionWithParent page.id e.id)
    else
      match page.elements.get? parentId with
      | none => .ok ()
      | some parent =>
        if parent.kind.acceptsChildren then
          ensure (!isCyclic page e) (.parentCycle page.id e.id)
        else .error (.parentCannotHaveChildren page.id parent.id e.id)

/-- Checks the level of a heading. -/
def checkLevel (page : Page) (e : Element) : Check :=
  match e.kind with
  | .heading level => ensure (1 ≤ level && level ≤ 6) (.invalidHeadingLevel page.id e.id level)
  | _ => .ok ()

/-- Checks an element that a page keeps under a name. -/
def checkElement (page : Page) (key : String) (e : Element) : Check := do
  ensure (e.id != "") (.emptyId "element")
  ensure (key == e.id) (.keyMismatch key e.id)
  ensure e.children.isEmpty (.nestedChildren page.id e.id)
  checkLevel page e
  checkStyle page e e.style
  first (e.responsive.entries.map fun (_, layer) => checkStyle page e layer)
  checkMinimal page e
  checkParent page e

/-- Characters that a page name may hold. -/
def isPageIdChar (c : Char) : Bool :=
  c.isAlphanum || c == '-' || c == '_'

/-- Checks a page that is kept under a name. -/
def checkPage (key : String) (page : Page) : Check := do
  ensure (page.id != "") (.emptyId "page")
  ensure (key == page.id) (.keyMismatch key page.id)
  ensure (page.id.toList.all isPageIdChar) (.invalidPageId page.id)
  first (page.elements.entries.map fun (key, e) => checkElement page key e)

/-- Checks the pages of a site in order, of which `index` was marked as the front page so far. -/
def checkPages (index : Option String) : List (String × Page) → Check
  | [] => .ok ()
  | (key, page) :: rest => do
    checkPage key page
    if page.isIndex then
      match index with
      | some first => .error (.multipleIndexPages first page.id)
      | none => checkPages (some page.id) rest
    else checkPages index rest

/-- Checks a site. -/
def checkSite (site : Site) : Check := do
  ensure (site.id != "") (.emptyId "site")
  checkPages none site.pages.entries

end Validation

end Sitework
