import Sitework.Style.Cascade
import Sitework.Style.Rendering
import Sitework.Style.Composite

/-!
# Elements

The pieces a page is made of. An element has a kind with the fields that suit it, a base style and
layers for narrower viewports, and names its parent. Children may also be nested inside their
parent; `flatten` lists such a tree parent first.
-/

namespace Sitework

/-- Where the bytes of an image come from. -/
inductive ImageSource where
  /-- A location that is used as it is. -/
  | url (location : String)
  /-- The name of a blob of the site. -/
  | blob (id : String)
deriving DecidableEq, Repr, Inhabited

/-- What may be typed into an input field. -/
inductive InputType where
  | text | email | password | number | tel | url | search
deriving DecidableEq, Repr, Inhabited

namespace InputType

/-- Every type. -/
def all : List InputType := [.text, .email, .password, .number, .tel, .url, .search]

/-- The name of the type. -/
def name : InputType → String
  | .text => "text"
  | .email => "email"
  | .password => "password"
  | .number => "number"
  | .tel => "tel"
  | .url => "url"
  | .search => "search"

/-- The type of a name. -/
def ofName? (name : String) : Option InputType :=
  all.find? fun t => t.name == name

/-- A type is found under its name. -/
theorem ofName?_name (t : InputType) : ofName? t.name = some t := by
  cases t <;> decide

end InputType

/-- What an element is, with the fields of that kind. -/
inductive ElementKind where
  /-- A section of a page; it has no parent. -/
  | pageSection
  /-- A box for other elements. -/
  | container
  /-- A box that lays other elements out in a grid. -/
  | grid
  /-- A heading of a level from one to six. -/
  | heading (level : UInt8)
  /-- A paragraph. -/
  | text
  /-- A button, which may lead somewhere. -/
  | button (href : Option String)
  /-- A link. -/
  | link (href : String)
  /-- An image with an optional description. -/
  | image (source : ImageSource) (alt : Option String)
  /-- An input field. -/
  | input (type : InputType) (placeholder : Option String) (autocomplete : Bool)
deriving DecidableEq, Repr, Inhabited

namespace ElementKind

/-- The names of the kinds, in order. -/
def names : List String :=
  ["section", "container", "grid", "heading", "text", "button", "link", "image", "input"]

/-- The name of the kind. -/
def name : ElementKind → String
  | .pageSection => "section"
  | .container => "container"
  | .grid => "grid"
  | .heading _ => "heading"
  | .text => "text"
  | .button _ => "button"
  | .link _ => "link"
  | .image _ _ => "image"
  | .input _ _ _ => "input"

/-- The tag of a heading; levels out of range are taken as the lowest level. -/
def headingTag (level : UInt8) : String :=
  if level = 1 then "h1"
  else if level = 2 then "h2"
  else if level = 3 then "h3"
  else if level = 4 then "h4"
  else if level = 5 then "h5"
  else "h6"

/-- The markup tag of the kind. -/
def tag : ElementKind → String
  | .pageSection => "section"
  | .container | .grid => "div"
  | .heading level => headingTag level
  | .text => "p"
  | .button (some _) | .link _ => "a"
  | .button none => "button"
  | .image _ _ => "img"
  | .input _ _ _ => "input"

/-- Whether elements of the kind may contain other elements. -/
def acceptsChildren : ElementKind → Bool
  | .pageSection | .container | .grid => true
  | _ => false

end ElementKind

/-- An element of a page. -/
structure Element where
  /-- The name by which children and styles refer to the element. -/
  id : String
  /-- What the element is. -/
  kind : ElementKind
  /-- The element that contains this one. -/
  parentId : Option String
  /-- The style at the base breakpoint. -/
  style : Style
  /-- The layers at narrower breakpoints. -/
  responsive : Overrides
  /-- The text of the element. -/
  content : Option String
  /-- The elements nested in this one. Elements of a stored page name their parent instead. -/
  children : List Element
deriving Repr

namespace Element

/-- An element of a kind without anything else. -/
def new (id : String) (kind : ElementKind) : Element :=
  ⟨id, kind, none, Style.empty, Layers.empty, none, []⟩

instance : Inhabited Element := ⟨new "" .text⟩

/-- Whether the element is a section. -/
def isSection (e : Element) : Bool :=
  e.kind == .pageSection

/-- The element with an update of its style at a breakpoint. The layers are minimal afterwards. -/
def applyStyle (e : Element) (b : Breakpoint) (update : Style) : Element :=
  let (style, responsive) := Cascade.update e.style e.responsive b update
  { e with style, responsive }

/-- The element below another one. -/
def withParent (e : Element) (parentId : String) : Element :=
  { e with parentId := some parentId }

/-- The element with another base style. The layers stay as they are. -/
def withStyle (e : Element) (style : Style) : Element :=
  { e with style }

/-- The element with a text. -/
def withContent (e : Element) (content : String) : Element :=
  { e with content := some content }

/-- The element with values of its own at a breakpoint, set as an update there. -/
def withOverride (e : Element) (b : Breakpoint) (style : Style) : Element :=
  e.applyStyle b style

/-- The style in force at a breakpoint. -/
def resolvedStyle (e : Element) (b : Breakpoint) : Style :=
  Cascade.resolve e.style e.responsive b

/-- The declarations in force at a breakpoint. Groups of properties are completed from what was
last rendered, if anything was. -/
def declarationsAt (e : Element) (b : Breakpoint) (rendered : Option Declarations) :
    Declarations :=
  let effective := e.resolvedStyle b
  (effective.complete ⟨rendered, some effective⟩).declarations

mutual

/-- The element and all elements nested in it, parents first and without nested children. -/
def flatten : Element → List Element
  | ⟨id, kind, parentId, style, responsive, content, children⟩ =>
    ⟨id, kind, parentId, style, responsive, content, []⟩ :: flattenAll children

/-- The elements of some trees, one tree after the other. -/
def flattenAll : List Element → List Element
  | [] => []
  | e :: es => e.flatten ++ flattenAll es

end

end Element

end Sitework
