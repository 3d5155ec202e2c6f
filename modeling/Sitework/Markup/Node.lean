import Sitework.Style.Breakpoint
import Sitework.Style.Declarations

/-!
# Markup nodes

A node has a tag, attributes, text and declarations. Its role tells what it stands for: the root
of a page, an element, or a helper that is no element.
-/

namespace Sitework

/-- What a node stands for. -/
inductive NodeRole where
  /-- The root that the sections of a page hang off. -/
  | root
  /-- An element of a kind. -/
  | element (id kind : String)
  /-- A helper that is no element. -/
  | wrapper
deriving DecidableEq, Repr, Inhabited

/-- How the editor treats a node. -/
structure NodeFlags where
  /-- Whether the text can be edited in place. -/
  editableText : Bool := false
  /-- Whether the node can have the keyboard focus. -/
  focusable : Bool := false
  /-- Whether elements may be put into the node. -/
  acceptsChildren : Bool := true
  /-- Whether the node can be moved. -/
  draggable : Bool := true
deriving DecidableEq, Repr, Inhabited

/-- A node of markup. -/
structure MarkupNode where
  /-- The tag. -/
  tag : String
  /-- What the node stands for. -/
  role : NodeRole
  /-- The attributes in order. -/
  attributes : OrderedMap String
  /-- The text before any child. -/
  text : Option String
  /-- The declarations at the breakpoint that is shown. -/
  declarations : Declarations
  /-- The full declarations at the base and wherever the element has a layer. -/
  layers : Layers Declarations
  /-- How the editor treats the node. -/
  flags : NodeFlags
deriving DecidableEq, Repr, Inhabited

namespace MarkupNode

/-- A node with nothing but a tag and a role. -/
def new (tag : String) (role : NodeRole) : MarkupNode :=
  ⟨tag, role, OrderedMap.empty, none, OrderedMap.empty, Layers.empty, {}⟩

/-- The root of a page. -/
def root : MarkupNode := new "body" .root

/-- A helper with a tag. -/
def wrapper (tag : String) : MarkupNode := new tag .wrapper

/-- The node with an attribute set. -/
def setAttribute (n : MarkupNode) (name value : String) : MarkupNode :=
  { n with attributes := n.attributes.insert name value }

/-- The node with some attributes set one after the other. -/
def setAttributes (n : MarkupNode) (attributes : List (String × String)) : MarkupNode :=
  { n with attributes := n.attributes.insertAll attributes }

/-- The node without an attribute. -/
def removeAttribute (n : MarkupNode) (name : String) : MarkupNode :=
  { n with attributes := n.attributes.erase name }

/-- The value of an attribute. -/
def attribute? (n : MarkupNode) (name : String) : Option String :=
  n.attributes.get? name

/-- The element that the node stands for. -/
def elementId? (n : MarkupNode) : Option String :=
  match n.role with
  | .element id _ => some id
  | _ => none

/-- Whether the node stands for an element. -/
def isElement (n : MarkupNode) : Bool :=
  n.elementId?.isSome

/-- Whether the tag is one without content and end tag. -/
def isVoid (n : MarkupNode) : Bool :=
  ["img", "input", "br", "hr", "meta", "link"].contains n.tag

end MarkupNode

end Sitework
