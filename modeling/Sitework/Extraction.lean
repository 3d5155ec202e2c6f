import Sitework.Compilation
import Sitework.Number.Integer
import Sitework.Text.Quoted

/-!
# Extracting elements from markup

The elements of a markup tree are read back from roles, attributes and declarations. Style values
come back in normal form: colors in hexadecimal digits, groups of properties completed, and layers
without what the base and wider layers give.
-/

namespace Sitework

/-- Why a node cannot be read as an element. -/
inductive ExtractionError where
  /-- The node is no element. -/
  | notAnElement
  /-- The kind of the element is unknown. -/
  | unknownKind (element kind : String)
  /-- An attribute that the kind needs is absent. -/
  | missingAttribute (element name : String)
  /-- An attribute, or the tag, has a value that the kind does not allow. -/
  | invalidAttribute (element name value : String)
deriving DecidableEq, Repr

/-- The text of the error. -/
def ExtractionError.message : ExtractionError → String
  | .notAnElement => "node is not a compiled element"
  | .unknownKind element kind =>
    "element " ++ element ++ ": unknown kind marker " ++ Text.quoted kind
  | .missingAttribute element name =>
    "element " ++ element ++ ": missing attribute " ++ name
  | .invalidAttribute element name value =>
    "element " ++ element ++ ": invalid " ++ name ++ " value " ++ Text.quoted value

namespace Extraction

/-- An extracted value, or why there is none. -/
abbrev Extracted (α : Type) := Except ExtractionError α

/-- The base style of a node: that of the base breakpoint, or else of the one that is shown. -/
def baseStyle (n : MarkupNode) : Style :=
  Style.ofDeclarations ((n.layers.get .monitor).getD n.declarations)

/-- The layers with that of one more breakpoint, which holds only values that are not in force
without it. -/
def addLayer (base : Style) (n : MarkupNode) (overrides : Overrides) (b : Breakpoint) :
    Overrides :=
  match n.layers.get b with
  | none => overrides
  | some declarations =>
    let inherited := Cascade.inherited base overrides b
    let layer := (Style.ofDeclarationsOver declarations inherited.position).diff inherited
    if layer.isEmpty then overrides else overrides.set b (some layer)

/-- The layers of a node, on top of its base style. -/
def overrides (n : MarkupNode) : Overrides :=
  Breakpoint.responsive.foldl (addLayer (baseStyle n) n) Layers.empty

/-- An attribute that must be there. -/
def required (n : MarkupNode) (id name : String) : Extracted String :=
  match n.attribute? name with
  | some value => .ok value
  | none => .error (.missingAttribute id name)

/-- The level of a heading's tag. -/
def headingLevel? (tag : String) : Option UInt8 := do
  let digits ← Text.after? ['h'] tag.toList
  let level ← Integer.count? 255 digits
  if 1 ≤ level ∧ level ≤ 6 then some (UInt8.ofNat level) else none

/-- The source of an image: the blob that an attribute or the location names, or the location. -/
def source (n : MarkupNode) (id : String) : Extracted ImageSource :=
  match n.attribute? Compilation.blobAttribute with
  | some blob => .ok (.blob blob)
  | none => do
    let location ← required n id "src"
    match Text.after? Compilation.blobScheme.toList location.toList with
    | some blob => return .blob (String.ofList blob)
    | none => return .url location

/-- The kind of an element's node. -/
def kind (n : MarkupNode) (id name : String) : Extracted ElementKind :=
  match name with
  | "section" => .ok .pageSection
  | "container" => .ok .container
  | "grid" => .ok .grid
  | "text" => .ok .text
  | "heading" =>
    match headingLevel? n.tag with
    | some level => .ok (.heading level)
    | none => .error (.invalidAttribute id "tag" n.tag)
  | "button" => .ok (.button (n.attribute? "href"))
  | "link" => do return .link (← required n id "href")
  | "image" => do return .image (← source n id) (n.attribute? "alt")
  | "input" => do
    let type ← required n id "type"
    return .input ((InputType.ofName? type).getD .text) (n.attribute? "placeholder")
      (n.attribute? "autocomplete" == some "on")
  | _ => .error (.unknownKind id name)

/-- The text of the first helper below a node. -/
def labelText (t : MarkupTree) (i : Nat) : Option String :=
  ((t.children i).filterMap t.get?).find? (·.role == .wrapper) |>.bind (·.text)

/-- The content of an element's node. -/
def content (t : MarkupTree) (i : Nat) (n : MarkupNode) : ElementKind → Option String
  | .button _ => labelText t i
  | .image _ _ | .input _ _ _ => none
  | _ => n.text

/-- The element that a node's parent stands for. -/
def parentId (t : MarkupTree) (i : Nat) : Option String :=
  (t.parent? i).bind fun p => (t.get? p).bind (·.elementId?)

/-- Whether a number is that of a node that stands for an element. -/
def isElement (t : MarkupTree) (i : Nat) : Bool :=
  (t.get? i).any (·.isElement)

/-- The element of a node, given what was extracted from its children. -/
def elementOf (t : MarkupTree) (i : Nat) (children : List (Nat × Extracted Element)) :
    Extracted Element :=
  match t.get? i with
  | none => .error .notAnElement
  | some n =>
    match n.role with
    | .element id name => do
      let kind ← kind n id name
      let nested ← (children.filter fun child => isElement t child.1).mapM (·.2)
      return { id, kind, parentId := parentId t i, style := baseStyle n,
               responsive := overrides n, content := content t i n kind, children := nested }
    | _ => .error .notAnElement

/-- The element of a node, with the elements below it nested in it. -/
def extract (t : MarkupTree) (i : Nat) : Extracted Element :=
  t.fold (elementOf t) i

/-- The elements right below the root, each with the elements below it. -/
def extractAll (t : MarkupTree) : Extracted (List Element) :=
  ((t.root.toList.flatMap t.children).filter (isElement t)).mapM (extract t)

end Extraction

end Sitework
