import Sitework.Markup.Tree

/-!
# HTML of a markup tree

The editor's form carries the declarations of each node and how the node is to be treated; the
exported form carries only what a static page needs. Either can be indented by two spaces for each
level, with one node a line.
-/

namespace Sitework

/-- What the HTML is for. -/
inductive Surface where
  /-- The editor. -/
  | editor
  /-- A static page. -/
  | static
deriving DecidableEq, Repr

/-- How the HTML is written. -/
structure HtmlForm where
  /-- What the HTML is for. -/
  surface : Surface
  /-- Whether nodes are indented and put on lines of their own. -/
  pretty : Bool
deriving DecidableEq, Repr

namespace Html

/-- The written form of a character of text. -/
def escapeTextChar (c : Char) : List Char :=
  if c = '&' then "&amp;".toList
  else if c = '<' then "&lt;".toList
  else if c = '>' then "&gt;".toList
  else [c]

/-- The written form of a character of an attribute value. -/
def escapeAttributeChar (c : Char) : List Char :=
  if c = '"' then "&quot;".toList else escapeTextChar c

/-- The written form of text. -/
def escapeText (text : String) : String :=
  String.ofList (text.toList.flatMap escapeTextChar)

/-- The written form of an attribute value, without its quotes. -/
def escapeAttribute (value : String) : String :=
  String.ofList (value.toList.flatMap escapeAttributeChar)

/-- Whether an attribute is for the editor only. -/
def isEditorAttribute (name : String) : Bool :=
  name.startsWith "data-"

/-- The attributes that name the element of a node. -/
def roleAttributes (surface : Surface) : NodeRole → List (String × String)
  | .element id kind =>
    match surface with
    | .editor => [("id", id), ("data-kind", kind)]
    | .static => [("id", id)]
  | _ => []

/-- The attributes that show the editor the declarations of a node and how to treat it. -/
def editorAttributes (n : MarkupNode) : List (String × String) :=
  (if n.declarations.isEmpty then [] else [("style", Declarations.inline n.declarations)]) ++
    (if n.flags.editableText then [("contenteditable", "true")] else []) ++
    (if n.flags.draggable then [] else [("draggable", "false")]) ++
    (if n.flags.focusable then [("tabindex", "0")] else []) ++
    (if n.flags.acceptsChildren then [] else [("data-leaf", "true")])

/-- The attributes that are written for a node. -/
def attributes (surface : Surface) (n : MarkupNode) : List (String × String) :=
  let own := n.attributes.entries
  roleAttributes surface n.role ++
    match surface with
    | .static => own.filter fun (name, _) => !isEditorAttribute name
    | .editor => own ++ if n.role = .root then [] else editorAttributes n

/-- One attribute, after a space. -/
def attributeText (name value : String) : String :=
  " " ++ name ++ "=\"" ++ escapeAttribute value ++ "\""

/-- The start tag of a node. -/
def startTag (surface : Surface) (n : MarkupNode) : String :=
  "<" ++ n.tag ++
    String.join ((attributes surface n).map fun (name, value) => attributeText name value) ++ ">"

/-- The end tag of a node. -/
def endTag (n : MarkupNode) : String :=
  "</" ++ n.tag ++ ">"

/-- The indentation of a depth. -/
def indent (depth : Nat) : String :=
  String.ofList (List.replicate (2 * depth) ' ')

/-- The HTML of a node at a depth, given that of its children one level deeper. -/
def nodeText (form : HtmlForm) (n : MarkupNode) (depth : Nat) (children : List String) : String :=
  let margin := if form.pretty then indent depth else ""
  let newLine := if form.pretty then "\n" else ""
  let start := margin ++ startTag form.surface n
  if n.isVoid then start ++ newLine
  else
    let text := (n.text.map escapeText).getD ""
    let content :=
      if children.isEmpty then text else text ++ newLine ++ String.join children ++ margin
    start ++ content ++ endTag n ++ newLine

/-- The HTML of a node and all below it at a depth. -/
def nodeAt (t : MarkupTree) (form : HtmlForm) (i : Nat) : Nat → String :=
  t.fold (fun i children depth =>
    match t.get? i with
    | none => ""
    | some n => nodeText form n depth (children.map fun child => child.2 (depth + 1))) i

/-- The HTML of a node and all below it. -/
def node (t : MarkupTree) (form : HtmlForm) (i : Nat) : String :=
  nodeAt t form i 0

/-- The HTML of what is below the root, at a depth. -/
def body (t : MarkupTree) (form : HtmlForm) (depth : Nat) : String :=
  String.join ((t.root.toList.flatMap t.children).map fun c => nodeAt t form c depth)

end Html

end Sitework
