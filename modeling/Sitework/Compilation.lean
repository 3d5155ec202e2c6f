import Sitework.Markup.Query
import Sitework.Page

/-!
# Compiling elements to markup

Each element becomes a node below the node of its parent, in the order of the elements. An element
whose parent is unknown, is no container, or is the element itself goes below the root, and so
does the first element of each cycle of parents. Of elements that share a name only the first one
that is reached becomes a node.
-/

namespace Sitework

/-- How the editor treats the node of a kind. -/
def ElementKind.flags (kind : ElementKind) : NodeFlags :=
  match kind with
  | .pageSection => { draggable := false }
  | .container | .grid => {}
  | .heading _ | .text => { editableText := true, acceptsChildren := false }
  | .button _ | .link _ => { editableText := true, focusable := true, acceptsChildren := false }
  | .image _ _ => { acceptsChildren := false }
  | .input _ _ _ => { focusable := true, acceptsChildren := false }

namespace Compilation

/-- The attribute that names the blob of an image. -/
def blobAttribute : String := "data-blob-id"

/-- The scheme of a location that names a blob. -/
def blobScheme : String := "blob:"

/-- The tag of the helper that holds the text of a button. -/
def labelTag : String := "span"

/-- An attribute that may be absent. -/
def optionalAttribute (name : String) (value : Option String) : List (String × String) :=
  value.toList.map (name, ·)

/-- The attributes of an image's source. -/
def sourceAttributes : ImageSource → List (String × String)
  | .url location => [("src", location)]
  | .blob id => [("src", blobScheme ++ id), (blobAttribute, id)]

/-- The attributes of a kind. -/
def kindAttributes : ElementKind → List (String × String)
  | .button href => optionalAttribute "href" href
  | .link href => [("href", href)]
  | .image source alt => sourceAttributes source ++ optionalAttribute "alt" alt
  | .input type placeholder autocomplete =>
    [("type", type.name)] ++ optionalAttribute "placeholder" placeholder ++
      [("autocomplete", if autocomplete then "on" else "off")]
  | _ => []

/-- The text of an element's own node: images and input fields have none, and a button keeps it
in a helper. -/
def nodeText (e : Element) : Option String :=
  match e.kind with
  | .button _ | .image _ _ | .input _ _ _ => none
  | _ => e.content

/-- The declarations at the base and wherever the element has a layer. -/
def layers (e : Element) : Layers Declarations :=
  Layers.ofFunction fun b =>
    if b.isBase || (e.responsive.get b).isSome then some (e.declarationsAt b none) else none

/-- The node of an element at a breakpoint. -/
def nodeOf (cache : DeclarationCache) (b : Breakpoint) (e : Element) : MarkupNode where
  tag := e.kind.tag
  role := .element e.id e.kind.name
  attributes := OrderedMap.ofList (kindAttributes e.kind)
  text := nodeText e
  declarations := e.declarationsAt b (cache.get? e.id)
  layers := layers e
  flags := e.kind.flags

/-- The helper that holds the text of a button. -/
def labelOf (e : Element) : MarkupNode :=
  { MarkupNode.wrapper labelTag with text := e.content }

/-- The tree with the node of an element, and the helper of a button, below a node. Returns the
number of the element's node. -/
def attach (cache : DeclarationCache) (b : Breakpoint) (t : MarkupTree) (parent : Nat)
    (e : Element) : MarkupTree × Nat :=
  let (t, i) := t.insertChild parent (nodeOf cache b e)
  match e.kind with
  | .button _ => ((t.insertChild i (labelOf e)).1, i)
  | _ => (t, i)

/-- Whether some element of this name is of a kind that may have children. -/
def isContainer (es : List Element) (id : String) : Bool :=
  es.any fun e => e.id == id && e.kind.acceptsChildren

/-- The name of the element below which an element belongs; none for the root. -/
def parentOf? (es : List Element) (e : Element) : Option String :=
  if e.isSection then none
  else e.parentId.filter fun parent => parent != e.id && isContainer es parent

/-- The elements that belong below the element of a name, in order. -/
def childrenOf (es : List Element) (id : String) : List Element :=
  es.filter fun e => parentOf? es e == some id

/-- Adds the elements that wait, each below a node, to a tree. An element whose name is no longer
`unbuilt` is passed over; after any other one its children are next. -/
def build (cache : DeclarationCache) (b : Breakpoint) (es : List Element)
    (unbuilt : List String) (waiting : List (Nat × Element)) (t : MarkupTree) : MarkupTree :=
  match waiting with
  | [] => t
  | (parent, e) :: waiting =>
    if _h : e.id ∈ unbuilt then
      let (t, i) := attach cache b t parent e
      build cache b es (Names.without unbuilt e.id)
        ((childrenOf es e.id).map (i, ·) ++ waiting) t
    else build cache b es unbuilt waiting t
termination_by (unbuilt.length, waiting.length)
decreasing_by
  · exact Prod.Lex.left _ _ (Names.length_without_lt _h)
  · exact Prod.Lex.right _ (Nat.lt_succ_self _)

/-- The markup of elements at a breakpoint, with present values from what was last rendered. The
elements that belong below the root are first; any that were not reached from these are below
it as well. -/
def compileWith (cache : DeclarationCache) (es : List Element) (b : Breakpoint) : MarkupTree :=
  let (t, root) := MarkupTree.empty.insertRoot MarkupNode.root
  let first := es.filter fun e => (parentOf? es e).isNone
  build cache b es (es.map (·.id)) ((first ++ es).map (root, ·)) t

/-- The markup of elements at a breakpoint. -/
def compile (es : List Element) (b : Breakpoint) : MarkupTree :=
  compileWith OrderedMap.empty es b

end Compilation

namespace Page

/-- The markup of a page at a breakpoint. -/
def compile (p : Page) (b : Breakpoint) : MarkupTree :=
  Compilation.compile p.elements.values b

end Page

end Sitework
