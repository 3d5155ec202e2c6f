import Sitework.Json.Reader
import Sitework.Json.Record
import Sitework.Page

/-!
# The stored form of pages and sites

Elements, pages and sites as JSON objects. Members with another name than those of a record are
passed over: in pages and sites without being read at all, but those of an element must be
readable, because its kind takes its fields from among them. The fields of an element's kind stand
among those of the element itself. Pages and sites may also be given as arrays of their fields in
order.
-/

namespace Sitework

open Json (Members optionalMember)

namespace ImageSource

/-- The stored form. -/
def toJson : ImageSource → Json
  | .url location => .object [("url", .string location)]
  | .blob id => .object [("blob", .string id)]

/-- The source of a stored form, which has one member. -/
def ofJson? : Json → Option ImageSource
  | .object [("url", .string location)] => some (.url location)
  | .object [("blob", .string id)] => some (.blob id)
  | _ => none

end ImageSource

namespace ElementKind

/-- The members of the stored form. -/
def toMembers (kind : ElementKind) : Members :=
  ("name", .string kind.name) ::
    match kind with
    | .heading level => [("level", .integer level.toNat)]
    | .button href => optionalMember "href" (href.map .string)
    | .link href => [("href", .string href)]
    | .image source alt => ("source", source.toJson) :: optionalMember "alt" (alt.map .string)
    | .input type placeholder autocomplete =>
      ("inputType", .string type.name) ::
        optionalMember "placeholder" (placeholder.map .string) ++
          [("autocomplete", .bool autocomplete)]
    | _ => []

/-- The kind of a name, with its fields among some members. -/
def ofMembers? (name : String) (members : Members) : Option ElementKind :=
  match name with
  | "section" => some .pageSection
  | "container" => some .container
  | "grid" => some .grid
  | "heading" => do
    let level ← members.required? "level" (Json.integer? 0 255)
    return .heading (UInt8.ofNat level.toNat)
  | "text" => some .text
  | "button" => do return .button (← members.optional? "href" Json.string?)
  | "link" => do return .link (← members.required? "href" Json.string?)
  | "image" => do
    return .image (← members.required? "source" ImageSource.ofJson?)
      (← members.optional? "alt" Json.string?)
  | "input" => do
    let type ← members.required? "inputType" fun value =>
      (value.choice? .lenient).bind InputType.ofName?
    return .input type (← members.optional? "placeholder" Json.string?)
      (← members.withDefault? "autocomplete" false Json.bool?)
  | _ => none

/-- The fields of a kind of a name, in order. -/
def fieldNames (name : String) : List String :=
  match name with
  | "heading" => ["level"]
  | "button" | "link" => ["href"]
  | "image" => ["source", "alt"]
  | "input" => ["inputType", "placeholder", "autocomplete"]
  | _ => []

/-- The kind of a stored form of its own: an object, or an array of the name and the fields in
order. -/
def ofJson? : Json → Option ElementKind
  | .array (.string name :: fields) =>
    (Json.recordMembers? (fieldNames name) (.array fields)).bind (ofMembers? name)
  | .object members => do
    ofMembers? (← Members.required? members "name" Json.string?) members
  | _ => none

/-- The name of a kind among the members of an element: the name itself, or its number in the
list of names. -/
def nameOf? : Json → Option String
  | .string name => some name
  | .integer n => if 0 ≤ n then names[n.toNat]? else none
  | _ => none

end ElementKind

namespace Element

mutual

/-- The stored form. Members that hold nothing are left out, but for the style. -/
def toJson : Element → Json
  | ⟨id, kind, parentId, style, responsive, content, children⟩ =>
    .object <| ("id", .string id) :: kind.toMembers ++
      optionalMember "parentId" (parentId.map .string) ++
      [("style", style.toJson)] ++
      (if responsive.isEmpty then [] else [("responsive", Overrides.toJson responsive)]) ++
      optionalMember "content" (content.map .string) ++
      match children with
      | [] => []
      | child :: rest => [("children", .array (toJson child :: toJsonList rest))]

/-- The stored forms of some elements. -/
def toJsonList : List Element → List Json
  | [] => []
  | e :: es => toJson e :: toJsonList es

end

/-- The element of some members, apart from nested children. Members that are passed over must be
readable too. -/
def ofMembers? (form : Json.ChoiceForm) (members : Members) : Option Element := do
  guard (Json.haveReadable members)
  let id ← members.required? "id" Json.string?
  let name ← members.required? "name" ElementKind.nameOf?
  let kind ← ElementKind.ofMembers? name members
  let parentId ← members.optional? "parentId" Json.string?
  let style ← members.withDefault? "style" Style.empty (Style.ofJson? form)
  let responsive ← members.withDefault? "responsive" Layers.empty
    (Overrides.ofJson? form)
  let content ← members.optional? "content" Json.string?
  return { id, kind, parentId, style, responsive, content, children := [] }

mutual

/-- The element of a stored form. -/
def ofJson? (form : Json.ChoiceForm) : Json → Option Element
  | .object members => do
    let e ← ofMembers? form members
    match ← nestedIn? form members with
    | [] => some e
    | [children] => some { e with children }
    | _ => none
  | _ => none

/-- What each member for nested children holds. -/
def nestedIn? (form : Json.ChoiceForm) : List (String × Json) → Option (List (List Element))
  | [] => some []
  | (key, .array items) :: rest =>
    if key = "children" then do return (← ofJsonList? form items) :: (← nestedIn? form rest)
    else nestedIn? form rest
  | (key, _) :: rest => if key = "children" then none else nestedIn? form rest

/-- The elements of some stored forms. -/
def ofJsonList? (form : Json.ChoiceForm) : List Json → Option (List Element)
  | [] => some []
  | value :: values => do return (← ofJson? form value) :: (← ofJsonList? form values)

end

end Element

/-- A map whose values all decode: of a repeated key the last value stays, at the first place. -/
def OrderedMap.ofJson? {α : Type} (decode : Json → Option α) (value : Json) :
    Option (OrderedMap α) := do
  let entries ← (← value.object?).mapM fun (key, value) => (decode value).map (key, ·)
  return .ofList entries

/-- The stored form of a map. -/
def OrderedMap.toJson {α : Type} (encode : α → Json) (m : OrderedMap α) : Json :=
  .object (m.map encode).entries

namespace Page

/-- The fields of a stored page, in order. -/
def fieldNames : List String := ["id", "name", "title", "isIndex", "elements"]

/-- The stored form. -/
def toJson (p : Page) : Json :=
  .object <| [("id", .string p.id), ("name", .string p.name)] ++
    optionalMember "title" (p.title.map .string) ++
    [("isIndex", .bool p.isIndex), ("elements", p.elements.toJson Element.toJson)]

/-- The page of a stored form. -/
def ofJson? (form : Json.ChoiceForm) (value : Json) : Option Page := do
  let members ← Json.recordMembers? fieldNames value
  return {
    id := ← members.required? "id" Json.string?
    name := ← members.required? "name" Json.string?
    title := ← members.optional? "title" Json.string?
    isIndex := ← members.withDefault? "isIndex" false Json.bool?
    elements := ← members.withDefault? "elements" OrderedMap.empty
      (OrderedMap.ofJson? (Element.ofJson? form)) }

/-- The page of a text. -/
def parse? (text : String) : Option Page :=
  (Json.skim? text).bind (ofJson? .strict)

end Page

namespace Site

/-- The fields of a stored site, in order. -/
def fieldNames : List String := ["id", "name", "description", "pages"]

/-- The members of the stored form. -/
def toMembers (s : Site) : Members :=
  [("id", .string s.id), ("name", .string s.name)] ++
    optionalMember "description" (s.description.map .string) ++
    [("pages", s.pages.toJson Page.toJson)]

/-- The stored form. -/
def toJson (s : Site) : Json :=
  .object s.toMembers

/-- The site of some members. -/
def ofMembers? (form : Json.ChoiceForm) (members : Members) : Option Site := do
  return {
    id := ← members.required? "id" Json.string?
    name := ← members.required? "name" Json.string?
    description := ← members.optional? "description" Json.string?
    pages := ← members.withDefault? "pages" OrderedMap.empty
      (OrderedMap.ofJson? (Page.ofJson? form)) }

/-- The site of a stored form. -/
def ofJson? (form : Json.ChoiceForm) (value : Json) : Option Site :=
  (Json.recordMembers? fieldNames value).bind (ofMembers? form)

/-- The site of a text. -/
def parse? (text : String) : Option Site :=
  (Json.skim? text).bind (ofJson? .strict)

end Site

end Sitework
