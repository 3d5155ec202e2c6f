import Sitework.Json.Value

/-!
# Records in JSON

The fields of a record are members of an object. A record names each of its fields at most once;
what else the object holds is left to the record to refuse or ignore. A record that takes its
fields by position may be given as an array.
-/

namespace Sitework.Json

/-- The members of an object whose keys are taken as field names. -/
abbrev Members := List (String × Json)

namespace Members

/-- The values given for a field. -/
def values (members : Members) (name : String) : List Json :=
  members.filterMap fun (key, value) => if key = name then some value else none

/-- A field that must be there. -/
def required? {α : Type} (members : Members) (name : String) (decode : Json → Option α) :
    Option α :=
  match members.values name with
  | [value] => decode value
  | _ => none

/-- A field that may be left out or be `null`. -/
def optional? {α : Type} (members : Members) (name : String) (decode : Json → Option α) :
    Option (Option α) :=
  match members.values name with
  | [] | [.null] => some none
  | [value] => (decode value).map some
  | _ => none

/-- A field that may be left out but not be `null`. -/
def withDefault? {α : Type} (members : Members) (name : String) (default : α)
    (decode : Json → Option α) : Option α :=
  match members.values name with
  | [] => some default
  | [value] => decode value
  | _ => none

end Members

/-- The members of a record given by name, or by position in the order of `names`. -/
def recordMembers? (names : List String) : Json → Option Members
  | .object members => some members
  | .array items => if items.length ≤ names.length then some (names.zip items) else none
  | _ => none

/-- A member, unless its value is absent. -/
def optionalMember (key : String) (value : Option Json) : Members :=
  value.toList.map (key, ·)

end Sitework.Json
