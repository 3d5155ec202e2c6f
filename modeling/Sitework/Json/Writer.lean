import Sitework.Json.Numeral
import Sitework.Json.Text

/-!
# Writing JSON text

A value is written either on one line without blanks, or with one item or member a line, indented
by two spaces for each open container. An empty container is written as two brackets either way.
-/

namespace Sitework.Json

/-- A string with its quotes. -/
def quote (text : String) : List Char :=
  Text.encode text.toList

/-- The text of a number, a string or a literal; nothing for a container. What cannot be held is
written as `null`. -/
def scalarText : Json → List Char
  | .null | .unreadable => "null".toList
  | .bool true => "true".toList
  | .bool false => "false".toList
  | .integer value => (toString value).toList
  | .number value => (numberFormat.write value).toList
  | .string value => quote value
  | .array _ | .object _ => []

mutual

/-- The text on one line. -/
def compactChars : Json → List Char
  | .array items => '[' :: compactItems items ++ [']']
  | .object members => '{' :: compactMembers members ++ ['}']
  | value => scalarText value

/-- Items with commas between them. -/
def compactItems : List Json → List Char
  | [] => []
  | [item] => compactChars item
  | item :: items => compactChars item ++ ',' :: compactItems items

/-- Members with commas between them. -/
def compactMembers : List (String × Json) → List Char
  | [] => []
  | [(key, value)] => quote key ++ ':' :: compactChars value
  | (key, value) :: members =>
    quote key ++ ':' :: compactChars value ++ ',' :: compactMembers members

end

/-- A line break and the indentation of a depth. -/
def newLine (depth : Nat) : List Char :=
  '\n' :: List.replicate (2 * depth) ' '

mutual

/-- The text with one item or member a line. -/
def prettyChars (depth : Nat) : Json → List Char
  | .array [] => ['[', ']']
  | .array (item :: items) =>
    '[' :: prettyItems (depth + 1) (item :: items) ++ newLine depth ++ [']']
  | .object [] => ['{', '}']
  | .object (member :: members) =>
    '{' :: prettyMembers (depth + 1) (member :: members) ++ newLine depth ++ ['}']
  | value => scalarText value

/-- Items, each on a line of its own. -/
def prettyItems (depth : Nat) : List Json → List Char
  | [] => []
  | [item] => newLine depth ++ prettyChars depth item
  | item :: items => newLine depth ++ prettyChars depth item ++ ',' :: prettyItems depth items

/-- Members, each on a line of its own. -/
def prettyMembers (depth : Nat) : List (String × Json) → List Char
  | [] => []
  | [(key, value)] => newLine depth ++ quote key ++ ':' :: ' ' :: prettyChars depth value
  | (key, value) :: members =>
    newLine depth ++ quote key ++ ':' :: ' ' :: prettyChars depth value ++
      ',' :: prettyMembers depth members

end

/-- The text of a value on one line. -/
def compact (value : Json) : String :=
  String.ofList (compactChars value)

/-- The text of a value with one item or member a line. -/
def pretty (value : Json) : String :=
  String.ofList (prettyChars 0 value)

end Sitework.Json
