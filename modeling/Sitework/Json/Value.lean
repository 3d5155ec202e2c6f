import Sitework.Number.Binary64

/-!
# JSON values

Objects keep the order of their members and may repeat a key, because whether a repeated key is
an error depends on what the object stands for. Integers that fit 64 bits are kept apart from
other numbers, because an integer field takes no number written with a fraction. What is
well-formed but cannot be held has a place of its own, so that it may be passed over.
-/

namespace Sitework

/-- A JSON value. -/
inductive Json where
  /-- The literal `null`. -/
  | null
  /-- A truth value. -/
  | bool (value : Bool)
  /-- An integer written without fraction or exponent. -/
  | integer (value : Int)
  /-- Any other number. -/
  | number (value : Binary64)
  /-- A string. -/
  | string (value : String)
  /-- An array. -/
  | array (items : List Json)
  /-- An object, with its members in written order. -/
  | object (members : List (String × Json))
  /-- A well-formed value that cannot be held: a number that is too large, a string with a
  surrogate that stands alone, or a container that is nested too deeply. -/
  | unreadable
deriving Repr, Inhabited

namespace Json

mutual

/-- Whether every part of the value can be held. -/
def isReadable : Json → Bool
  | .array items => areReadable items
  | .object members => haveReadable members
  | .unreadable => false
  | _ => true

/-- Whether every part of some items can be held. -/
def areReadable : List Json → Bool
  | [] => true
  | item :: items => item.isReadable && areReadable items

/-- Whether every part of some members can be held. -/
def haveReadable : List (String × Json) → Bool
  | [] => true
  | (_, value) :: members => value.isReadable && haveReadable members

end

/-- The text of a string value. -/
def string? : Json → Option String
  | .string value => some value
  | _ => none

/-- A truth value. -/
def bool? : Json → Option Bool
  | .bool value => some value
  | _ => none

/-- The value of an integer between two bounds. -/
def integer? (low high : Int) : Json → Option Int
  | .integer value => if low ≤ value ∧ value ≤ high then some value else none
  | _ => none

/-- Any number, as the nearest floating-point number. -/
def number? : Json → Option Binary64
  | .integer value => some (.ofInt value)
  | .number value => some value
  | _ => none

/-- The items of an array. -/
def array? : Json → Option (List Json)
  | .array items => some items
  | _ => none

/-- The members of an object. -/
def object? : Json → Option (List (String × Json))
  | .object members => some members
  | _ => none

/-- Which objects may stand for a choice without content. -/
inductive ChoiceForm where
  /-- One that maps the name of the choice to `null`. -/
  | strict
  /-- One that maps the name of the choice to `null` or to an object without members. -/
  | lenient
deriving DecidableEq, Repr

/-- The name of a choice without content: its string, or an object of the given form. -/
def choice? (form : ChoiceForm) : Json → Option String
  | .string name => some name
  | .object [(name, .null)] => some name
  | .object [(name, .object [])] => if form = .lenient then some name else none
  | _ => none

end Json

end Sitework
