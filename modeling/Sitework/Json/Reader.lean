import Sitework.Json.Token

/-!
# Reading JSON text

Tokens are read one by one into a state: what may come next, and the containers that are still
open. Text is well-formed if after its last token one value is complete and no container is open.
A text is denoted by its value only if every part can be held; a reader that passes over some of
the parts may take the value as it is.
-/

namespace Sitework.Json

/-- The greatest depth to which containers may be nested. -/
def maxDepth : Nat := 127

/-- A container that is still open, with what it holds so far in reverse. -/
inductive Frame where
  /-- An array in the middle of an item. -/
  | array (items : List Json)
  /-- An object in the middle of the value of `key`. A key that cannot be held is none. -/
  | object (members : List (Option String × Json)) (key : Option String)
deriving Repr

/-- What has been read, and what may come next. -/
inductive Reading where
  /-- A value. -/
  | value (frames : List Frame)
  /-- The first item of an array that was just opened, or its end. -/
  | firstItem (frames : List Frame)
  /-- The first key of an object that was just opened, or its end. -/
  | firstKey (frames : List Frame)
  /-- A further key. -/
  | key (members : List (Option String × Json)) (frames : List Frame)
  /-- The colon after a key. -/
  | colon (key : Option String) (members : List (Option String × Json)) (frames : List Frame)
  /-- The end of the text, or what continues or ends the innermost container. -/
  | complete (value : Json) (frames : List Frame)
deriving Repr

namespace Reading

/-- A container that ends inside of some others. It cannot be held if it is nested too deeply. -/
def close (container : Json) (frames : List Frame) : Reading :=
  .complete (if (frames.drop (maxDepth - 1)).isEmpty then container else .unreadable) frames

/-- An array, given in reverse, that ends. -/
def closeArray (items : List Json) (frames : List Frame) : Reading :=
  close (.array items.reverse) frames

/-- An object, given in reverse, that ends. It cannot be held if one of its keys cannot. -/
def closeObject (members : List (Option String × Json)) (frames : List Frame) : Reading :=
  match members.reverse.mapM fun (name, last) => name.map (·, last) with
  | some members => close (.object members) frames
  | none => .complete .unreadable frames

/-- Reads a token where a value is due. -/
def startValue? (frames : List Frame) : Token → Option Reading
  | .text (some content) => some (.complete (.string content) frames)
  | .text none => some (.complete .unreadable frames)
  | .scalar content => some (.complete content frames)
  | .arrayOpen => some (.firstItem frames)
  | .objectOpen => some (.firstKey frames)
  | _ => none

/-- Reads one token. -/
def step? : Reading → Token → Option Reading
  | .value frames, token => startValue? frames token
  | .firstItem frames, .arrayClose => some (closeArray [] frames)
  | .firstItem frames, token => startValue? (.array [] :: frames) token
  | .firstKey frames, .objectClose => some (closeObject [] frames)
  | .firstKey frames, .text name => some (.colon name [] frames)
  | .key members frames, .text name => some (.colon name members frames)
  | .colon name members frames, .colon => some (.value (.object members name :: frames))
  | .complete last (.array items :: frames), .comma =>
    some (.value (.array (last :: items) :: frames))
  | .complete last (.array items :: frames), .arrayClose =>
    some (closeArray (last :: items) frames)
  | .complete last (.object members name :: frames), .comma =>
    some (.key ((name, last) :: members) frames)
  | .complete last (.object members name :: frames), .objectClose =>
    some (closeObject ((name, last) :: members) frames)
  | _, _ => none

/-- The value that was read, if it is complete. -/
def value? : Reading → Option Json
  | .complete last [] => some last
  | _ => none

end Reading

/-- The value of a text, with parts that cannot be held; none if the text is not well-formed. -/
def skim? (text : String) : Option Json := do
  let tokens ← Token.scan? text.toList
  let reading ← tokens.foldlM Reading.step? (.value [])
  reading.value?

/-- The value that a text denotes; none if the text is not well-formed, or if some part of it
cannot be held. -/
def parse? (text : String) : Option Json :=
  (skim? text).filter isReadable

end Sitework.Json
