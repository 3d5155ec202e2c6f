import Sitework.Minify.Substitution

/-!
# Minified documents

Comments go away, and so do blanks between two tags and at either end; any other run of blanks
becomes one space. In a start tag, attributes with an empty value are dropped, except those whose
empty value means something.
-/

namespace Sitework.Minify

/-- Characters of an attribute name after its first letter. -/
def isNameChar (c : Char) : Bool :=
  c.isAlphanum || c == '-'

/-- Attributes whose empty value means something. -/
def meaningfulWhenEmpty : List String := ["alt", "value"]

/-- The characters of an empty value. -/
def emptyValue : List Char := ['=', '"', '"']

/-- Drops a blank, a name and an empty value, unless the empty value means something. -/
def emptyAttribute : Rule
  | blank :: c :: cs =>
    if Text.isBlank blank && c.isAlpha then
      let name := c :: cs.takeWhile isNameChar
      let kept := if meaningfulWhenEmpty.contains (String.ofList name) then
        blank :: name ++ emptyValue else []
      (Text.after? emptyValue (cs.dropWhile isNameChar)).map (kept, ·)
    else none
  | _ => none

/-- Characters inside a tag. -/
def isTagChar (c : Char) : Bool :=
  c != '<' && c != '>'

/-- Drops empty attributes from a start tag. -/
def startTag : Rule
  | '<' :: c :: cs =>
    if c.isAlpha then
      match cs.dropWhile isTagChar with
      | '>' :: rest =>
        some (substitute emptyAttribute ('<' :: c :: cs.takeWhile isTagChar ++ ['>']), rest)
      | _ => none
    else none
  | _ => none

/-- Drops the blanks between two tags. -/
def betweenTags : Rule
  | '>' :: c :: cs =>
    if Text.isBlank c then
      (Text.after? ['<'] (cs.dropWhile Text.isBlank)).map (['>', '<'], ·)
    else none
  | _ => none

/-- A document with the same content and fewer characters. -/
def html (text : String) : String :=
  let plain := substitute (comment ['<', '!', '-', '-'] ['-', '-', '>']) text.toList
  let joined := substitute betweenTags (substitute startTag plain)
  String.ofList (Text.trim (substitute blankRun joined))

end Sitework.Minify
