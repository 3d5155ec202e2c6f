import Sitework.Text.Blank
import Sitework.Url.Basic
import Sitework.Url.Pair

/-!
# Webfont requests

The URL of a stylesheet with webfonts names each family in a pair of its query, with the variants
after a colon. Families that no page applies are left out; without any family there is no request.
-/

namespace Sitework.Webfont

/-- The family that a pair asks for, if it asks for one. -/
def family? (pair : List Char) : Option String :=
  let (key, value) := QueryPair.read pair
  if key = "family".toList then
    some (String.ofList (Text.trim (value.takeWhile (· != ':'))))
  else none

/-- Whether a pair asks for a family that is used. -/
def asksForUsed (used : List String) (pair : List Char) : Bool :=
  (family? pair).any used.contains

/-- Whether a pair stays: it asks for a family that is used, or for something else. -/
def keeps (used : List String) (pair : List Char) : Bool :=
  pair != [] && (family? pair).all used.contains

/-- The URL that asks for no family but those that are used. A URL without a query asks for the
same as before. -/
def trim (url : String) (used : List String) : Except UrlError (Option String) := do
  let parsed ← Url.parse url
  match parsed.query with
  | none => return some parsed.text
  | some query =>
    let pairs := Text.splitBy (· == '&') query
    if pairs.any (asksForUsed used) then
      return some { parsed with query := some (Text.join ['&'] (pairs.filter (keeps used))) }.text
    else return none

end Sitework.Webfont
