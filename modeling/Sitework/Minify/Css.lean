import Sitework.Minify.Substitution

/-!
# Minified stylesheets

Comments go away, and so do blanks at either end and around punctuation; any other run of blanks
becomes one space. A semicolon before a closing brace is dropped.
-/

namespace Sitework.Minify

/-- Marks around which no blank is needed. -/
def isPunctuation (c : Char) : Bool :=
  c == '\x7b' || c == '\x7d' || c == ';' || c == ':' || c == ',' || c == '>'

/-- Drops the blanks around a mark. -/
def punctuation : Rule := fun cs =>
  match cs.dropWhile Text.isBlank with
  | c :: rest => if isPunctuation c then some ([c], rest.dropWhile Text.isBlank) else none
  | [] => none

/-- Drops a semicolon before a closing brace. -/
def lastSemicolon : Rule
  | ';' :: '\x7d' :: rest => some (['\x7d'], rest)
  | _ => none

/-- A stylesheet with the same rules and fewer characters. -/
def css (text : String) : String :=
  let plain := substitute (comment ['/', '*'] ['*', '/']) text.toList
  let tight := substitute punctuation (substitute blankRun plain)
  String.ofList (Text.trim (substitute lastSemicolon tight))

end Sitework.Minify
