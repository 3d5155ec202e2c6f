import Sitework.Text.Split
import Sitework.Url.Percent

/-!
# Paths

The path of a URL is a list of segments. A segment of one dot goes away, and one of two dots takes
the segment before it away, unless that is the letter of a drive.
-/

namespace Sitework

/-- The path of a URL. -/
inductive UrlPath where
  /-- A path of segments. -/
  | segments (list : List (List Char))
  /-- Text that is not taken apart. -/
  | plain (text : List Char)
deriving DecidableEq, Repr

namespace UrlPath

/-- The spellings of a dot. -/
def dots : List (List Char) := [['.'], ['%', '2', 'e']]

/-- Whether a segment stands for the place where it is. -/
def isDot (segment : List Char) : Bool :=
  dots.contains (Text.lower segment)

/-- Whether a segment stands for the place above. -/
def isDoubleDot (segment : List Char) : Bool :=
  (dots.flatMap fun a => dots.map fun b => a ++ b).contains (Text.lower segment)

/-- Whether a segment is the letter of a drive. -/
def isDrive : List Char → Bool
  | [letter, mark] => letter.isAlpha && (mark == ':' || mark == '|')
  | _ => false

/-- The segments without the last one; they are in reverse order. -/
def shorten : List (List Char) → List (List Char)
  | last :: rest => if isDrive last then last :: rest else rest
  | [] => []

/-- Adds segments to those in `done`, which are in reverse order. A dot segment at the end leaves
an empty segment. -/
def resolve (done : List (List Char)) : List (List Char) → List (List Char)
  | [] => done.reverse
  | segment :: rest =>
    let next :=
      if isDoubleDot segment then shorten done
      else if isDot segment then done
      else Percent.encode Percent.inPath segment :: done
    if rest.isEmpty && (isDoubleDot segment || isDot segment) then ([] :: next).reverse
    else resolve next rest

/-- The segments between separators; one separator may stand before the first of them. -/
def pieces (isSeparator : Char → Bool) (cs : List Char) : List (List Char) :=
  match cs with
  | c :: rest => Text.splitBy isSeparator (if isSeparator c then rest else cs)
  | [] => [[]]

/-- The segments of a path. -/
def split (isSeparator : Char → Bool) (cs : List Char) : List (List Char) :=
  resolve [] (pieces isSeparator cs)

/-- The letter of a drive with a colon. -/
def normalDrive (segment : List Char) : List Char :=
  if isDrive segment then segment.take 1 ++ [':'] else segment

/-- The segments from the first one that is not empty; the last one stays. -/
def dropEmpty : List (List Char) → List (List Char)
  | [] :: segment :: rest => dropEmpty (segment :: rest)
  | list => list

/-- The segments of a path to a file. -/
def splitFile (isSeparator : Char → Bool) (cs : List Char) : List (List Char) :=
  dropEmpty ((split isSeparator cs).map normalDrive)

/-- The written form of a path. -/
def text : UrlPath → List Char
  | .segments list => list.flatMap fun segment => '/' :: segment
  | .plain text => text

end UrlPath

end Sitework
