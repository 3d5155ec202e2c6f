import Sitework.OrderedMap
import Sitework.Text.Utf8

/-!
# Archives

An archive holds files in the order in which they were added, each under a path of its own.
-/

namespace Sitework

/-- Files under their paths, in order. -/
abbrev Archive := OrderedMap (List UInt8)

/-- Why a file cannot be added. -/
inductive ArchiveError where
  /-- There is a file under the path already. -/
  | duplicate (path : String)
deriving DecidableEq, Repr

/-- The text of the error. -/
def ArchiveError.message : ArchiveError → String
  | .duplicate path => "invalid Zip archive: Duplicate filename: " ++ path

namespace Archive

/-- The archive with one more file. -/
def add (a : Archive) (path : String) (bytes : List UInt8) : Except ArchiveError Archive :=
  if a.contains path then .error (.duplicate path) else .ok (a.insert path bytes)

/-- The archive with one more file that holds a text. -/
def addText (a : Archive) (path text : String) : Except ArchiveError Archive :=
  Archive.add a path (Utf8.encode text.toList)

end Archive

end Sitework
