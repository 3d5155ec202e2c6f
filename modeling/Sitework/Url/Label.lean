import Sitework.Text.Split
import Sitework.Url.Composition
import Sitework.Url.Direction
import Sitework.Url.Fold
import Sitework.Url.Joining
import Sitework.Url.Punycode

/-!
# Labels

A domain name is a row of labels. A label with other characters than those of ASCII has an encoded
form, which starts with a mark of its own; a label may also be given in that form.
-/

namespace Sitework.Domain

/-- A label of a domain name. -/
structure Label where
  /-- The label as it is read. -/
  text : List Char
  /-- The label as it is written with the characters of ASCII. -/
  ascii : List Char
deriving DecidableEq, Repr

/-- Whether a character is one of ASCII. -/
def isAscii (c : Char) : Bool :=
  c.toNat < 0x80

/-- Characters of ASCII that no domain name has. -/
def isForbidden (c : Char) : Bool :=
  c.toNat ≤ 0x20 || c.toNat == 0x7F ||
    ['%', '#', '/', ':', '<', '>', '?', '@', '[', '\\', ']', '^', '|'].contains c

namespace Label

/-- The start of an encoded label. -/
def encodedMark : List Char := ['x', 'n', '-', '-']

/-- The greatest length of a label with other characters than those of ASCII. -/
def maxLength : Nat := 1000

/-- The greatest length of an encoded label, after the mark. -/
def maxEncodedLength : Nat := 2000

/-- Whether a text may be that of a label. -/
def isText (text : List Char) : Bool :=
  !text.any isForbidden &&
    (text.all isAscii ||
      text.length ≤ maxLength && !text.head?.any Text.isMark && Joining.fit text)

/-- Whether a text is what folding and composing would make of it. -/
def isNormal (text : List Char) : Bool :=
  text.all isFolded && Composition.normalize text == text

/-- The text of an encoded label without its mark. No other text has the same encoded form, and the
text cannot do without one. -/
def decode? (digits : List Char) : Option (List Char) :=
  if maxEncodedLength < digits.length then none
  else
    (Punycode.decode? digits).filter fun text =>
      !text.all isAscii && isNormal text && Punycode.encode text == digits

/-- The label of a folded and composed piece of a domain name. -/
def ofPiece? (piece : List Char) : Option Label :=
  let label : Option Label :=
    match Text.after? encodedMark piece with
    | some digits => (decode? digits).map (⟨·, piece⟩)
    | none =>
      some ⟨piece, if piece.all isAscii then piece else encodedMark ++ Punycode.encode piece⟩
  label.filter fun l => isText l.text

end Label

end Sitework.Domain
