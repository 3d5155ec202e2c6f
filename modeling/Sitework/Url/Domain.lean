import Sitework.Url.Label

/-!
# Domain names

A domain name is a row of labels between dots. Its ASCII form has every character folded and every
label with other characters than those of ASCII encoded. If some label is written from right to
left, all labels have to be in order next to it.
-/

namespace Sitework.Domain

/-- The labels of a domain name. -/
def labels? (cs : List Char) : Option (List Label) := do
  let folded ← cs.mapM fold?
  (Text.splitBy (· == '.') (Composition.normalize folded.flatten)).mapM Label.ofPiece?

/-- Whether some labels may stand side by side. -/
def areOrdered (labels : List Label) : Bool :=
  !labels.any (Direction.turns ·.text) || labels.all (Direction.isOrdered ·.text)

/-- The ASCII form of a domain name. -/
def toAscii? (cs : List Char) : Option (List Char) :=
  ((labels? cs).filter areOrdered).map fun labels => Text.join ['.'] (labels.map Label.ascii)

end Sitework.Domain
