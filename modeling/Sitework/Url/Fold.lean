import Sitework.Url.FoldChart

/-!
# Folding of domain names

Domain names are compared without regard to case and width, so each character has one form in them.
A character becomes a row of characters in that form, often itself; some become nothing, and some
are refused.
-/

namespace Sitework.Domain

/-- The form of a character outside of ASCII; none for a character that is refused. -/
def foldWide? (c : Char) : Option (List Char) :=
  if droppedChart.lists c then some []
  else
    match letterChart.entry? c, ligatureChart.numbers c with
    | some e, _ => some (e.numbers.map fun n => Char.ofNat (n + (c.toNat - e.first)))
    | none, n :: ns => some ((n :: ns).map Char.ofNat)
    | none, [] => if refusedChart.lists c then none else some [c]

/-- The form of a character in a domain name; none for a character that is refused. -/
def fold? (c : Char) : Option (List Char) :=
  if c.toNat < 0x80 then some [c.toLower] else foldWide? c

/-- Whether a character is its own form. -/
def isFolded (c : Char) : Bool :=
  fold? c == some [c]

end Sitework.Domain
