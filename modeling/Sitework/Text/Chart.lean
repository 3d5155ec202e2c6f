import Sitework.Number.Hex
import Sitework.Text.Split

/-!
# Charts of characters

A chart lists code points and says something of each. Its text is a row of entries with blanks
between them, and all its numbers are hexadecimal. An entry is a code point `AD`, a range `0-1F`,
or every so many code points of a range, `100-12E/2`; after an equals sign it may give numbers for
what it lists, `300-314=E6`.
-/

namespace Sitework.Text

/-- Code points at equal distances, and the numbers that are given for them. -/
structure ChartEntry where
  /-- The first code point. -/
  first : Nat
  /-- The last code point. -/
  last : Nat
  /-- The distance from one code point to the next. -/
  step : Nat
  /-- The numbers given for the code points. -/
  numbers : List Nat
deriving DecidableEq, Repr

namespace ChartEntry

/-- Whether the entry lists a code point. -/
def covers (e : ChartEntry) (n : Nat) : Bool :=
  e.first ≤ n && n ≤ e.last && (n - e.first) % e.step == 0

/-- The entry of a text. -/
def ofText? (cs : List Char) : Option ChartEntry := do
  let (place, numbers) := (breakOn? '=' cs).getD (cs, [])
  let (range, step) := (breakOn? '/' place).getD (place, ['1'])
  let (first, last) := (breakOn? '-' range).getD (range, range)
  return {
    first := ← Hex.ofDigits? first
    last := ← Hex.ofDigits? last
    step := ← Hex.ofDigits? step
    numbers := ← if numbers = [] then some [] else (splitBy (· == ',') numbers).mapM Hex.ofDigits? }

end ChartEntry

/-- A list of code points with what is said of them. -/
abbrev Chart := List ChartEntry

namespace Chart

/-- The chart of a text. -/
def ofText (text : String) : Chart :=
  (splitBy (fun c => c == ' ' || c == '\n') text.toList).filterMap ChartEntry.ofText?

/-- The first entry for a character. -/
def entry? (chart : Chart) (c : Char) : Option ChartEntry :=
  chart.find? (·.covers c.toNat)

/-- Whether the chart lists a character. -/
def lists (chart : Chart) (c : Char) : Bool :=
  (chart.entry? c).isSome

/-- The numbers given for a character; none for one that is not listed. -/
def numbers (chart : Chart) (c : Char) : List Nat :=
  ((chart.entry? c).map ChartEntry.numbers).getD []

end Chart

end Sitework.Text
