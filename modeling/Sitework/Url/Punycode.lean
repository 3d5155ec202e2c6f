import Sitework.Text.Split

/-!
# Letters and digits for other characters

A label of a domain name that has other characters than those of ASCII is written with letters,
digits and dashes: first its ASCII characters, then for each other character, in increasing order,
the distance from the one before, counted over all places where it could stand. The distances are
numbers with a variable number of digits, whose weights adapt to the distances so far.
-/

namespace Sitework.Punycode

/-- The digit of a value below 36. -/
def digit (n : Nat) : Char :=
  Char.ofNat (if n < 26 then 0x61 + n else 0x30 + (n - 26))

/-- The value of a digit in lower case. -/
def value? (c : Char) : Option Nat :=
  if c.isLower then some (c.toNat - 0x61)
  else if c.isDigit then some (c.toNat - 0x30 + 26)
  else none

/-- A digit has the value it was written for. -/
theorem value?_digit {n : Nat} (h : n < 36) : value? (digit n) = some n := by
  have digits : ∀ k < 36, value? (digit k) = some k := by decide
  exact digits n h

/-- The least value of a digit that another digit follows, at a position. -/
def threshold (position bias : Nat) : Nat :=
  max 1 (min 26 (position - bias))

/-- A threshold lies between one and the number of letters. -/
theorem threshold_bounds (position bias : Nat) :
    1 ≤ threshold position bias ∧ threshold position bias ≤ 26 := by
  unfold threshold
  omega

/-- Scales a distance down, and adds a position for every step. -/
def scaleDown (position delta : Nat) : Nat :=
  if 455 < delta then scaleDown (position + 36) (delta / 35)
  else position + 36 * delta / (delta + 38)
termination_by delta
decreasing_by exact Nat.div_lt_self (by omega) (by omega)

/-- The bias after a distance; `count` characters are written then. -/
def adapt (delta count : Nat) (first : Bool) : Nat :=
  let scaled := delta / (if first then 700 else 2)
  scaleDown 0 (scaled + scaled / count)

/-- The digits of a distance from a position on. -/
def distance (bias position n : Nat) : List Char :=
  let t := threshold position bias
  if n < t then [digit n]
  else digit (t + (n - t) % (36 - t)) :: distance bias (position + 36) ((n - t) / (36 - t))
termination_by n
decreasing_by
  have := threshold_bounds position bias
  calc (n - threshold position bias) / (36 - threshold position bias)
      ≤ n - threshold position bias := Nat.div_le_self _ _
    _ < n := by omega

/-- How far a label is written. -/
structure Progress where
  /-- What is written. -/
  text : List Char
  /-- The distance since the last character. -/
  delta : Nat
  /-- The bias of the next distance. -/
  bias : Nat
  /-- The number of characters that are written. -/
  count : Nat

/-- Passes one character of a label while those of a code point are written. -/
def pass (ascii code : Nat) (p : Progress) (c : Char) : Progress :=
  if c.toNat < code then { p with delta := p.delta + 1 }
  else if c.toNat = code then
    ⟨p.text ++ distance p.bias 36 p.delta, 0, adapt p.delta (p.count + 1) (p.count == ascii),
      p.count + 1⟩
  else p

/-- Writes the characters of some code points in increasing order; those below `next` are
written. -/
def writeCodes (cs : List Char) (ascii : Nat) (next : Nat) (p : Progress) : List Nat → List Char
  | [] => p.text
  | code :: codes =>
    let p := { p with delta := p.delta + (code - next) * (p.count + 1) }
    let p := cs.foldl (pass ascii code) p
    writeCodes cs ascii (code + 1) { p with delta := p.delta + 1 } codes

/-- The written form of a label. -/
def encode (cs : List Char) : List Char :=
  let ascii := cs.filter fun c => c.toNat < 0x80
  let codes := ((cs.map Char.toNat).filter (0x80 ≤ ·)).mergeSort.eraseReps
  let start := if ascii = [] then [] else ascii ++ ['-']
  writeCodes cs ascii.length 0x80 ⟨start, 0, 72, ascii.length⟩ codes

/-- A distance and what follows it; `sum` is that of the digits before. -/
def readDistance? (bias position weight sum : Nat) : List Char → Option (Nat × List Char)
  | [] => none
  | c :: cs => do
    let n ← value? c
    let t := threshold position bias
    let sum := sum + n * weight
    if n < t then some (sum, cs)
    else readDistance? bias (position + 36) (weight * (36 - t)) sum cs

/-- Reads distances and inserts the characters that they stand for. -/
def readCodes? (code place bias : Nat) (out : List Char) (cs : List Char) : Option (List Char) :=
  if cs = [] then some out
  else
    match readDistance? bias 36 1 0 cs with
    | none => none
    | some (delta, rest) =>
      let count := out.length + 1
      let code := code + (place + delta) / count
      let place := (place + delta) % count
      if _h : rest.length < cs.length ∧ code.isValidChar then
        readCodes? code (place + 1) (adapt delta count (out.all fun c => c.toNat < 0x80))
          (out.insertIdx place (Char.ofNat code)) rest
      else none
termination_by cs.length

/-- The label of a written form. -/
def decode? (cs : List Char) : Option (List Char) :=
  match Text.breakOn? '-' cs.reverse with
  | some (digits, ascii) => readCodes? 0x80 0 72 ascii.reverse digits.reverse
  | none => readCodes? 0x80 0 72 [] cs

end Sitework.Punycode
