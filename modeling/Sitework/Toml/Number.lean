import Sitework.Number.Binary64
import Sitework.Number.Numeral
import Sitework.Text.Split
import Sitework.Toml.Text

/-!
# Numbers and times in TOML

Integers of 64 bits in four bases, floating-point numbers, dates and times of day. Underscores may
stand between digits.
-/

namespace Sitework.Toml

/-- Digits with single underscores between them, and what follows them. -/
def digits? (isDigit : Char → Bool) : Reader (List Char)
  | [] => none
  | c :: '_' :: rest =>
    if isDigit c then (digits? isDigit rest).map fun (ds, rest) => (c :: ds, rest) else none
  | c :: rest =>
    if isDigit c then
      match digits? isDigit rest with
      | some (ds, rest) => some (c :: ds, rest)
      | none => some ([c], rest)
    else none

/-- An optional sign. -/
def sign : List Char → List Char × List Char
  | '+' :: cs => (['+'], cs)
  | '-' :: cs => (['-'], cs)
  | cs => ([], cs)

/-- Decimal digits of which the first is zero only if it stands alone. -/
def wholeDigits? : Reader (List Char)
  | '0' :: cs => some (['0'], cs)
  | cs => digits? Char.isDigit cs

/-- The greatest integer. -/
def maxInteger : Nat := 2 ^ 63 - 1

/-- An integer after the mark of a base. -/
def inBase? (base : Nat) (isDigit : Char → Bool) (cs : List Char) : Option (List Char) :=
  (digits? isDigit cs).bind fun (ds, rest) =>
    let value := ds.foldl (fun n c => base * n + (Hex.value? c).getD 0) 0
    if value ≤ maxInteger then some rest else none

/-- What follows an integer. -/
def integer? : List Char → Option (List Char)
  | '0' :: 'x' :: cs => inBase? 16 Hex.isDigit cs
  | '0' :: 'o' :: cs => inBase? 8 (fun c => '0' ≤ c && c ≤ '7') cs
  | '0' :: 'b' :: cs => inBase? 2 (fun c => c == '0' || c == '1') cs
  | cs =>
    let (sign, rest) := sign cs
    (wholeDigits? rest).bind fun (ds, rest) =>
      let limit := if sign = ['-'] then maxInteger + 1 else maxInteger
      if Nat.ofDigitChars 10 ds 0 ≤ limit then some rest else none

/-- A point and the digits after it. -/
def fraction? : Reader (List Char)
  | '.' :: cs => (digits? Char.isDigit cs).map fun (ds, rest) => ('.' :: ds, rest)
  | _ => none

/-- A power of ten after its letter. -/
def power? : Reader (List Char)
  | c :: cs =>
    if c = 'e' ∨ c = 'E' then
      let (sign, rest) := sign cs
      (digits? Char.isDigit rest).map fun (ds, rest) => ('e' :: sign ++ ds, rest)
    else none
  | [] => none

/-- Whether a numeral is too large for a number. A negative one is taken as infinite instead. -/
def overflows (numeral : List Char) : Bool :=
  match Decimal.read? numeral with
  | some (false, d) =>
    let places := (Decimal.digits d.coefficient).length + d.exponent
    d.coefficient != 0 && (400 < places || (0 < places && !decide d.toMagnitude.Fits))
  | _ => false

/-- What follows a floating-point number with digits. -/
def decimal? (cs : List Char) : Option (List Char) := do
  let (sign, rest) := sign cs
  let (whole, rest) ← wholeDigits? rest
  let (tail, rest) ← match fraction? rest with
    | some (fraction, rest) =>
      match power? rest with
      | some (power, rest) => some (fraction ++ power, rest)
      | none => some (fraction, rest)
    | none => power? rest
  if overflows (sign ++ whole ++ tail) then none else some rest

/-- What follows the name of a value that is no finite number. -/
def special? (cs : List Char) : Option (List Char) :=
  let rest := (sign cs).2
  (Text.after? ['i', 'n', 'f'] rest).or (Text.after? ['n', 'a', 'n'] rest)

/-- What follows a number. -/
def number? (cs : List Char) : Option (List Char) :=
  ((decimal? cs).or (special? cs)).or (integer? cs)

/-- A number of exactly `n` digits between two bounds. -/
def field? (n low high : Nat) : Reader Nat := fun cs =>
  let ds := cs.take n
  if ds.length = n ∧ ds.all Char.isDigit then
    let value := Nat.ofDigitChars 10 ds 0
    if low ≤ value ∧ value ≤ high then some (value, cs.drop n) else none
  else none

/-- The number of days of a month. -/
def daysIn (year month : Nat) : Nat :=
  if month = 2 then if year % 4 = 0 ∧ (year % 100 ≠ 0 ∨ year % 400 = 0) then 29 else 28
  else if [4, 6, 9, 11].contains month then 30
  else 31

/-- What follows a date. -/
def date? (cs : List Char) : Option (List Char) := do
  let (year, rest) ← field? 4 0 9999 cs
  let (month, rest) ← field? 2 1 12 (← Text.after? ['-'] rest)
  let (_, rest) ← field? 2 1 (daysIn year month) (← Text.after? ['-'] rest)
  return rest

/-- What follows a time of day. -/
def time? (cs : List Char) : Option (List Char) := do
  let (_, rest) ← field? 2 0 23 cs
  let (_, rest) ← field? 2 0 59 (← Text.after? [':'] rest)
  let (_, rest) ← field? 2 0 60 (← Text.after? [':'] rest)
  match rest with
  | '.' :: fraction =>
    if fraction.head?.any Char.isDigit then return fraction.dropWhile Char.isDigit else none
  | _ => return rest

/-- What follows the distance from universal time, which may be left out. -/
def zone? (cs : List Char) : Option (List Char) :=
  match cs with
  | c :: rest =>
    if c = 'Z' ∨ c = 'z' then some rest
    else if c = '+' ∨ c = '-' then do
      let (_, rest) ← field? 2 0 23 rest
      let (_, rest) ← field? 2 0 59 (← Text.after? [':'] rest)
      return rest
    else some cs
  | [] => some []

/-- What follows a date, a time of day or both. -/
def moment? (cs : List Char) : Option (List Char) :=
  match date? cs with
  | none => time? cs
  | some rest =>
    match rest with
    | c :: next =>
      if c = 'T' ∨ c = 't' ∨ c = ' ' then
        match time? next with
        | some rest => zone? rest
        | none => if c = ' ' then some rest else none
      else some rest
    | [] => some []

end Sitework.Toml
