import Sitework.Number.Hex
import Sitework.Number.Numeral

/-!
# Tokens of rendered values

A value is a row of tokens with blanks between them. At each place the longest token is taken
that any kind of token matches; of two kinds that match equally far the first one wins. A text
with a character that starts no token has no tokens at all.
-/

namespace Sitework

/-- The kinds of tokens, in order of preference. -/
inductive TokenKind where
  /-- A name and the parenthesis that opens its arguments. -/
  | function
  /-- A hash and three to eight hexadecimal digits. -/
  | hexColor
  /-- A number with a unit or a percent sign. -/
  | dimension
  /-- A text in double quotes. -/
  | doubleQuoted
  /-- A text in single quotes. -/
  | singleQuoted
  /-- A number without a unit. -/
  | number
  /-- A keyword or a bare name. -/
  | ident
  /-- A comma. -/
  | comma
  /-- The parenthesis that closes arguments. -/
  | close
  /-- A slash. -/
  | slash
deriving DecidableEq, Repr, Inhabited

namespace TokenKind

/-- Every kind, in order of preference. -/
def all : List TokenKind :=
  [.function, .hexColor, .dimension, .doubleQuoted, .singleQuoted, .number, .ident, .comma,
    .close, .slash]

/-- Characters that may start a name. -/
def startsName (c : Char) : Bool :=
  c.isAlpha || c == '_'

/-- Characters that may continue a name. -/
def continuesName (c : Char) : Bool :=
  c.isAlphanum || c == '_' || c == '-'

/-- The length of the run of characters at the start that satisfy `p`. -/
def runLength (p : Char → Bool) (cs : List Char) : Nat :=
  (cs.takeWhile p).length

/-- The length of the name at the start; zero if there is none. -/
def nameLength : List Char → Nat
  | [] => 0
  | c :: cs => if startsName c then 1 + runLength continuesName cs else 0

/-- The length of a point and the digits after it; zero if there are none. -/
def fractionLength : List Char → Nat
  | '.' :: cs => if runLength Char.isDigit cs = 0 then 0 else 1 + runLength Char.isDigit cs
  | _ => 0

/-- The length of the number without a sign at the start; zero if there is none. -/
def unsignedLength (cs : List Char) : Nat :=
  let whole := runLength Char.isDigit cs
  if whole = 0 then 0 else whole + fractionLength (cs.drop whole)

/-- The length of the number at the start; zero if there is none. -/
def numberLength : List Char → Nat
  | '-' :: cs => if unsignedLength cs = 0 then 0 else 1 + unsignedLength cs
  | cs => unsignedLength cs

/-- The length of the unit at the start; zero if there is none. -/
def unitLength : List Char → Nat
  | '%' :: _ => 1
  | cs => runLength Char.isAlpha cs

/-- The length of a text that ends with the given quote, the quote included; zero if it has no
end. -/
def quotedLength (quote : Char) (cs : List Char) : Nat :=
  let content := runLength (· != quote) cs
  if content < cs.length then content + 1 else 0

/-- The length of the longest token of a kind at the start of a text; zero if there is none. -/
def reach : TokenKind → List Char → Nat
  | .function, cs =>
    let name := nameLength cs
    if name ≠ 0 ∧ (cs.drop name).head? = some '(' then name + 1 else 0
  | .hexColor, '#' :: cs =>
    let digits := min 8 (runLength Hex.isDigit cs)
    if digits < 3 then 0 else 1 + digits
  | .dimension, cs =>
    let number := numberLength cs
    let unit := unitLength (cs.drop number)
    if number = 0 ∨ unit = 0 then 0 else number + unit
  | .doubleQuoted, '"' :: cs =>
    if quotedLength '"' cs = 0 then 0 else 1 + quotedLength '"' cs
  | .singleQuoted, '\'' :: cs =>
    if quotedLength '\'' cs = 0 then 0 else 1 + quotedLength '\'' cs
  | .number, cs => numberLength cs
  | .ident, cs => nameLength cs
  | .comma, ',' :: _ => 1
  | .close, ')' :: _ => 1
  | .slash, '/' :: _ => 1
  | _, _ => 0

/-- The kind that reaches farthest, with its reach. -/
def longest (cs : List Char) : TokenKind × Nat :=
  all.foldl (fun best kind => if best.2 < kind.reach cs then (kind, kind.reach cs) else best)
    (.function, 0)

end TokenKind

/-- A token of a rendered value. -/
structure Token where
  /-- What the token is. -/
  kind : TokenKind
  /-- The characters of the token. -/
  text : List Char
deriving DecidableEq, Repr, Inhabited

namespace Token

/-- Blanks between tokens. -/
def isBlank (c : Char) : Bool :=
  c == ' ' || c == '\t' || c == '\n' || c == '\r' || c == '\x0c'

/-- The tokens of a text; none if some character starts no token. -/
def scan? : List Char → Option (List Token)
  | [] => some []
  | c :: cs =>
    if isBlank c then scan? cs
    else
      let (kind, reach) := TokenKind.longest (c :: cs)
      if reach = 0 then none
      else (scan? (cs.drop (reach - 1))).map (⟨kind, (c :: cs).take reach⟩ :: ·)
termination_by cs => cs.length
decreasing_by
  · simp
  · simp only [List.length_drop, List.length_cons]
    omega

/-- The tokens of a value. -/
def tokenize? (value : String) : Option (List Token) :=
  scan? value.toList

/-- The text of a token. -/
def string (t : Token) : String :=
  String.ofList t.text

/-- The name of a function token. -/
def functionName? (t : Token) : Option String :=
  if t.kind = .function then some (String.ofList t.text.dropLast) else none

/-- The number and the unit of a dimension token. -/
def dimension? (t : Token) : Option (Binary64 × String) :=
  if t.kind = .dimension then
    let isNumber := fun c : Char => !(c.isAlpha || c == '%')
    match t.text.dropWhile isNumber with
    | [] => none
    | unit => (Binary64.read? (t.text.takeWhile isNumber)).map (·, String.ofList unit)
  else none

/-- The value of a number token. -/
def number? (t : Token) : Option Binary64 :=
  if t.kind = .number then Binary64.read? t.text else none

/-- The text between the two quotes of a quoted token. -/
def quoted? (t : Token) : Option String :=
  if (t.kind = .doubleQuoted ∨ t.kind = .singleQuoted) ∧ 2 ≤ t.text.length then
    some (String.ofList (t.text.drop 1).dropLast)
  else none

end Token

end Sitework
