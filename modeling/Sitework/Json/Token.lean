import Sitework.Json.Numeral
import Sitework.Json.Text

/-!
# Tokens of JSON text

A text is a row of tokens with blanks between them. Texts, numbers and the three literals are
values of their own; the other tokens are punctuation.
-/

namespace Sitework.Json

/-- A token of JSON text. -/
inductive Token where
  /-- The brace that opens an object. -/
  | objectOpen
  /-- The brace that closes an object. -/
  | objectClose
  /-- The bracket that opens an array. -/
  | arrayOpen
  /-- The bracket that closes an array. -/
  | arrayClose
  /-- A comma. -/
  | comma
  /-- A colon. -/
  | colon
  /-- A string; none if it cannot be held. -/
  | text (value : Option String)
  /-- A number, or one of the literals `true`, `false` and `null`. -/
  | scalar (value : Json)
deriving Repr

namespace Token

/-- Blanks between tokens. -/
def isBlank (c : Char) : Bool :=
  c == ' ' || c == '\t' || c == '\n' || c == '\r'

/-- Splits off the first token of a text that does not start with a blank. -/
def next? : List Char → Option (Token × List Char)
  | '{' :: rest => some (.objectOpen, rest)
  | '}' :: rest => some (.objectClose, rest)
  | '[' :: rest => some (.arrayOpen, rest)
  | ']' :: rest => some (.arrayClose, rest)
  | ',' :: rest => some (.comma, rest)
  | ':' :: rest => some (.colon, rest)
  | 't' :: 'r' :: 'u' :: 'e' :: rest => some (.scalar (.bool true), rest)
  | 'f' :: 'a' :: 'l' :: 's' :: 'e' :: rest => some (.scalar (.bool false), rest)
  | 'n' :: 'u' :: 'l' :: 'l' :: rest => some (.scalar .null, rest)
  | '"' :: rest =>
    match Text.units? rest with
    | some (units, after) => some (.text ((Text.ofUnits? units).map String.ofList), after)
    | none => none
  | cs =>
    match Numeral.literal? cs with
    | some (literal, after) => some (.scalar (literal.value?.getD .unreadable), after)
    | none => none

/-- What follows a token is shorter than the text it was read from. -/
theorem length_lt_of_next? {cs rest : List Char} {token : Token}
    (h : next? cs = some (token, rest)) : rest.length < cs.length := by
  unfold next? at h
  split at h
  case h_10 =>
    split at h
    · next hunits =>
      obtain ⟨-, rfl⟩ := by simpa using h
      have := Text.length_lt_of_units? hunits
      simp only [List.length_cons]
      omega
    · simp at h
  case h_11 =>
    split at h
    · next hliteral =>
      obtain ⟨-, rfl⟩ := by simpa using h
      exact Numeral.length_lt_of_literal? hliteral
    · simp at h
  all_goals
    obtain ⟨-, rfl⟩ := by simpa using h
    simp only [List.length_cons]
    omega

/-- The tokens of a text; none if some part of it is no token. -/
def scan? : List Char → Option (List Token)
  | [] => some []
  | c :: cs =>
    if isBlank c then scan? cs
    else
      match _h : next? (c :: cs) with
      | some (token, rest) => (scan? rest).map (token :: ·)
      | none => none
termination_by cs => cs.length
decreasing_by
  · simp
  · exact length_lt_of_next? _h

end Token

end Sitework.Json
