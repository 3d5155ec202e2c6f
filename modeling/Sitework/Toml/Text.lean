import Sitework.Number.Hex

/-!
# Text in TOML

Blanks, comments, keys and the four forms of strings. Line breaks are single line feeds here; other
control characters than the tab may stand nowhere.
-/

namespace Sitework.Toml

/-- Reads something at the start of some characters and tells what follows it. -/
abbrev Reader (α : Type) := List Char → Option (α × List Char)

/-- Characters that separate words on a line. -/
def isBlank (c : Char) : Bool :=
  c == ' ' || c == '\t'

/-- Characters that may stand in a line. -/
def isLineChar (c : Char) : Bool :=
  c == '\t' || (0x20 ≤ c.toNat && c.toNat != 0x7F)

/-- What follows the blanks at the start. -/
def skipBlanks (cs : List Char) : List Char :=
  cs.dropWhile isBlank

/-- What follows a comment, if there is one: the end of its line. -/
def skipComment : List Char → List Char
  | '#' :: cs => cs.dropWhile isLineChar
  | cs => cs

/-- What follows the end of a line; blanks and a comment may stand before it. -/
def endLine? (cs : List Char) : Option (List Char) :=
  match skipComment (skipBlanks cs) with
  | [] => some []
  | '\n' :: rest => some rest
  | _ => none

/-- What follows blanks, comments and line breaks. -/
def skipLines (cs : List Char) : List Char :=
  let rest := skipComment (skipBlanks cs)
  match rest with
  | '\n' :: next => if _h : next.length < cs.length then skipLines next else rest
  | _ => rest
termination_by cs.length

/-- The character of a code point. -/
def ofCodePoint? (digits : List Char) : Option Char :=
  (Hex.ofDigits? digits).bind fun n => if n.isValidChar then some (Char.ofNat n) else none

/-- The character of an escape, after its backslash. -/
def escape? : Reader Char
  | '"' :: rest => some ('"', rest)
  | '\\' :: rest => some ('\\', rest)
  | 'b' :: rest => some ('\x08', rest)
  | 'f' :: rest => some ('\x0c', rest)
  | 'n' :: rest => some ('\n', rest)
  | 'r' :: rest => some ('\r', rest)
  | 't' :: rest => some ('\t', rest)
  | 'u' :: rest =>
    if rest.length < 4 then none else (ofCodePoint? (rest.take 4)).map (·, rest.drop 4)
  | 'U' :: rest =>
    if rest.length < 8 then none else (ofCodePoint? (rest.take 8)).map (·, rest.drop 8)
  | _ => none

/-- A string on one line with escapes, after its opening quote. -/
def basicString? : Reader (List Char)
  | [] => none
  | c :: cs =>
    if c = '"' then some ([], cs)
    else
      match if c = '\\' then escape? cs else if isLineChar c then some (c, cs) else none with
      | none => none
      | some (x, rest) =>
        if _h : rest.length < (c :: cs).length then
          (basicString? rest).map fun (text, rest) => (x :: text, rest)
        else none
termination_by cs => cs.length
decreasing_by exact _h

/-- A string on one line without escapes, after its opening quote. -/
def literalString? : Reader (List Char)
  | [] => none
  | c :: cs =>
    if c = '\'' then some ([], cs)
    else if isLineChar c then (literalString? cs).map fun (text, rest) => (c :: text, rest)
    else none

/-- The quotes at the end of a string of many lines: three, after up to two that belong to it. -/
def closing? (quote : Char) (cs : List Char) : Option (List Char × List Char) :=
  let run := min 5 (cs.takeWhile (· == quote)).length
  if run < 3 then none else some (List.replicate (run - 3) quote, cs.drop run)

/-- What follows a backslash at the end of a line: all blanks and line breaks go away. -/
def joinLines? (cs : List Char) : Option (List Char) :=
  match skipBlanks cs with
  | '\n' :: rest => some (rest.dropWhile fun c => isBlank c || c == '\n')
  | _ => none

/-- What a character of a string of many lines with escapes stands for, and what follows it. -/
def lineChar? (c : Char) (cs : List Char) : Option (List Char × List Char) :=
  if c = '\\' then
    match joinLines? cs with
    | some rest => some ([], rest)
    | none => (escape? cs).map fun (x, rest) => ([x], rest)
  else if isLineChar c || c == '\n' then some ([c], cs)
  else none

/-- A string of many lines with escapes, after its opening quotes. -/
def basicLines? : Reader (List Char)
  | [] => none
  | c :: cs =>
    match closing? '"' (c :: cs) with
    | some result => some result
    | none =>
      match lineChar? c cs with
      | none => none
      | some (text, rest) =>
        if _h : rest.length < (c :: cs).length then
          (basicLines? rest).map fun (more, rest) => (text ++ more, rest)
        else none
termination_by cs => cs.length
decreasing_by exact _h

/-- A string of many lines without escapes, after its opening quotes. -/
def literalLines? : Reader (List Char)
  | [] => none
  | c :: cs =>
    match closing? '\'' (c :: cs) with
    | some result => some result
    | none =>
      if isLineChar c || c == '\n' then
        (literalLines? cs).map fun (text, rest) => (c :: text, rest)
      else none

/-- The first line break of a string of many lines is no part of it. -/
def dropBreak : List Char → List Char
  | '\n' :: cs => cs
  | cs => cs

/-- A string of any form. -/
def string? : Reader (List Char)
  | '"' :: '"' :: '"' :: cs => basicLines? (dropBreak cs)
  | '\'' :: '\'' :: '\'' :: cs => literalLines? (dropBreak cs)
  | '"' :: cs => basicString? cs
  | '\'' :: cs => literalString? cs
  | _ => none

/-- Characters of a key without quotes. -/
def isKeyChar (c : Char) : Bool :=
  c.isAlphanum || c == '-' || c == '_'

/-- A key without dots. -/
def simpleKey? : Reader String
  | '"' :: cs => (basicString? cs).map fun (key, rest) => (String.ofList key, rest)
  | '\'' :: cs => (literalString? cs).map fun (key, rest) => (String.ofList key, rest)
  | cs =>
    let key := cs.takeWhile isKeyChar
    if key = [] then none else some (String.ofList key, cs.dropWhile isKeyChar)

/-- The keys between dots. -/
def path? (cs : List Char) : Option (List String × List Char) :=
  match simpleKey? (skipBlanks cs) with
  | none => none
  | some (key, rest) =>
    match skipBlanks rest with
    | '.' :: next =>
      if _h : next.length < cs.length then
        (path? next).map fun (keys, rest) => (key :: keys, rest)
      else none
    | rest => some ([key], rest)
termination_by cs.length

end Sitework.Toml
