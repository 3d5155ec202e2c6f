import Sitework.Toml.Number
import Sitework.Toml.Table

/-!
# Reading TOML

A document is a row of lines, each blank, a comment, the header of a table, or a key with its
value. Arrays and tables inside values, and the keys of a path, are fewer than eighty deep.
-/

namespace Sitework.Toml

/-- The greatest depth of arrays and tables in a value, and of keys in a path. -/
def maxDepth : Nat := 79

/-- The items of an array, after its opening bracket or a comma. -/
def items? (item : Reader Value) (cs : List Char) : Option (List Value × List Char) :=
  match skipLines cs with
  | ']' :: rest => some ([], rest)
  | start =>
    match item start with
    | none => none
    | some (value, rest) =>
      match skipLines rest with
      | ']' :: rest => some ([value], rest)
      | ',' :: next =>
        if _h : next.length < cs.length then
          (items? item next).map fun (values, rest) => (value :: values, rest)
        else none
      | _ => none
termination_by cs.length

/-- A path of keys that is not too deep. -/
def shortPath? (cs : List Char) : Option (List String × List Char) :=
  (path? cs).filter fun (path, _) => path.length ≤ maxDepth

/-- A key, an equals sign and a value. -/
def pair? (item : Reader Value) (cs : List Char) : Option ((List String × Value) × List Char) :=
  match shortPath? cs with
  | some (path, '=' :: rest) =>
    (item (skipBlanks rest)).map fun (value, rest) => ((path, value), skipBlanks rest)
  | _ => none

/-- The entries of a table between braces, from a pair on. -/
def fields? (item : Reader Value) (entries : Entries) (cs : List Char) :
    Option (Entries × List Char) :=
  match pair? item cs with
  | none => none
  | some ((path, value), rest) =>
    match define value path entries with
    | none => none
    | some entries =>
      match rest with
      | '\x7d' :: rest => some (entries, rest)
      | ',' :: next =>
        if _h : next.length < cs.length then fields? item entries next else none
      | _ => none
termination_by cs.length

/-- A value with arrays and tables up to a depth. -/
def value? (depth : Nat) : Reader Value := fun cs =>
  match cs with
  | [] => none
  | c :: rest =>
    if c = '"' ∨ c = '\'' then
      (string? cs).map fun (text, rest) => (.string (String.ofList text), rest)
    else if c = '[' then
      match depth with
      | 0 => none
      | depth + 1 => (items? (value? depth) rest).map fun (items, rest) => (.array items, rest)
    else if c = '\x7b' then
      match depth, skipBlanks rest with
      | 0, _ => none
      | _ + 1, '\x7d' :: rest => some (.table .inline [], rest)
      | depth + 1, start =>
        (fields? (value? depth) [] start).map fun (entries, rest) => (.table .inline entries, rest)
    else
      match Text.after? "true".toList cs, Text.after? "false".toList cs with
      | some rest, _ => some (.boolean true, rest)
      | none, some rest => some (.boolean false, rest)
      | none, none => ((moment? cs).or (number? cs)).map (.quantity, ·)

/-- A document as it is read: its tables, and the path of the header that lines belong to. -/
structure Document where
  /-- The entries of the document. -/
  entries : Entries
  /-- The path of the last header. -/
  header : List String

/-- The document after a header; `many` says that it is one of an array of tables. -/
def Document.startTable (d : Document) (many : Bool) (path : List String) : Option Document :=
  match path.getLast? with
  | none => none
  | some key =>
    let add := if many then addTable key else openTable key
    (within add path.dropLast d.entries).map (⟨·, path⟩)

/-- The document after a key with its value. -/
def Document.addPair (d : Document) (path : List String) (value : Value) : Option Document :=
  (within (define value path) d.header d.entries).map (⟨·, d.header⟩)

/-- Reads a header. -/
def header? (d : Document) (many : Bool) (cs : List Char) : Option (Document × List Char) :=
  match shortPath? cs with
  | none => none
  | some (path, rest) =>
    (Text.after? (if many then [']', ']'] else [']']) rest).bind fun rest =>
      (d.startTable many path).map (·, rest)

/-- Reads what stands on a line. -/
def line? (d : Document) (cs : List Char) : Option (Document × List Char) :=
  match cs with
  | '[' :: '[' :: rest => header? d true rest
  | '[' :: rest => header? d false rest
  | _ =>
    (pair? (value? maxDepth) cs).bind fun ((path, value), rest) =>
      (d.addPair path value).map (·, rest)

/-- Reads the lines of a document. -/
def lines? (d : Document) (cs : List Char) : Option Document :=
  match skipLines cs with
  | [] => some d
  | start =>
    match line? d start with
    | none => none
    | some (d, rest) =>
      match endLine? rest with
      | none => none
      | some next => if _h : next.length < cs.length then lines? d next else none
termination_by cs.length

/-- Each line break as one line feed. -/
def unifyBreaks : List Char → List Char
  | '\r' :: '\n' :: cs => '\n' :: unifyBreaks cs
  | c :: cs => c :: unifyBreaks cs
  | [] => []

/-- The characters without a mark of their byte order. -/
def dropMark : List Char → List Char
  | '\uFEFF' :: cs => cs
  | cs => cs

/-- The entries of a document. -/
def parse? (text : String) : Option Entries :=
  (lines? ⟨[], []⟩ (unifyBreaks (dropMark text.toList))).map (·.entries)

end Sitework.Toml
