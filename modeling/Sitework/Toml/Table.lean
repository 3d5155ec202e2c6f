/-!
# Tables of TOML

A table maps keys to values. Where it came from decides what may be added to it later: a table
with a header of its own is complete once the header's lines are over, one that only lies on the
path of a header may still get a header of its own, and one that dotted keys made may only grow by
dotted keys or by headers below it.
-/

namespace Sitework.Toml

/-- How a table came about. -/
inductive Origin where
  /-- By a header of its own. -/
  | header
  /-- On the path to a header. -/
  | implied
  /-- On the path of a dotted key. -/
  | dotted
  /-- Between braces. -/
  | inline
deriving DecidableEq, Repr

/-- A value. Numbers and times are told apart from other values, but not from each other. -/
inductive Value where
  /-- A string. -/
  | string (text : String)
  /-- A truth value. -/
  | boolean (value : Bool)
  /-- A number, a date or a time of day. -/
  | quantity
  /-- An array between brackets. -/
  | array (items : List Value)
  /-- A table. -/
  | table (origin : Origin) (entries : List (String × Value))
  /-- An array of tables with headers, the latest first. -/
  | tables (rows : List (List (String × Value)))
deriving Repr

/-- The keys of a table with their values. -/
abbrev Entries := List (String × Value)

/-- Replaces the value of a key, or adds the key, as `f` says for the value so far. -/
def alter (f : Option Value → Option Value) (key : String) : Entries → Option Entries
  | [] => (f none).map fun value => [(key, value)]
  | (other, value) :: rest =>
    if other = key then (f (some value)).map fun value => (key, value) :: rest
    else (alter f key rest).map ((other, value) :: ·)

/-- Gives a dotted key a value. No key on the way may have a value that is no table of dotted keys,
and the key itself may have none. -/
def define (value : Value) : List String → Entries → Option Entries
  | [], _ => none
  | [key], entries =>
    alter (fun
      | none => some value
      | some _ => none) key entries
  | key :: next :: rest, entries =>
    alter (fun
      | none => (define value (next :: rest) []).map (.table .dotted)
      | some (.table .dotted inner) => (define value (next :: rest) inner).map (.table .dotted)
      | some (.table .implied inner) =>
        if rest = [] then none else (define value (next :: rest) inner).map (.table .implied)
      | some (.tables (row :: rows)) =>
        if rest = [] then none
        else (define value (next :: rest) row).map fun row => .tables (row :: rows)
      | some _ => none) key entries

/-- Changes the table at the end of a path. Tables that are not there yet are implied; of an array
of tables the latest is meant. -/
def within (f : Entries → Option Entries) : List String → Entries → Option Entries
  | [], entries => f entries
  | key :: rest, entries =>
    alter (fun
      | none => (within f rest []).map (.table .implied)
      | some (.table .inline _) => none
      | some (.table origin inner) => (within f rest inner).map (.table origin)
      | some (.tables (row :: rows)) =>
        (within f rest row).map fun row => .tables (row :: rows)
      | some _ => none) key entries

/-- Opens the table of a header: it is new or was only implied so far. -/
def openTable (key : String) : Entries → Option Entries :=
  alter (fun
    | none => some (.table .header [])
    | some (.table .implied inner) => some (.table .header inner)
    | some _ => none) key

/-- Adds a table to the array of a header. -/
def addTable (key : String) : Entries → Option Entries :=
  alter (fun
    | none => some (.tables [[]])
    | some (.tables rows) => some (.tables ([] :: rows))
    | some _ => none) key

end Sitework.Toml
