import Sitework.Text.Split
import Sitework.Url.Percent

/-!
# Pairs in a query

A query is a row of pairs, each a key and a value around an equals sign, with plus signs for
spaces and other characters percent-encoded.
-/

namespace Sitework.QueryPair

/-- The text of a key or a value. -/
def decode (cs : List Char) : List Char :=
  let spaced := cs.map fun c => if c = '+' then ' ' else c
  Utf8.decode (Percent.decode (Utf8.encode spaced))

/-- The key and the value of a pair. -/
def read (pair : List Char) : List Char × List Char :=
  match Text.breakOn? '=' pair with
  | some (key, value) => (decode key, decode value)
  | none => (decode pair, [])

end Sitework.QueryPair
