/-!
# Splitting and joining characters

A row of characters is split at every occurrence of a separator, which always gives at least one
piece. `breakOn?` cuts at the first one only.
-/

namespace Sitework.Text

/-- The pieces between the characters that satisfy `p`; never empty. -/
def splitBy (p : Char → Bool) : List Char → List (List Char)
  | [] => [[]]
  | c :: cs =>
    if p c then [] :: splitBy p cs
    else
      match splitBy p cs with
      | [] => [[c]]
      | piece :: pieces => (c :: piece) :: pieces

/-- What comes before and after the first `c`, if there is one. -/
def breakOn? (c : Char) : List Char → Option (List Char × List Char)
  | [] => none
  | x :: xs => if x = c then some ([], xs) else (breakOn? c xs).map fun (a, b) => (x :: a, b)

/-- The pieces with a separator between them. -/
def join (separator : List Char) (pieces : List (List Char)) : List Char :=
  separator.intercalate pieces

/-- What follows a given start, if the characters have that start. -/
def after? : List Char → List Char → Option (List Char)
  | [], cs => some cs
  | _ :: _, [] => none
  | p :: ps, c :: cs => if p = c then after? ps cs else none

/-- What comes before a given end, if the characters have that end. -/
def before? (ending cs : List Char) : Option (List Char) :=
  (after? ending.reverse cs.reverse).map List.reverse

/-- ASCII letters in lower case. -/
def lower (cs : List Char) : List Char :=
  cs.map Char.toLower

/-- Splitting gives at least one piece. -/
theorem splitBy_ne_nil (p : Char → Bool) (cs : List Char) : splitBy p cs ≠ [] := by
  cases cs with
  | nil => simp [splitBy]
  | cons c cs =>
    simp only [splitBy]
    split
    · simp
    · split <;> simp

/-- A start that was split off and the rest make up the characters. -/
theorem append_of_after? {ps cs rest : List Char} (h : after? ps cs = some rest) :
    ps ++ rest = cs := by
  fun_induction after? ps cs with
  | case1 => simp_all
  | case2 => simp at h
  | case3 ps p cs ih => simp [ih h]
  | case4 => simp at h

end Sitework.Text
