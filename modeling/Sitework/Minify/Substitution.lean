import Sitework.Text.Blank
import Sitework.Text.Split

/-!
# Substituting pieces of text

A rule recognizes a piece at the start of some characters and says what to write for it.
Substituting goes over the characters once: where the rule recognizes a piece, that piece is
replaced and the next one is looked for behind it; other characters stay as they are.
-/

namespace Sitework.Minify

/-- What to write for a piece at the start of some characters, and what follows the piece. -/
abbrev Rule := List Char → Option (List Char × List Char)

/-- The characters with every piece replaced that a rule recognizes. -/
def substitute (rule : Rule) : List Char → List Char
  | [] => []
  | c :: cs =>
    match rule (c :: cs) with
    | none => c :: substitute rule cs
    | some (piece, rest) =>
      if _h : rest.length < (c :: cs).length then piece ++ substitute rule rest
      else c :: substitute rule cs
termination_by cs => cs.length
decreasing_by
  · simp
  · exact _h
  · simp

/-- A character at which the rule recognizes no piece stays. -/
theorem substitute_cons_of_none {rule : Rule} {c : Char} {cs : List Char}
    (h : rule (c :: cs) = none) : substitute rule (c :: cs) = c :: substitute rule cs := by
  rw [substitute, h]

/-- A recognized piece is replaced. -/
theorem substitute_cons_of_some {rule : Rule} {c : Char} {cs piece rest : List Char}
    (h : rule (c :: cs) = some (piece, rest)) (shorter : rest.length < (c :: cs).length) :
    substitute rule (c :: cs) = piece ++ substitute rule rest := by
  rw [substitute, h]
  simp only [dif_pos shorter]

/-- What follows the first occurrence of a mark. -/
def afterMark? (mark : List Char) : List Char → Option (List Char)
  | [] => Text.after? mark []
  | c :: cs => (Text.after? mark (c :: cs)).or (afterMark? mark cs)

/-- Drops a comment, which runs from its opening mark to the next closing mark. An opening mark that
no closing mark follows is plain text. -/
def comment (opening closing : List Char) : Rule := fun cs =>
  (Text.after? opening cs).bind fun inner => (afterMark? closing inner).map ([], ·)

/-- Writes one space for a run of blanks. -/
def blankRun : Rule
  | c :: cs => if Text.isBlank c then some ([' '], cs.dropWhile Text.isBlank) else none
  | [] => none

end Sitework.Minify
