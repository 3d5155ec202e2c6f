import Mathlib.Data.List.DropRight
import Sitework.Proofs.Text.Split
import Sitework.Text.Blank

/-!
# Trimmed texts

A text that begins and ends with no blank stays as it is when blanks are cut off at its ends.
-/

namespace Sitework.Text

variable {c : Char} {cs a b : List Char}

theorem trimRight_cons (c : Char) (cs : List Char) : trimRight (c :: cs) =
    if trimRight cs = [] ∧ isBlank c = true then [] else c :: trimRight cs := by
  rw [trimRight, trimRight, List.reverse_cons, List.dropWhile_append]
  cases cs.reverse.dropWhile isBlank with
  | nil => cases hc : isBlank c <;> simp [hc]
  | cons d ds => simp

/-- A character that is no blank keeps its place. -/
theorem trimRight_cons_of_not_blank (h : isBlank c = false) :
    trimRight (c :: cs) = c :: trimRight cs := by
  rw [trimRight_cons, if_neg fun hblank => absurd (h.symm.trans hblank.2) Bool.false_ne_true]

/-- Nothing is left exactly if all characters are blanks. -/
theorem trimRight_eq_nil_iff : trimRight cs = [] ↔ ∀ c ∈ cs, isBlank c = true :=
  List.rdropWhile_eq_nil_iff

/-- So it is at both ends. -/
theorem trim_eq_nil_iff : trim cs = [] ↔ ∀ c ∈ cs, isBlank c = true := by
  rw [trim, trimRight_eq_nil_iff]
  induction cs with
  | nil => rfl
  | cons c cs ih =>
    rw [List.dropWhile_cons, List.forall_mem_cons]
    cases hc : isBlank c with
    | false => simp [hc]
    | true => simp [ih]

/-- Characters that begin and end with no blank. -/
def IsTrimmed (cs : List Char) : Prop :=
  (∀ c ∈ cs.head?, isBlank c = false) ∧ ∀ c ∈ cs.getLast?, isBlank c = false

instance (cs : List Char) : Decidable (IsTrimmed cs) :=
  @instDecidableAnd _ _ (Option.decidableForallMem cs.head?) (Option.decidableForallMem cs.getLast?)

/-- Trimmed texts that are joined are trimmed. -/
theorem IsTrimmed.append (ha : IsTrimmed a) (hb : IsTrimmed b) : IsTrimmed (a ++ b) := by
  refine ⟨fun c hc => ?_, fun c hc => ?_⟩
  · rw [List.head?_append, Option.mem_def, Option.or_eq_some_iff] at hc
    exact hc.elim (ha.1 c) fun hc => hb.1 c hc.2
  · rw [List.getLast?_append, Option.mem_def, Option.or_eq_some_iff] at hc
    exact hc.elim (hb.2 c) fun hc => ha.2 c hc.2

theorem IsTrimmed.trimRight_eq_self (h : IsTrimmed a) : trimRight a = a := by
  obtain rfl | ⟨a, c, rfl⟩ := List.eq_nil_or_concat a
  · rfl
  · rw [List.concat_eq_append] at h ⊢
    exact List.rdropWhile_concat_neg _ _ _ (Bool.eq_false_iff.1 (h.2 c List.getLast?_concat))

/-- A trimmed text with a last character that is no blank is trimmed, whatever stands between. -/
theorem IsTrimmed.append_concat (ha : IsTrimmed a) (hne : a ≠ [])
    (hc : isBlank c = false) (b : List Char) : IsTrimmed (a ++ b ++ [c]) := by
  refine ⟨fun d hd => ha.1 d ?_, fun d hd => ?_⟩
  · rwa [List.append_assoc, List.head?_append_of_ne_nil _ hne] at hd
  · rw [List.getLast?_concat] at hd
    exact Option.some.inj hd ▸ hc

theorem isTrimmed_of_not_blank (h : ∀ c ∈ a, isBlank c = false) : IsTrimmed a :=
  ⟨fun c hc => h c (List.mem_of_mem_head? hc), fun c hc => h c (List.mem_of_getLast? hc)⟩

theorem IsTrimmed.trim_eq_self (h : IsTrimmed a) : trim a = a := by
  rw [trim, dropWhile_eq_self h.1, h.trimRight_eq_self]

end Sitework.Text
