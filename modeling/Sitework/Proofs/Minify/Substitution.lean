import Mathlib.Data.List.Chain
import Mathlib.Data.List.TakeWhile
import Sitework.Minify.Substitution
import Sitework.Proofs.Text.Split

/-!
# Substituting piece by piece

What a rule makes of some characters is told by what it makes of their parts, as long as no piece
lies across the parts. A run of blanks ends at any other character, so squeezing runs of blanks is
done on both sides of that character by themselves.
-/

namespace Sitework.Minify

/-- A rule that goes on leaves less than there was. -/
def Shortens (rule : Rule) : Prop :=
  ∀ {c cs piece rest}, rule (c :: cs) = some (piece, rest) → rest.length < (c :: cs).length

/-- Characters are read as substituting reads them: one that stays, or one piece. -/
@[elab_as_elim]
theorem Shortens.induction {rule : Rule} (hshort : Shortens rule) {motive : List Char → Prop}
    (nil : motive [])
    (copy : ∀ c cs, rule (c :: cs) = none → motive cs → motive (c :: cs))
    (replace : ∀ c cs piece rest, rule (c :: cs) = some (piece, rest) → motive rest →
      motive (c :: cs))
    (cs : List Char) : motive cs := by
  induction hlength : cs.length using Nat.strongRecOn generalizing cs with
  | _ n ih =>
    subst hlength
    cases cs with
    | nil => exact nil
    | cons c cs =>
      cases hrule : rule (c :: cs) with
      | none => exact copy c cs hrule (ih cs.length (Nat.lt_succ_self _) cs rfl)
      | some result =>
        exact replace c cs result.1 result.2 hrule (ih _ (hshort hrule) _ rfl)

theorem substitute_nil (rule : Rule) : substitute rule [] = [] := by
  rw [substitute]

/-- Characters at which a rule never recognizes a piece stay. -/
theorem substitute_append_of_none {rule : Rule} {a : List Char}
    (h : ∀ c ∈ a, ∀ cs, rule (c :: cs) = none) (b : List Char) :
    substitute rule (a ++ b) = a ++ substitute rule b := by
  induction a with
  | nil => rfl
  | cons c a ih =>
    rw [List.forall_mem_cons] at h
    rw [List.cons_append, substitute_cons_of_none (h.1 _), ih h.2, List.cons_append]

/-- A rule that never matches changes nothing. -/
theorem substitute_eq_self_of_none {rule : Rule} {cs : List Char}
    (h : ∀ c ∈ cs, ∀ ds, rule (c :: ds) = none) : substitute rule cs = cs := by
  have hend := substitute_append_of_none h []
  rwa [substitute_nil, List.append_nil] at hend

section Blanks

variable {c : Char} {cs : List Char}

/-- The rule takes all blanks from one on and leaves a space. -/
theorem blankRun_eq_some {piece rest : List Char} (h : blankRun (c :: cs) = some (piece, rest)) :
    Text.isBlank c = true ∧ piece = [' '] ∧ rest = cs.dropWhile Text.isBlank := by
  rw [blankRun] at h
  split at h
  · next hblank =>
    obtain ⟨rfl, rfl⟩ := Prod.mk.inj (Option.some.inj h)
    exact ⟨hblank, rfl, rfl⟩
  · cases h

/-- It matches at every blank. -/
theorem isBlank_of_blankRun_eq_none (h : blankRun (c :: cs) = none) : Text.isBlank c = false := by
  rw [blankRun] at h
  split at h
  · cases h
  · next hblank => exact Bool.eq_false_iff.2 hblank

/-- The rule leaves less than there was. -/
theorem shortens_blankRun : Shortens blankRun := by
  intro c cs piece rest h
  obtain ⟨-, -, rfl⟩ := blankRun_eq_some h
  exact Nat.lt_succ_of_le (List.dropWhile_sublist _).length_le

/-- A run of blanks becomes a space. -/
theorem substitute_blankRun_of_blank (h : Text.isBlank c = true) :
    substitute blankRun (c :: cs) = ' ' :: substitute blankRun (cs.dropWhile Text.isBlank) := by
  have hrule : blankRun (c :: cs) = some ([' '], cs.dropWhile Text.isBlank) := if_pos h
  rw [substitute_cons_of_some hrule (shortens_blankRun hrule), List.singleton_append]

/-- It leaves any other character. -/
theorem substitute_blankRun_of_not_blank (h : Text.isBlank c = false) :
    substitute blankRun (c :: cs) = c :: substitute blankRun cs :=
  substitute_cons_of_none (if_neg (Bool.eq_false_iff.1 h))

/-- What becomes of blanks before another character does not depend on what follows it. -/
theorem substitute_blankRun_append (h : Text.isBlank c = false) (a b : List Char) :
    substitute blankRun (a ++ c :: b) = substitute blankRun a ++ c :: substitute blankRun b := by
  induction a using shortens_blankRun.induction with
  | nil => rw [List.nil_append, substitute_blankRun_of_not_blank h, substitute, List.nil_append]
  | copy d a hnone ih =>
    have hblank := isBlank_of_blankRun_eq_none hnone
    rw [List.cons_append, substitute_blankRun_of_not_blank hblank, ih,
      substitute_blankRun_of_not_blank hblank, List.cons_append]
  | replace d a piece rest hsome ih =>
    obtain ⟨hblank, -, rfl⟩ := blankRun_eq_some hsome
    rw [List.cons_append, substitute_blankRun_of_blank hblank, Text.dropWhile_append_cons h, ih,
      substitute_blankRun_of_blank hblank, List.cons_append]

/-- Blanks become a single space, if there are any. -/
theorem substitute_blankRun_blanks (h : ∀ c ∈ cs, Text.isBlank c = true) :
    substitute blankRun cs = [] ∨ substitute blankRun cs = [' '] := by
  cases cs with
  | nil => exact .inl (substitute_nil _)
  | cons c cs =>
    rw [List.forall_mem_cons] at h
    rw [substitute_blankRun_of_blank h.1, List.dropWhile_eq_nil_iff.2 h.2, substitute_nil]
    exact .inr rfl

/-- Characters stay as they are if every blank is a space with no other one after it. -/
theorem substitute_blankRun_eq_self (hspace : ∀ c ∈ cs, Text.isBlank c = true → c = ' ')
    (hchain : cs.IsChain fun a b => Text.isBlank a = true → Text.isBlank b = false) :
    substitute blankRun cs = cs := by
  induction cs with
  | nil => rw [substitute]
  | cons c cs ih =>
    rw [List.forall_mem_cons] at hspace
    have hrest := ih hspace.2 hchain.tail
    cases hblank : Text.isBlank c with
    | false => rw [substitute_blankRun_of_not_blank hblank, hrest]
    | true =>
      have hdrop : cs.dropWhile Text.isBlank = cs :=
        Text.dropWhile_eq_self fun d hd => (List.isChain_cons.1 hchain).1 d hd hblank
      rw [substitute_blankRun_of_blank hblank, hdrop, hrest, hspace.1 hblank]

/-- Squeezing adds no characters but spaces. -/
theorem mem_of_mem_substitute_blankRun {d : Char} (h : d ∈ substitute blankRun cs)
    (hspace : d ≠ ' ') : d ∈ cs := by
  induction cs using shortens_blankRun.induction with
  | nil => rwa [substitute] at h
  | copy c cs hnone ih =>
    rw [substitute_cons_of_none hnone, List.mem_cons] at h
    exact List.mem_cons.2 (h.imp_right ih)
  | replace c cs piece rest hsome ih =>
    obtain ⟨hblank, -, rfl⟩ := blankRun_eq_some hsome
    rw [substitute_blankRun_of_blank hblank, List.mem_cons] at h
    exact List.mem_cons_of_mem _ ((List.dropWhile_sublist _).subset (ih (h.resolve_left hspace)))

/-- A text with one space for each run of blanks. -/
def squeezed (text : String) : String :=
  String.ofList (substitute blankRun text.toList)

end Blanks

end Sitework.Minify
