import Sitework.Text.Split

/-!
# Parts of split texts

Putting the parts of a split text together gives the text back, and a text that was put together
is split into its parts.
-/

namespace Sitework.Text

/-- A start is split off what it begins. -/
@[simp] theorem after?_append (ps cs : List Char) : after? ps (ps ++ cs) = some cs := by
  induction ps with
  | nil => rfl
  | cons p ps ih => rw [List.cons_append, after?, if_pos rfl, ih]

/-- An end is split off what it ends. -/
@[simp] theorem before?_append (ending cs : List Char) :
    before? ending (cs ++ ending) = some cs := by
  rw [before?, List.reverse_append, after?_append, Option.map_some, List.reverse_reverse]

/-- An end that was split off and what comes before it make up the characters. -/
theorem append_of_before? {ending cs rest : List Char} (h : before? ending cs = some rest) :
    rest ++ ending = cs := by
  obtain ⟨reversed, hafter, rfl⟩ := Option.map_eq_some_iff.1 h
  rw [← List.reverse_reverse ending, ← List.reverse_append, append_of_after? hafter,
    List.reverse_reverse]

/-- An end is split off exactly if the characters have it. -/
theorem before?_eq_none_iff {ending cs : List Char} :
    before? ending cs = none ↔ ¬ending <:+ cs := by
  constructor
  · rintro h ⟨rest, rfl⟩
    rw [before?_append] at h
    cases h
  · intro h
    cases hrest : before? ending cs with
    | none => rfl
    | some rest => exact absurd ⟨rest, append_of_before? hrest⟩ h

/-- A start that is not there is not made by what follows a character that it does not have. -/
theorem after?_append_of_none {c : Char} {ps cs : List Char} (h : after? ps cs = none)
    (hps : c ∉ ps) (rest : List Char) : after? ps (cs ++ c :: rest) = none := by
  induction ps generalizing cs with
  | nil => cases cs <;> cases h
  | cons p ps ih =>
    rw [List.mem_cons, not_or] at hps
    cases cs with
    | nil => exact if_neg (Ne.symm hps.1)
    | cons d ds =>
      rw [List.cons_append, after?]
      rw [after?] at h
      split
      · next heq => exact ih (by rwa [if_pos heq] at h) hps.2
      · rfl

section Runs

variable {p : Char → Bool} {c : Char} (h : p c = false) (a b : List Char)
include h

/-- A run ends before a character that is not of its kind. -/
theorem takeWhile_append_cons : (a ++ c :: b).takeWhile p = a.takeWhile p := by
  induction a with
  | nil => exact List.takeWhile_cons_of_neg (Bool.eq_false_iff.1 h)
  | cons d a ih =>
    rw [List.cons_append, List.takeWhile_cons, List.takeWhile_cons, ih]

/-- What stops the dropping keeps all that follows it. -/
theorem dropWhile_append_cons : (a ++ c :: b).dropWhile p = a.dropWhile p ++ c :: b := by
  induction a with
  | nil => exact List.dropWhile_cons_of_neg (Bool.eq_false_iff.1 h)
  | cons d a ih =>
    rw [List.cons_append, List.dropWhile_cons, List.dropWhile_cons, ih]
    split <;> rfl

end Runs

/-- There is no run to drop if the first character is not of its kind. -/
theorem dropWhile_eq_self {p : Char → Bool} {cs : List Char} (h : ∀ c ∈ cs.head?, p c = false) :
    cs.dropWhile p = cs := by
  cases cs with
  | nil => rfl
  | cons c cs => exact List.dropWhile_cons_of_neg (Bool.eq_false_iff.1 (h c rfl))

/-- A row is cut at a character that is new. -/
theorem breakOn?_append {c : Char} {cs : List Char} (h : c ∉ cs) (rest : List Char) :
    breakOn? c (cs ++ c :: rest) = some (cs, rest) := by
  induction cs with
  | nil => rw [List.nil_append, breakOn?, if_pos rfl]
  | cons x xs ih =>
    simp only [List.mem_cons, not_or] at h
    rw [List.cons_append, breakOn?, if_neg (Ne.symm h.1), ih h.2]
    rfl

/-- A text that is cut consists of what comes before the cut, the character and what follows. -/
theorem append_of_breakOn? {c : Char} {cs before after : List Char}
    (h : breakOn? c cs = some (before, after)) : before ++ c :: after = cs := by
  induction cs generalizing before with
  | nil => exact absurd h (Option.some_ne_none _).symm
  | cons x xs ih =>
    rw [breakOn?] at h
    split at h
    · next hx =>
      obtain ⟨rfl, rfl⟩ := Prod.mk.inj (Option.some.inj h)
      rw [List.nil_append, hx]
    · obtain ⟨⟨first, rest⟩, hrest, hparts⟩ := Option.map_eq_some_iff.1 h
      obtain ⟨rfl, rfl⟩ := Prod.mk.inj hparts
      rw [List.cons_append, ih hrest]

/-- The part before the cut does not have the character. -/
theorem not_mem_of_breakOn? {c : Char} {cs before rest : List Char}
    (h : breakOn? c cs = some (before, rest)) : c ∉ before := by
  induction cs generalizing before with
  | nil => exact absurd h.symm (Option.some_ne_none _)
  | cons x xs ih =>
    rw [breakOn?] at h
    split at h
    · obtain ⟨rfl, -⟩ := Prod.mk.inj (Option.some.inj h)
      exact List.not_mem_nil
    · next hx =>
      obtain ⟨⟨inner, after⟩, hinner, heq⟩ := Option.map_eq_some_iff.1 h
      obtain ⟨rfl, rfl⟩ := Prod.mk.inj heq
      exact List.not_mem_cons_of_ne_of_not_mem (Ne.symm hx) (ih hinner)

/-- A separator separates the pieces before it from those after it. -/
theorem splitBy_append_cons {p : Char → Bool} {c : Char} (hc : p c = true) (cs ds : List Char) :
    splitBy p (cs ++ c :: ds) = splitBy p cs ++ splitBy p ds := by
  induction cs with
  | nil => simp [splitBy, hc]
  | cons x xs ih =>
    rw [List.cons_append, splitBy, splitBy, ih]
    split
    · rfl
    · cases hpieces : splitBy p xs with
      | nil => exact absurd hpieces (splitBy_ne_nil p xs)
      | cons piece pieces => rfl

/-- What has no separator is one piece. -/
theorem splitBy_eq_singleton {p : Char → Bool} {cs : List Char} (h : ∀ c ∈ cs, p c = false) :
    splitBy p cs = [cs] := by
  induction cs with
  | nil => rfl
  | cons c cs ih =>
    rw [List.forall_mem_cons] at h
    rw [splitBy, h.1, if_neg Bool.false_ne_true, ih h.2]

/-- No piece has a separator. -/
theorem of_mem_splitBy {p : Char → Bool} {cs piece : List Char} (h : piece ∈ splitBy p cs) :
    ∀ c ∈ piece, p c = false := by
  induction cs generalizing piece with
  | nil => exact List.mem_singleton.1 h ▸ List.forall_mem_nil _
  | cons c cs ih =>
    rw [splitBy] at h
    split at h
    · rcases List.mem_cons.1 h with rfl | h
      · exact List.forall_mem_nil _
      · exact ih h
    · next hc =>
      cases hpieces : splitBy p cs with
      | nil => exact absurd hpieces (splitBy_ne_nil p cs)
      | cons first rest =>
        rw [hpieces] at h ih
        rcases List.mem_cons.1 h with rfl | h
        · exact List.forall_mem_cons.2 ⟨Bool.eq_false_iff.2 hc, ih List.mem_cons_self⟩
        · exact ih (List.mem_cons_of_mem _ h)

/-- Pieces that are put together are split again. -/
theorem splitBy_join {p : Char → Bool} {c : Char} (hc : p c = true) {pieces : List (List Char)}
    (hne : pieces ≠ []) (h : ∀ piece ∈ pieces, ∀ d ∈ piece, p d = false) :
    splitBy p (join [c] pieces) = pieces := by
  induction pieces with
  | nil => exact absurd rfl hne
  | cons piece pieces ih =>
    rw [List.forall_mem_cons] at h
    cases pieces with
    | nil =>
      rw [join, List.intercalate_singleton]
      exact splitBy_eq_singleton h.1
    | cons next pieces =>
      have hrest := ih (List.cons_ne_nil _ _) h.2
      rw [join] at hrest ⊢
      rw [List.intercalate_cons_cons, List.append_assoc, List.singleton_append,
        splitBy_append_cons hc, splitBy_eq_singleton h.1, hrest, List.singleton_append]

/-- Characters of a text are in one of its pieces or separate them. -/
theorem mem_splitBy {p : Char → Bool} {cs : List Char} {c : Char} (hc : c ∈ cs) :
    p c = true ∨ ∃ piece ∈ splitBy p cs, c ∈ piece := by
  induction cs with
  | nil => exact absurd hc List.not_mem_nil
  | cons x xs ih =>
    rw [splitBy]
    split
    · next hx =>
      rcases List.mem_cons.1 hc with rfl | hc
      · exact .inl hx
      · rcases ih hc with hp | ⟨piece, hpiece, hmem⟩
        · exact .inl hp
        · exact .inr ⟨piece, List.mem_cons_of_mem _ hpiece, hmem⟩
    · cases hpieces : splitBy p xs with
      | nil => exact absurd hpieces (splitBy_ne_nil p xs)
      | cons first rest =>
        rw [hpieces] at ih
        rcases List.mem_cons.1 hc with rfl | hc
        · exact .inr ⟨_, List.mem_cons_self, List.mem_cons_self⟩
        · rcases ih hc with hp | ⟨piece, hpiece, hmem⟩
          · exact .inl hp
          · rcases List.mem_cons.1 hpiece with rfl | hpiece
            · exact .inr ⟨_, List.mem_cons_self, List.mem_cons_of_mem _ hmem⟩
            · exact .inr ⟨piece, List.mem_cons_of_mem _ hpiece, hmem⟩

end Sitework.Text
