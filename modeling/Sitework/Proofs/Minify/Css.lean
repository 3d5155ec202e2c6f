import Sitework.Minify.Css
import Sitework.Proofs.Minify.Substitution
import Sitework.Proofs.Text.Trim

/-!
# Blanks in minified stylesheets

Squeezing runs of blanks and dropping blanks around punctuation makes of what stands before a mark a
text of its own: it does not depend on what follows the mark. So a stylesheet is minified piece by
piece. A text in which every blank is a single space away from punctuation stays as it is.
-/

namespace Sitework

namespace Minify

section Punctuation

variable {c m : Char} {cs piece rest : List Char}

/-- A mark is no blank. -/
theorem isBlank_of_isPunctuation (h : isPunctuation m = true) : Text.isBlank m = false := by
  simp only [isPunctuation, Bool.or_eq_true, beq_iff_eq] at h
  rcases h with ((((rfl | rfl) | rfl) | rfl) | rfl) | rfl <;> decide

/-- Blanks, a mark, and blanks. -/
theorem punctuation_eq_some_iff : punctuation cs = some (piece, rest) ↔
    ∃ blanks m after, (∀ c ∈ blanks, Text.isBlank c = true) ∧ isPunctuation m = true ∧
      cs = blanks ++ m :: after ∧ piece = [m] ∧ rest = after.dropWhile Text.isBlank := by
  constructor
  · intro h
    unfold punctuation at h
    split at h
    · next m after hafter =>
      split at h
      · next hm =>
        obtain ⟨rfl, rfl⟩ := Prod.mk.inj (Option.some.inj h)
        refine ⟨cs.takeWhile Text.isBlank, m, after, List.all_eq_true.1 List.all_takeWhile, hm, ?_,
          rfl, rfl⟩
        rw [← hafter, List.takeWhile_append_dropWhile]
      · cases h
    · cases h
  · rintro ⟨blanks, m, after, hblanks, hm, rfl, rfl, rfl⟩
    have hdrop : (blanks ++ m :: after).dropWhile Text.isBlank = m :: after := by
      rw [List.dropWhile_append_of_pos hblanks,
        List.dropWhile_cons_of_neg (Bool.eq_false_iff.1 (isBlank_of_isPunctuation hm))]
    unfold punctuation
    rw [hdrop]
    exact if_pos hm

/-- The rule for marks leaves less than there was. -/
theorem shortens_punctuation : Shortens punctuation := by
  intro c cs piece rest h
  obtain ⟨blanks, m, after, -, -, hcs, -, rfl⟩ := punctuation_eq_some_iff.1 h
  have hlength := (List.dropWhile_sublist Text.isBlank (l := after)).length_le
  rw [hcs, List.length_append, List.length_cons]
  omega

/-- Nothing but blanks is dropped. -/
theorem mem_substitute_punctuation {d : Char} (hd : Text.isBlank d = false) :
    d ∈ substitute punctuation cs ↔ d ∈ cs := by
  induction cs using shortens_punctuation.induction with
  | nil => rw [substitute_nil]
  | copy c cs hnone ih => rw [substitute_cons_of_none hnone, List.mem_cons, List.mem_cons, ih]
  | replace c cs piece rest hsome ih =>
    obtain ⟨blanks, m, after, hblanks, -, hcs, rfl, rfl⟩ := punctuation_eq_some_iff.1 hsome
    have hbefore : d ∉ blanks := fun hmem =>
      absurd (hd.symm.trans (hblanks d hmem)) Bool.false_ne_true
    have hafter : d ∈ after.dropWhile Text.isBlank ↔ d ∈ after := by
      conv_rhs => rw [← List.takeWhile_append_dropWhile (p := Text.isBlank) (l := after)]
      rw [List.mem_append]
      refine (or_iff_right fun hmem => ?_).symm
      exact absurd (hd.symm.trans (List.all_eq_true.1 List.all_takeWhile d hmem))
        Bool.false_ne_true
    rw [substitute_cons_of_some hsome (shortens_punctuation hsome), List.singleton_append, hcs,
      List.mem_append, List.mem_cons, List.mem_cons, ih, hafter, or_iff_right hbefore]

/-- Dropping blanks around marks adds no character. -/
theorem mem_of_mem_substitute_punctuation {d : Char} (h : d ∈ substitute punctuation cs) :
    d ∈ cs := by
  induction cs using shortens_punctuation.induction with
  | nil => rwa [substitute_nil] at h
  | copy c cs hnone ih =>
    rw [substitute_cons_of_none hnone, List.mem_cons] at h
    exact List.mem_cons.2 (h.imp_right ih)
  | replace c cs piece rest hsome ih =>
    obtain ⟨blanks, m, after, -, -, hcs, rfl, rfl⟩ := punctuation_eq_some_iff.1 hsome
    rw [substitute_cons_of_some hsome (shortens_punctuation hsome), List.singleton_append,
      List.mem_cons] at h
    rw [hcs]
    refine List.mem_append_right _ (List.mem_cons.2 (h.imp_right fun hd => ?_))
    exact (List.dropWhile_sublist _).subset (ih hd)

/-- Only blanks become blanks. -/
theorem trimRight_substitute_punctuation_eq_nil_iff :
    Text.trimRight (substitute punctuation cs) = [] ↔ ∀ c ∈ cs, Text.isBlank c = true := by
  rw [Text.trimRight_eq_nil_iff]
  refine ⟨fun h c hc => ?_, fun h c hc => h c (mem_of_mem_substitute_punctuation hc)⟩
  by_contra hblank
  exact hblank (h c ((mem_substitute_punctuation (Bool.eq_false_iff.2 hblank)).2 hc))

/-- A mark that comes later changes nothing where no mark comes after the blanks, if there is more
than blanks. -/
theorem punctuation_append_eq_none (hm : isPunctuation m = true) (hnone : punctuation cs = none)
    (hblanks : ¬∀ c ∈ cs, Text.isBlank c = true) (rest : List Char) :
    punctuation (cs ++ m :: rest) = none := by
  have hdrop := Text.dropWhile_append_cons (isBlank_of_isPunctuation hm) cs rest
  cases hrest : cs.dropWhile Text.isBlank with
  | nil => exact absurd (List.dropWhile_eq_nil_iff.1 hrest) hblanks
  | cons d ds =>
    rw [hrest] at hdrop
    rw [punctuation, hrest] at hnone
    have hd : ¬isPunctuation d = true := fun hd => nomatch (if_pos hd).symm.trans hnone
    rw [punctuation, hdrop]
    exact if_neg hd

/-- Blanks on both sides of a mark are dropped, and what stands before them does not depend on what
follows. -/
theorem substitute_punctuation_append (hm : isPunctuation m = true) (a b : List Char) :
    substitute punctuation (a ++ m :: b) = Text.trimRight (substitute punctuation a) ++
      m :: substitute punctuation (b.dropWhile Text.isBlank) := by
  have hmark := isBlank_of_isPunctuation hm
  have hstart {blanks : List Char} (hblanks : ∀ c ∈ blanks, Text.isBlank c = true) :
      punctuation (blanks ++ m :: b) = some ([m], b.dropWhile Text.isBlank) :=
    punctuation_eq_some_iff.2 ⟨blanks, m, b, hblanks, hm, rfl, rfl, rfl⟩
  induction a using shortens_punctuation.induction with
  | nil =>
    have hsome : punctuation (m :: b) = some ([m], b.dropWhile Text.isBlank) :=
      hstart (List.forall_mem_nil _)
    rw [List.nil_append]
    rw [substitute_cons_of_some hsome (shortens_punctuation hsome), substitute_nil]
    rfl
  | copy c a hnone ih =>
    by_cases hblanks : ∀ d ∈ c :: a, Text.isBlank d = true
    · have hsome := hstart hblanks
      rw [trimRight_substitute_punctuation_eq_nil_iff.2 hblanks, List.cons_append] at *
      rw [substitute_cons_of_some hsome (shortens_punctuation hsome)]
      rfl
    · have hextended : punctuation (c :: (a ++ m :: b)) = none :=
        punctuation_append_eq_none hm hnone hblanks b
      have hkept : ¬(Text.trimRight (substitute punctuation a) = [] ∧ Text.isBlank c = true) := by
        rw [trimRight_substitute_punctuation_eq_nil_iff, and_comm]
        exact fun hall => hblanks (List.forall_mem_cons.2 hall)
      rw [List.cons_append, substitute_cons_of_none hextended, ih, substitute_cons_of_none hnone,
        Text.trimRight_cons, if_neg hkept, List.cons_append]
  | replace c a piece rest hsome ih =>
    obtain ⟨blanks, n, after, hblanks, hn, hcs, rfl, rfl⟩ := punctuation_eq_some_iff.1 hsome
    have hextended : punctuation (c :: (a ++ m :: b)) =
        some ([n], after.dropWhile Text.isBlank ++ m :: b) := by
      refine punctuation_eq_some_iff.2 ⟨blanks, n, after ++ m :: b, hblanks, hn, ?_, rfl, ?_⟩
      · rw [← List.cons_append, hcs, List.append_assoc, List.cons_append]
      · rw [Text.dropWhile_append_cons hmark]
    rw [List.cons_append, substitute_cons_of_some hextended (shortens_punctuation hextended), ih,
      substitute_cons_of_some hsome (shortens_punctuation hsome), List.singleton_append,
      List.singleton_append, Text.trimRight_cons_of_not_blank (isBlank_of_isPunctuation hn),
      List.cons_append]

/-- Characters stay as they are if no blank is beside another one or a mark. -/
theorem substitute_punctuation_eq_self (h : cs.IsChain fun a b =>
    (Text.isBlank a = true → Text.isBlank b = false ∧ isPunctuation b = false) ∧
      (isPunctuation a = true → Text.isBlank b = false)) :
    substitute punctuation cs = cs := by
  induction cs with
  | nil => exact substitute_nil _
  | cons c cs ih =>
    by_cases hc : isPunctuation c = true
    · have hdrop : cs.dropWhile Text.isBlank = cs :=
        Text.dropWhile_eq_self fun d hd => ((List.isChain_cons.1 h).1 d hd).2 hc
      have hmark := substitute_punctuation_append hc [] cs
      rw [substitute_nil, hdrop, ih h.tail] at hmark
      exact hmark
    · have hnone : punctuation (c :: cs) = none := by
        cases hblank : Text.isBlank c with
        | false =>
          rw [punctuation, List.dropWhile_cons_of_neg (Bool.eq_false_iff.1 hblank)]
          exact if_neg hc
        | true =>
          rw [punctuation, List.dropWhile_cons_of_pos hblank]
          cases cs with
          | nil => rfl
          | cons d cs =>
            obtain ⟨hd, hmark⟩ := (List.isChain_cons_cons.1 h).1.1 hblank
            rw [List.dropWhile_cons_of_neg (Bool.eq_false_iff.1 hd)]
            exact if_neg (Bool.eq_false_iff.1 hmark)
      rw [substitute_cons_of_none hnone, ih h.tail]

end Punctuation

section Tight

variable {c m : Char} {cs : List Char}

/-- Characters with single spaces only where blanks are needed. -/
def tight (cs : List Char) : List Char :=
  substitute punctuation (substitute blankRun cs)

/-- A text in which every blank is a single space, and none is beside a mark. -/
def IsTight (cs : List Char) : Prop :=
  (∀ c ∈ cs, Text.isBlank c = true → c = ' ') ∧ cs.IsChain fun a b =>
    (Text.isBlank a = true → Text.isBlank b = false ∧ isPunctuation b = false) ∧
      (isPunctuation a = true → Text.isBlank b = false)

instance (cs : List Char) : Decidable (IsTight cs) :=
  @instDecidableAnd _ _ (List.decidableBAll _ cs) inferInstance

/-- A tight text stays as it is. -/
theorem IsTight.tight_eq_self (h : IsTight cs) : tight cs = cs := by
  rw [tight, substitute_blankRun_eq_self h.1 (h.2.imp fun _ _ hab ha => (hab.1 ha).1),
    substitute_punctuation_eq_self h.2]

/-- Blanks at the start may be dropped before or after runs are squeezed. -/
theorem substitute_blankRun_dropWhile (cs : List Char) :
    (substitute blankRun cs).dropWhile Text.isBlank =
      substitute blankRun (cs.dropWhile Text.isBlank) := by
  induction cs using shortens_blankRun.induction with
  | nil => rw [substitute_nil, List.dropWhile_nil, substitute_nil]
  | copy c cs hnone ih =>
    have hc := isBlank_of_blankRun_eq_none hnone
    rw [List.dropWhile_cons_of_neg (Bool.eq_false_iff.1 hc), substitute_blankRun_of_not_blank hc,
      List.dropWhile_cons_of_neg (Bool.eq_false_iff.1 hc)]
  | replace c cs piece rest hsome ih =>
    obtain ⟨hc, -, rfl⟩ := blankRun_eq_some hsome
    rw [substitute_blankRun_of_blank hc, List.dropWhile_cons_of_pos (by decide), ih,
      List.dropWhile_cons_of_pos hc, List.dropWhile_idempotent]

/-- What stands before a mark becomes a text of its own. -/
theorem tight_append (hm : isPunctuation m = true) (a b : List Char) :
    tight (a ++ m :: b) = Text.trimRight (tight a) ++ m :: tight (b.dropWhile Text.isBlank) := by
  rw [tight, substitute_blankRun_append (isBlank_of_isPunctuation hm),
    substitute_punctuation_append hm, substitute_blankRun_dropWhile]
  rfl

/-- Tightening adds no character but single blanks. -/
theorem mem_of_mem_tight {d : Char} (h : d ∈ tight cs) : d ∈ cs ∨ d = ' ' := by
  by_cases hspace : d = ' '
  · exact .inr hspace
  · exact .inl (mem_of_mem_substitute_blankRun (mem_of_mem_substitute_punctuation h) hspace)

/-- A text without the blanks around it and around its marks. -/
def word (cs : List Char) : List Char :=
  Text.trimRight (tight (cs.dropWhile Text.isBlank))

/-- Blanks before a word do not count. -/
theorem word_append {blanks : List Char} (h : ∀ c ∈ blanks, Text.isBlank c = true)
    (cs : List Char) : word (blanks ++ cs) = word cs := by
  rw [word, List.dropWhile_append_of_pos h, word]

/-- A text without blanks is tight. -/
theorem isTight_of_not_blank (h : ∀ c ∈ cs, Text.isBlank c = false) : IsTight cs := by
  refine ⟨fun c hc hblank => absurd hblank (Bool.eq_false_iff.1 (h c hc)),
    (List.pairwise_of_forall_mem_list fun a ha b hb => ?_).isChain⟩
  exact ⟨fun hblank => absurd hblank (Bool.eq_false_iff.1 (h a ha)), fun _ => h b hb⟩

/-- A tight text without blanks at its ends is its own word. -/
theorem IsTight.word_eq_self (h : IsTight cs) (htrimmed : Text.IsTrimmed cs) : word cs = cs := by
  rw [word, Text.dropWhile_eq_self htrimmed.1, h.tight_eq_self, htrimmed.trimRight_eq_self]

theorem word_nil : word [] = [] :=
  (isTight_of_not_blank (List.forall_mem_nil _)).word_eq_self
    (Text.isTrimmed_of_not_blank (List.forall_mem_nil _))

/-- A word has no character that the text does not have, but single blanks. -/
theorem mem_of_mem_word {d : Char} (h : d ∈ word cs) : d ∈ cs ∨ d = ' ' := by
  have htight : d ∈ tight (cs.dropWhile Text.isBlank) := by
    rw [word, Text.trimRight, List.mem_reverse] at h
    exact List.mem_reverse.1 ((List.dropWhile_sublist _).subset h)
  exact (mem_of_mem_tight htight).imp_left fun h => (List.dropWhile_sublist _).subset h

/-- Of blanks after a tight text at most a single space is left. -/
theorem IsTight.exists_tight_append_blanks {a blanks : List Char} (h : IsTight (a ++ [c]))
    (hc : Text.isBlank c = false) (hblanks : ∀ d ∈ blanks, Text.isBlank d = true) :
    ∃ ending, tight (a ++ [c] ++ blanks) = a ++ [c] ++ ending ∧
      (ending = [] ∨ ending = [' ']) := by
  have hend := substitute_blankRun_blanks hblanks
  have hself : substitute blankRun a = a := by
    have hwhole := substitute_blankRun_eq_self h.1 (h.2.imp fun _ _ hab ha => (hab.1 ha).1)
    rw [substitute_blankRun_append hc, substitute_nil] at hwhole
    exact List.append_cancel_right hwhole
  rw [tight, List.append_assoc, List.singleton_append, substitute_blankRun_append hc, hself]
  by_cases hm : isPunctuation c = true
  · have hkept := substitute_punctuation_eq_self h.2
    have hnothing : (substitute blankRun blanks).dropWhile Text.isBlank = [] := by
      rcases hend with hend | hend <;> rw [hend] <;> rfl
    rw [substitute_punctuation_append hm, List.dropWhile_nil] at hkept
    refine ⟨[], ?_, .inl rfl⟩
    rw [substitute_punctuation_append hm, hnothing, hkept, List.append_nil]
  · refine ⟨_, ?_, hend⟩
    rw [List.append_cons, substitute_punctuation_eq_self]
    rcases hend with hend | hend <;> rw [hend]
    · rw [List.append_nil]
      exact h.2
    · refine h.2.append (List.isChain_singleton _) fun x hx y hy => ?_
      obtain rfl : c = x := by simpa using hx
      exact ⟨fun hblank => absurd (hc.symm.trans hblank) Bool.false_ne_true,
        fun hmark => absurd hmark hm⟩

/-- A tight text between blanks is a word. -/
theorem IsTight.word_append_blanks {blanks : List Char} (h : IsTight cs)
    (htrimmed : Text.IsTrimmed cs) (hne : cs ≠ [])
    (hblanks : ∀ d ∈ blanks, Text.isBlank d = true) : word (cs ++ blanks) = cs := by
  have hdrop : (cs ++ blanks).dropWhile Text.isBlank = cs ++ blanks := by
    refine Text.dropWhile_eq_self ?_
    rw [List.head?_append_of_ne_nil _ hne]
    exact htrimmed.1
  obtain rfl | ⟨a, c, rfl⟩ := List.eq_nil_or_concat cs
  · exact absurd rfl hne
  rw [List.concat_eq_append] at h htrimmed hdrop ⊢
  obtain ⟨ending, htight, hending⟩ :=
    h.exists_tight_append_blanks (htrimmed.2 c List.getLast?_concat) hblanks
  rw [word, hdrop, htight]
  rcases hending with rfl | rfl
  · rw [List.append_nil, htrimmed.trimRight_eq_self]
  · exact (List.rdropWhile_concat_pos _ _ _ (by decide)).trans htrimmed.trimRight_eq_self

/-- Tightening leaves the first character if it is not blank. -/
theorem exists_tight_cons (hc : Text.isBlank c = false) (cs : List Char) :
    ∃ d rest, tight (c :: cs) = d :: rest ∧ Text.isBlank d = false := by
  rw [tight, substitute_blankRun_of_not_blank hc]
  cases hrule : punctuation (c :: substitute blankRun cs) with
  | none => exact ⟨c, _, substitute_cons_of_none hrule, hc⟩
  | some result =>
    obtain ⟨-, m, after, -, hm, -, hpiece, -⟩ := punctuation_eq_some_iff.1 hrule
    refine ⟨m, substitute punctuation result.2, ?_, isBlank_of_isPunctuation hm⟩
    rw [substitute_cons_of_some hrule (shortens_punctuation hrule), hpiece, List.singleton_append]

/-- A word has no blanks at its ends. -/
theorem isTrimmed_word (cs : List Char) : Text.IsTrimmed (word cs) := by
  refine ⟨?_, ?_⟩
  · have hfirst := List.head?_dropWhile_not Text.isBlank cs
    rw [word]
    cases hcs : cs.dropWhile Text.isBlank with
    | nil =>
      rw [tight, substitute_nil, substitute_nil]
      exact nofun
    | cons c cs =>
      rw [hcs] at hfirst
      obtain ⟨d, rest, htight, hd⟩ := exists_tight_cons hfirst cs
      rw [htight, Text.trimRight_cons_of_not_blank hd]
      exact fun x hx => Option.some.inj hx ▸ hd
  · intro c hc
    obtain ⟨hne, hlast⟩ := List.mem_getLast?_eq_getLast hc
    rw [hlast]
    exact Bool.eq_false_iff.2 (List.rdropWhile_last_not _ _ hne)

/-- A tight text that begins with no blank is a word, apart from a space at its end. -/
theorem IsTight.exists_word_append {blanks : List Char} (h : IsTight (c :: cs))
    (hc : Text.isBlank c = false) (hblanks : ∀ d ∈ blanks, Text.isBlank d = true) :
    ∃ ending, c :: cs = word (c :: cs ++ blanks) ++ ending ∧ (ending = [] ∨ ending = [' ']) := by
  have htrimmed {a ending : List Char} {d : Char} (ha : c :: cs = a ++ [d] ++ ending)
      (hd : Text.isBlank d = false) : Text.IsTrimmed (a ++ [d]) := by
    refine ⟨fun x hx => ?_, fun x hx => ?_⟩
    · have hfirst := congrArg List.head? ha
      rw [List.head?_append, Option.mem_def.1 hx, List.head?_cons, Option.some_or] at hfirst
      exact Option.some.inj hfirst ▸ hc
    · rw [List.getLast?_concat] at hx
      exact Option.some.inj hx ▸ hd
  obtain hnil | ⟨before, d, hends⟩ := List.eq_nil_or_concat (c :: cs)
  · exact absurd hnil (List.cons_ne_nil _ _)
  rw [List.concat_eq_append] at hends
  rw [hends] at h htrimmed ⊢
  cases hd : Text.isBlank d with
  | false =>
    refine ⟨[], ?_, .inl rfl⟩
    rw [h.word_append_blanks (htrimmed (List.append_nil _).symm hd) (List.concat_ne_nil _ _)
      hblanks, List.append_nil]
  | true =>
    obtain rfl := h.1 d (List.mem_append_right _ List.mem_cons_self) hd
    obtain rfl | ⟨inner, e, rfl⟩ := List.eq_nil_or_concat before
    · cases hends
      exact absurd hd (hc ▸ Bool.false_ne_true)
    rw [List.concat_eq_append] at h htrimmed ⊢
    -- the character before the space is not blank
    have he : Text.isBlank e = false := by
      refine Bool.eq_false_iff.2 fun hblank => ?_
      have hpair := (List.isChain_append.1 h.2).2.2 e List.getLast?_concat ' ' rfl
      exact absurd hd (Bool.eq_false_iff.1 (hpair.1 hblank).1)
    have hinner : IsTight (inner ++ [e]) :=
      ⟨fun x hx => h.1 x (List.mem_append_left _ hx), h.2.left_of_append⟩
    refine ⟨[' '], ?_, .inr rfl⟩
    rw [List.append_assoc _ [' '], hinner.word_append_blanks (htrimmed rfl he)
      (List.concat_ne_nil _ _)]
    exact List.forall_mem_cons.2 ⟨hd, hblanks⟩

/-- What becomes of a text that ends with a mark, without the blanks before it and whatever follows
it. -/
def Tightens (text written : List Char) : Prop :=
  ∀ rest, tight ((text ++ rest).dropWhile Text.isBlank) =
    written ++ tight (rest.dropWhile Text.isBlank)

namespace Tightens

variable {a b s t : List Char}

/-- Two such texts in a row become what each of them becomes. -/
theorem append (ha : Tightens a s) (hb : Tightens b t) : Tightens (a ++ b) (s ++ t) := by
  intro rest
  rw [List.append_assoc, ha, hb, List.append_assoc]

/-- Blanks become nothing. -/
theorem blanks (h : ∀ c ∈ cs, Text.isBlank c = true) : Tightens cs [] := by
  intro rest
  rw [List.dropWhile_append_of_pos h, List.nil_append]

/-- So does a line break. -/
theorem lineBreak : Tightens ['\n'] [] :=
  .blanks (List.forall_mem_singleton.2 rfl)

/-- A text before a mark becomes its word. -/
theorem word (hm : isPunctuation m = true) (cs : List Char) :
    Tightens (cs ++ [m]) (word cs ++ [m]) := by
  intro rest
  rw [List.append_assoc, List.singleton_append,
    Text.dropWhile_append_cons (isBlank_of_isPunctuation hm), tight_append hm, Minify.word,
    List.append_assoc, List.singleton_append]

/-- So do any number of texts in a row. -/
theorem flatMap {α : Type} {items : List α} {f g : α → List Char}
    (h : ∀ item ∈ items, Tightens (f item) (g item)) :
    Tightens (items.flatMap f) (items.flatMap g) := by
  induction items with
  | nil => exact fun rest => rfl
  | cons item items ih =>
    rw [List.forall_mem_cons] at h
    rw [List.flatMap_cons, List.flatMap_cons]
    exact h.1.append (ih h.2)

end Tightens

end Tight

/-- A character that is not there follows no other one. -/
theorem isChain_of_not_mem {a b : Char} {cs : List Char} (h : b ∉ cs) :
    cs.IsChain fun x y => ¬(x = a ∧ y = b) := by
  refine (List.pairwise_of_forall_mem_list fun x _ y hy => ?_).isChain
  rintro ⟨-, rfl⟩
  exact h hy

section LastSemicolon

variable {a b s t : List Char}

/-- What a rule makes of some characters, whatever follows them. -/
def Rewrites (rule : Rule) (text written : List Char) : Prop :=
  ∀ rest, substitute rule (text ++ rest) = written ++ substitute rule rest

/-- Two texts in a row become what each of them becomes. -/
theorem Rewrites.append {rule : Rule} (ha : Rewrites rule a s) (hb : Rewrites rule b t) :
    Rewrites rule (a ++ b) (s ++ t) := by
  intro rest
  rw [List.append_assoc, ha, hb, List.append_assoc]

/-- So do any number of texts in a row. -/
theorem Rewrites.flatMap {rule : Rule} {α : Type} {items : List α} {f g : α → List Char}
    (h : ∀ item ∈ items, Rewrites rule (f item) (g item)) :
    Rewrites rule (items.flatMap f) (items.flatMap g) := by
  induction items with
  | nil => exact fun rest => rfl
  | cons item items ih =>
    rw [List.forall_mem_cons] at h
    exact h.1.append (ih h.2)

/-- Semicolons stay that no closing brace follows. -/
theorem rewrites_self (h : a.IsChain fun x y => ¬(x = ';' ∧ y = '\x7d'))
    (hlast : a.getLast? ≠ some ';') : Rewrites lastSemicolon a a := by
  intro rest
  induction a with
  | nil => rfl
  | cons c a ih =>
    have hnone : lastSemicolon (c :: (a ++ rest)) = none := by
      cases hsome : lastSemicolon (c :: (a ++ rest)) with
      | none => rfl
      | some result =>
        obtain ⟨after, heq⟩ : ∃ after, c :: (a ++ rest) = ';' :: '\x7d' :: after := by
          unfold lastSemicolon at hsome
          split at hsome
          · next after heq => exact ⟨after, heq⟩
          · cases hsome
        obtain ⟨rfl, hrest⟩ := List.cons.inj heq
        cases a with
        | nil => exact absurd rfl hlast
        | cons d a => exact absurd ⟨rfl, (List.cons.inj hrest).1⟩ (List.isChain_cons_cons.1 h).1
    have hend : a.getLast? ≠ some ';' := by
      cases a with
      | nil => exact nofun
      | cons d a => rwa [List.getLast?_cons_cons] at hlast
    rw [List.cons_append, substitute_cons_of_none hnone, ih h.tail hend, List.cons_append]

/-- The last semicolon of a rule is dropped. -/
theorem rewrites_end : Rewrites lastSemicolon [';', '\x7d'] ['\x7d'] := by
  intro rest
  have hsome : lastSemicolon (';' :: '\x7d' :: rest) = some (['\x7d'], rest) := rfl
  exact substitute_cons_of_some hsome (Nat.lt_add_of_pos_right (Nat.succ_pos 1))

end LastSemicolon

section Comments

variable {a b cs : List Char}

/-- A part of a stylesheet in which no comment begins, wherever it stands. -/
def IsUncommented (cs : List Char) : Prop :=
  (cs.IsChain fun a b => ¬(a = '/' ∧ b = '*')) ∧ cs.head? ≠ some '*'

/-- Texts without comments that are joined have none. -/
theorem IsUncommented.append (ha : IsUncommented a) (hb : IsUncommented b) :
    IsUncommented (a ++ b) := by
  refine ⟨ha.1.append hb.1 ?_, fun hc => ?_⟩
  · rintro _ - _ hc ⟨-, rfl⟩
    exact hb.2 hc
  · rw [List.head?_append, Option.or_eq_some_iff] at hc
    exact hc.elim ha.2 fun hc => hb.2 hc.2

/-- A text without an asterisk has no comment. -/
theorem isUncommented_of_not_mem (h : '*' ∉ cs) : IsUncommented cs :=
  ⟨isChain_of_not_mem h, fun hc => h (List.mem_of_mem_head? hc)⟩

/-- Texts without comments in a row have none. -/
theorem isUncommented_flatMap {α : Type} {items : List α} {f : α → List Char}
    (h : ∀ item ∈ items, IsUncommented (f item)) : IsUncommented (items.flatMap f) := by
  induction items with
  | nil => exact ⟨List.isChain_nil, nofun⟩
  | cons item items ih =>
    rw [List.forall_mem_cons] at h
    exact h.1.append (ih h.2)

/-- Where no comment begins, none is dropped. -/
theorem substitute_cssComment_eq_self (h : cs.IsChain fun a b => ¬(a = '/' ∧ b = '*')) :
    substitute (comment ['/', '*'] ['*', '/']) cs = cs := by
  induction cs with
  | nil => exact substitute_nil _
  | cons c cs ih =>
    have hnone : comment ['/', '*'] ['*', '/'] (c :: cs) = none := by
      rw [comment, Text.after?]
      split
      · next hslash =>
        cases cs with
        | nil => rfl
        | cons d cs =>
          have hstar : '*' ≠ d := fun hd => (List.isChain_cons_cons.1 h).1 ⟨hslash.symm, hd.symm⟩
          rw [Text.after?, if_neg hstar, Option.bind_none]
      · rfl
    rw [substitute_cons_of_none hnone, ih h.tail]

end Comments

section Stylesheets

variable {a b s t text short : List Char}

/-- What a part of a stylesheet becomes, whatever its other parts are. -/
structure Condenses (text short : List Char) : Prop where
  uncommented : IsUncommented text
  written : ∃ written, Tightens text written ∧ Rewrites lastSemicolon written short
  isTrimmed : Text.IsTrimmed short

namespace Condenses

/-- Two parts in a row become what each of them becomes. -/
theorem append (ha : Condenses a s) (hb : Condenses b t) : Condenses (a ++ b) (s ++ t) where
  uncommented := ha.uncommented.append hb.uncommented
  written := by
    obtain ⟨u, hu, hs⟩ := ha.written
    obtain ⟨v, hv, ht⟩ := hb.written
    exact ⟨u ++ v, hu.append hv, hs.append ht⟩
  isTrimmed := ha.isTrimmed.append hb.isTrimmed

/-- Blanks between other parts go. -/
theorem blanks {cs : List Char} (h : ∀ c ∈ cs, Text.isBlank c = true) : Condenses cs [] where
  uncommented := isUncommented_of_not_mem fun hmem => absurd (h _ hmem) (by decide)
  written := ⟨[], .blanks h, fun _ => rfl⟩
  isTrimmed := ⟨nofun, nofun⟩

/-- A stylesheet that begins with no blank becomes what its parts become. -/
theorem toList_css {text : String} (h : Condenses text.toList short)
    (hstart : ∀ c ∈ text.toList.head?, Text.isBlank c = false) : (css text).toList = short := by
  obtain ⟨written, htight, hshort⟩ := h.written
  have hwritten := htight []
  have hfinal := hshort []
  rw [List.append_nil, Text.dropWhile_eq_self hstart, List.dropWhile_nil, tight, tight,
    substitute_nil, substitute_nil, List.append_nil] at hwritten
  rw [List.append_nil, substitute_nil, List.append_nil] at hfinal
  rw [css, String.toList_ofList, substitute_cssComment_eq_self h.uncommented.1, hwritten, hfinal,
    h.isTrimmed.trim_eq_self]

end Condenses

end Stylesheets

end Minify

end Sitework
