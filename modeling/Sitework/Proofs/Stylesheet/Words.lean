import Sitework.Proofs.Minify.Css
import Sitework.Proofs.Style.Families
import Sitework.Proofs.Stylesheet.Written

/-!
# Words of values

Blanks outside of quotes part the words of a value, and it does not matter how many there are or
whether there are any beside a comma. So a value says the same after its needless blanks are gone,
with a font family in quotes as long as these stay as they are.
-/

namespace Sitework

namespace Css

/-- A word, if it has any characters. -/
def single (word : List Char) : List (List Char) :=
  if word = [] then [] else [word]

/-- The words, the commas and the quoted texts of some characters, after the characters of a word
that has begun. -/
def wordsFrom (quoted : Bool) (word : List Char) : List Char → List (List Char)
  | [] => single word
  | c :: cs =>
    if c = '"' then wordsFrom (!quoted) (word ++ [c]) cs
    else if quoted then wordsFrom quoted (word ++ [c]) cs
    else if Text.isBlank c then single word ++ wordsFrom quoted [] cs
    else if c = ',' then single word ++ [c] :: wordsFrom quoted [] cs
    else wordsFrom quoted (word ++ [c]) cs

/-- A value with one space between its words, commas and quoted texts. -/
def spaced (value : String) : String :=
  " ".intercalate ((wordsFrom false [] value.toList).map String.ofList)

/-- A rule with its values in single spaces. -/
def Rule.spaced (rule : Rule) : Rule :=
  { rule with declarations := rule.declarations.map (Prod.map id Css.spaced) }

/-- A statement with its values in single spaces. -/
def Statement.spaced : Statement → Statement
  | .rule r => .rule r.spaced
  | .media width rules => .media width (rules.map Rule.spaced)

section Words

variable {cs word blanks : List Char} {c : Char}

/-- A blank ends a word. -/
theorem wordsFrom_of_blank (h : Text.isBlank c = true) (word cs : List Char) :
    wordsFrom false word (c :: cs) = single word ++ wordsFrom false [] cs := by
  have hquote : c ≠ '"' := by
    rintro rfl
    exact absurd h (by decide)
  rw [wordsFrom, if_neg hquote, if_neg Bool.false_ne_true, if_pos h]

/-- A comma ends a word and is one itself. -/
theorem wordsFrom_of_comma (word cs : List Char) :
    wordsFrom false word (',' :: cs) = single word ++ [','] :: wordsFrom false [] cs :=
  rfl

/-- Blanks before a word are passed over. -/
theorem wordsFrom_dropWhile (cs : List Char) :
    wordsFrom false [] (cs.dropWhile Text.isBlank) = wordsFrom false [] cs := by
  induction cs with
  | nil => rfl
  | cons c cs ih =>
    cases hc : Text.isBlank c with
    | false => rw [List.dropWhile_cons_of_neg (Bool.eq_false_iff.1 hc)]
    | true =>
      rw [List.dropWhile_cons_of_pos hc, ih, wordsFrom_of_blank hc]
      rfl

/-- Blanks end a word. -/
theorem wordsFrom_append_blanks (hblanks : ∀ c ∈ blanks, Text.isBlank c = true)
    (word cs : List Char) (h : cs = [] ∨ cs.head? = some ',') :
    wordsFrom false word (blanks ++ cs) = wordsFrom false word cs := by
  induction blanks generalizing word with
  | nil => rfl
  | cons c blanks ih =>
    rw [List.forall_mem_cons] at hblanks
    rw [List.cons_append, wordsFrom_of_blank hblanks.1, ih hblanks.2]
    cases cs with
    | nil => exact List.append_nil _
    | cons d cs =>
      obtain rfl : d = ',' := by simpa using h
      rw [wordsFrom_of_comma, wordsFrom_of_comma]
      rfl

/-- Blanks at the end are passed over. -/
theorem wordsFrom_trimRight (hquote : '"' ∉ cs) (word : List Char) :
    wordsFrom false word (Text.trimRight cs) = wordsFrom false word cs := by
  induction cs generalizing word with
  | nil => rfl
  | cons c cs ih =>
    rw [List.mem_cons, not_or] at hquote
    rw [Text.trimRight_cons]
    split_ifs with hblank
    · have hall : ∀ d ∈ c :: cs, Text.isBlank d = true :=
        List.forall_mem_cons.2 ⟨hblank.2, Text.trimRight_eq_nil_iff.1 hblank.1⟩
      have hend := wordsFrom_append_blanks hall word [] (.inl rfl)
      rwa [List.append_nil, eq_comm] at hend
    · unfold wordsFrom
      simp only [if_neg (Ne.symm hquote.1), ih hquote.2]

/-- One space says as much as a run of blanks. -/
theorem wordsFrom_substitute_blankRun (hquote : '"' ∉ cs) (word : List Char) :
    wordsFrom false word (Minify.substitute Minify.blankRun cs) = wordsFrom false word cs := by
  induction cs using Minify.shortens_blankRun.induction generalizing word with
  | nil => rw [Minify.substitute_nil]
  | copy c cs hnone ih =>
    rw [List.mem_cons, not_or] at hquote
    rw [Minify.substitute_cons_of_none hnone]
    unfold wordsFrom
    simp only [if_neg (Ne.symm hquote.1), ih hquote.2]
  | replace c cs piece rest hsome ih =>
    obtain ⟨hblank, -, rfl⟩ := Minify.blankRun_eq_some hsome
    have hrest : '"' ∉ cs.dropWhile Text.isBlank := fun hmem =>
      hquote (List.mem_cons_of_mem _ ((List.dropWhile_sublist _).subset hmem))
    rw [Minify.substitute_blankRun_of_blank hblank, wordsFrom_of_blank hblank,
      wordsFrom_of_blank (by decide), ih hrest, wordsFrom_dropWhile]

/-- A comma needs no blanks around it. -/
theorem wordsFrom_substitute_punctuation (hquote : '"' ∉ cs)
    (hmark : ∀ c ∈ cs, Minify.isPunctuation c = true → c = ',') (word : List Char) :
    wordsFrom false word (Minify.substitute Minify.punctuation cs) = wordsFrom false word cs := by
  induction cs using Minify.shortens_punctuation.induction generalizing word with
  | nil => rw [Minify.substitute_nil]
  | copy c cs hnone ih =>
    rw [List.mem_cons, not_or] at hquote
    rw [List.forall_mem_cons] at hmark
    rw [Minify.substitute_cons_of_none hnone]
    unfold wordsFrom
    simp only [if_neg (Ne.symm hquote.1), ih hquote.2 hmark.2]
  | replace c cs piece rest hsome ih =>
    obtain ⟨blanks, m, after, hblanks, hm, hcs, rfl, rfl⟩ :=
      Minify.punctuation_eq_some_iff.1 hsome
    have hmem {d : Char} (hd : d ∈ after.dropWhile Text.isBlank) : d ∈ c :: cs := by
      rw [hcs]
      exact List.mem_append_right _
        (List.mem_cons_of_mem _ ((List.dropWhile_sublist _).subset hd))
    obtain rfl : m = ',' := hmark m (hcs ▸ List.mem_append_right _ List.mem_cons_self) hm
    rw [Minify.substitute_cons_of_some hsome (Minify.shortens_punctuation hsome), hcs,
      wordsFrom_append_blanks hblanks _ _ (.inr rfl), List.singleton_append, wordsFrom_of_comma,
      wordsFrom_of_comma, ih (fun hd => hquote (hmem hd)) (fun d hd => hmark d (hmem hd)),
      wordsFrom_dropWhile]

/-- A text without needless blanks has the same words. -/
theorem wordsFrom_word (hquote : '"' ∉ cs)
    (hmark : ∀ c ∈ cs, Minify.isPunctuation c = true → c = ',') :
    wordsFrom false [] (Minify.word cs) = wordsFrom false [] cs := by
  have hdrop {c : Char} (hc : c ∈ cs.dropWhile Text.isBlank) : c ∈ cs :=
    (List.dropWhile_sublist _).subset hc
  have hsqueezed {c : Char} (hc : c ∈ Minify.substitute Minify.blankRun
      (cs.dropWhile Text.isBlank)) : c ∈ cs ∨ c = ' ' := by
    by_cases hspace : c = ' '
    · exact .inr hspace
    · exact .inl (hdrop (Minify.mem_of_mem_substitute_blankRun hc hspace))
  have hquoted {cs' : List Char} (h : ∀ {c}, c ∈ cs' → c ∈ cs ∨ c = ' ') : '"' ∉ cs' := fun hc =>
    (h hc).elim hquote (by decide)
  have hmarks : ∀ c ∈ Minify.substitute Minify.blankRun (cs.dropWhile Text.isBlank),
      Minify.isPunctuation c = true → c = ',' := by
    intro c hc hm
    rcases hsqueezed hc with hc | rfl
    · exact hmark c hc hm
    · exact absurd hm (by decide)
  rw [Minify.word,
    wordsFrom_trimRight (hquoted fun hc => Minify.mem_of_mem_tight hc |>.imp_left hdrop),
    Minify.tight, wordsFrom_substitute_punctuation (hquoted hsqueezed) hmarks,
    wordsFrom_substitute_blankRun (fun hc => hquote (hdrop hc)), wordsFrom_dropWhile]

/-- A quoted text is a word as it is, together with what follows its end. -/
theorem wordsFrom_quoted (hquote : '"' ∉ cs) (word rest : List Char) :
    wordsFrom true word (cs ++ '"' :: rest) = wordsFrom false (word ++ cs ++ ['"']) rest := by
  induction cs generalizing word with
  | nil => rw [List.append_nil]; rfl
  | cons c cs ih =>
    rw [List.mem_cons, not_or] at hquote
    rw [List.cons_append, wordsFrom, if_neg (Ne.symm hquote.1), if_pos rfl, ih hquote.2,
      List.append_assoc word, List.singleton_append]

end Words

/-- A value that says the same without its needless blanks, and in which no comment begins. -/
structure IsKept (value : List Char) : Prop where
  isValue : IsValue (Minify.word value)
  words : wordsFrom false [] (Minify.word value) = wordsFrom false [] value
  unended : ∀ c ∈ Minify.word value, c ≠ ';' ∧ c ≠ '\x7d'
  uncommented : value.IsChain fun a b => ¬(a = '/' ∧ b = '*')

/-- Notations are kept. -/
theorem isKept_of_isNotation {cs : List Char} (h : ∀ c ∈ cs, Color.isNotation c = true) :
    IsKept cs := by
  have hne {other : Char} (hother : Color.isNotation other = false) : other ∉ cs := fun hmem =>
    ne_of_holds (h other hmem) hother rfl
  have hword : ∀ c ∈ Minify.word cs, Color.isNotation c = true := by
    intro c hc
    rcases Minify.mem_of_mem_word hc with hc | rfl
    · exact h c hc
    · rfl
  refine ⟨isValue_of_isNotation hword, wordsFrom_word (hne rfl) fun c hc hm => ?_,
    fun c hc => ⟨ne_of_holds (hword c hc) rfl, ne_of_holds (hword c hc) rfl⟩, ?_⟩
  · simp only [Minify.isPunctuation, Bool.or_eq_true, beq_iff_eq] at hm
    rcases hm with ((((rfl | rfl) | rfl) | rfl) | hm) | rfl
    · exact absurd hc (hne rfl)
    · exact absurd hc (hne rfl)
    · exact absurd hc (hne rfl)
    · exact absurd hc (hne rfl)
    · exact hm
    · exact absurd hc (hne rfl)
  · exact Minify.isChain_of_not_mem (hne rfl)

/-- A font family in which minifying changes nothing. -/
def IsPlainFamily (family : String) : Prop :=
  Minify.IsTight family.toList ∧ family.toList.IsChain fun a b => ¬(a = '/' ∧ b = '*')

instance (family : String) : Decidable (IsPlainFamily family) :=
  inferInstanceAs (Decidable (_ ∧ _))

/-- The quoted name of a plain family stays as it is, and the blank after the comma goes. -/
theorem word_fontFamilyCss {family : String} (hplain : IsPlainFamily family) :
    Minify.word (fontFamilyCss family).toList =
      '"' :: family.toList ++ '"' :: ",sans-serif".toList := by
  have htight : Minify.IsTight ('"' :: family.toList ++ ['"']) := by
    refine ⟨fun c hc => ?_, ?_⟩
    · rw [List.mem_append, List.mem_cons, List.mem_singleton] at hc
      rcases hc with (rfl | hc) | rfl
      · exact fun h => absurd h (by decide)
      · exact hplain.1.1 c hc
      · exact fun h => absurd h (by decide)
    · refine List.IsChain.append (List.isChain_cons.2 ⟨fun c _ => ?_, hplain.1.2⟩)
        (List.isChain_singleton _) fun c _ d hd => ?_
      · exact ⟨fun h => absurd h (by decide), fun h => absurd h (by decide)⟩
      · obtain rfl : '"' = d := by simpa using hd
        exact ⟨fun _ => by decide, fun _ => by decide⟩
  have hchars : (fontFamilyCss family).toList =
      '"' :: family.toList ++ ['"'] ++ ',' :: " sans-serif".toList := by
    rw [toList_fontFamilyCss, List.append_assoc]
    rfl
  have hend : Minify.tight (" sans-serif".toList.dropWhile Text.isBlank) = "sans-serif".toList :=
    Minify.IsTight.tight_eq_self (by decide)
  have hdrop : ('"' :: (family.toList ++ ['"'] ++ ',' :: " sans-serif".toList)).dropWhile
      Text.isBlank = '"' :: (family.toList ++ ['"'] ++ ',' :: " sans-serif".toList) :=
    List.dropWhile_cons_of_neg (by decide)
  have hquoted : Text.trimRight ('"' :: family.toList ++ ['"']) = '"' :: family.toList ++ ['"'] :=
    List.rdropWhile_concat_neg _ _ _ (by decide)
  have hlast : Text.trimRight ('"' :: family.toList ++ '"' :: ",sans-seri".toList ++ ['f']) =
      '"' :: family.toList ++ '"' :: ",sans-seri".toList ++ ['f'] :=
    List.rdropWhile_concat_neg _ _ _ (by decide)
  have htext : '"' :: family.toList ++ '"' :: ",sans-serif".toList =
      '"' :: family.toList ++ '"' :: ",sans-seri".toList ++ ['f'] := by
    rw [List.append_assoc]
    rfl
  rw [Minify.word, hchars, List.cons_append, List.cons_append, hdrop, ← List.cons_append,
    ← List.cons_append, Minify.tight_append (by decide), htight.tight_eq_self, hquoted, hend,
    List.append_assoc, List.singleton_append]
  exact (congrArg _ htext).trans (hlast.trans htext.symm)

/-- An accepted font family is kept in quotes if minifying changes nothing in it. -/
theorem isKept_fontFamilyCss {family : String} (h : Validation.isFontFamily family = true)
    (hplain : IsPlainFamily family) : IsKept (fontFamilyCss family).toList := by
  have hne {c : Char} (hc : Validation.endsFamily c = true) : c ∉ family.toList :=
    Validation.not_mem_of_isFontFamily h (.inl hc)
  have hchars := toList_fontFamilyCss family
  have hword := word_fontFamilyCss hplain
  have hwords (rest : List Char) : wordsFrom false [] ('"' :: (family.toList ++ '"' :: rest)) =
      wordsFrom false ('"' :: family.toList ++ ['"']) rest :=
    wordsFrom_quoted (hne rfl) ['"'] rest
  refine ⟨?_, ?_, ?_, ?_⟩
  · rw [hword]
    have hend : IsValue ",sans-serif".toList := isValue_of_isNotation (List.all_eq_true.1 rfl)
    have hquoted := (isValue_of_isFontFamily h).append hend
    rwa [List.append_assoc] at hquoted
  · have hkept : ",sans-serif".toList = ',' :: "sans-serif".toList := rfl
    have hspaced : ", sans-serif".toList = ',' :: ' ' :: "sans-serif".toList := rfl
    have hblank := wordsFrom_of_blank (c := ' ') (by decide) [] "sans-serif".toList
    rw [hword, hchars, List.cons_append, hwords, hwords, hkept, hspaced, wordsFrom_of_comma,
      wordsFrom_of_comma, hblank]
    rfl
  · have hend : ∀ c ∈ '"' :: ",sans-serif".toList, c ≠ ';' ∧ c ≠ '\x7d' :=
      Text.forall_mem_of_all (by decide)
    rw [hword, List.forall_mem_append, List.forall_mem_cons]
    exact ⟨⟨by decide, fun c hc => ⟨ne_of_mem_of_not_mem hc (hne rfl),
      ne_of_mem_of_not_mem hc (hne rfl)⟩⟩, hend⟩
  · rw [hchars]
    refine List.isChain_cons.2 ⟨fun c _ hc => absurd hc.1 (by decide),
      hplain.2.append (by decide) fun c _ d hd hcd => ?_⟩
    obtain rfl : '"' = d := by simpa using hd
    exact absurd hcd.2 (by decide)

end Css

end Sitework
