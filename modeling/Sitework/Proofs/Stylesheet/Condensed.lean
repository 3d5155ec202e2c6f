import Sitework.Proofs.Stylesheet.Contents
import Sitework.Proofs.Stylesheet.Words

/-!
# Rules without needless blanks

The short form of a rule is read as a rule for the same name with the same words, as long as the
name has no blanks that minifying drops or changes: it knows nothing of escapes.
-/

namespace Sitework

namespace Selector

/-- Characters that may follow each other in an identifier: what is not plain is escaped, and a
space ends a code point. -/
def Follows (a b : Char) : Prop :=
  isPlain b = true ∨ b = '\\' ∨ a = '\\' ∨ Hex.isDigit a = true ∧ b = ' '

/-- Characters that can stand anywhere in an identifier. -/
structure IsPart (cs : List Char) : Prop where
  chain : cs.IsChain Follows
  first : ∀ c ∈ cs.head?, isPlain c = true ∨ c = '\\'
  spaces : ∀ c ∈ cs, Text.isBlank c = true → c = ' '

section Identifiers

variable {cs : List Char} {a b c : Char} {leading : Bool}

/-- Parts in a row make a part. -/
theorem IsPart.append {xs ys : List Char} (hx : IsPart xs) (hy : IsPart ys) :
    IsPart (xs ++ ys) where
  chain := hx.chain.append hy.chain fun _ _ c hc =>
    (hy.first c hc).elim .inl fun hc => .inr (.inl hc)
  first c hc := by
    rw [List.head?_append, Option.mem_def, Option.or_eq_some_iff] at hc
    exact hc.elim (hx.first c) fun hc => hy.first c hc.2
  spaces c hc := (List.mem_append.1 hc).elim (hx.spaces c) (hy.spaces c)

theorem isPart_nil : IsPart [] :=
  ⟨List.isChain_nil, nofun, nofun⟩

theorem isPart_singleton (h : isPlain c = true) (hblank : Text.isBlank c = true → c = ' ') :
    IsPart [c] := by
  refine ⟨List.isChain_singleton _, fun d hd => .inl ?_, fun d hd => ?_⟩
  · exact Option.some.inj hd ▸ h
  · exact List.mem_singleton.1 hd ▸ hblank

/-- A plain character is no mark. -/
theorem isPunctuation_of_isPlain (h : isPlain c = true) : Minify.isPunctuation c = false := by
  refine Bool.eq_false_iff.2 fun hmark => ?_
  simp only [Minify.isPunctuation, Bool.or_eq_true, beq_iff_eq] at hmark
  rcases hmark with ((((rfl | rfl) | rfl) | rfl) | rfl) | rfl <;> exact absurd h (by decide)

/-- A plain character is blank only outside of ASCII. -/
theorem isBlank_of_isPlain (h : isPlain c = true) (hascii : Text.isBlank c = true → c.toNat < 128) :
    Text.isBlank c = false := by
  rw [Bool.eq_false_iff]
  intro hblank
  have hlt := hascii hblank
  rw [isPlain, Bool.or_eq_true, Bool.or_eq_true, Bool.or_eq_true, beq_iff_eq, beq_iff_eq,
    decide_eq_true_eq] at h
  rcases h with ((h | rfl) | rfl) | h
  · exact absurd (hblank.symm.trans (Text.isBlank_of_isAlphanum h)) Bool.false_ne_true.symm
  · exact absurd hblank (by decide)
  · exact absurd hblank (by decide)
  · omega

/-- The only blank of ASCII that is not given by its code point is the space. -/
theorem eq_space_of_isBlank (h : Text.isBlank c = true) (hascii : c.toNat < 128)
    (hcontrol : isControl c = false) : c = ' ' := by
  simp only [Text.isBlank, Bool.or_eq_true, Bool.and_eq_true, decide_eq_true_eq, beq_iff_eq] at h
  rw [isControl, Bool.or_eq_false_iff, Bool.and_eq_false_iff, decide_eq_false_iff_not,
    decide_eq_false_iff_not, beq_eq_false_iff_ne] at hcontrol
  have hspace : c.toNat = 32 := by omega
  exact Char.ext (UInt32.toNat_inj.1 hspace)

/-- The escape of a code point is a part. -/
theorem isPart_byCodePoint (h : c.toNat < 128) : IsPart (byCodePoint c) := by
  have hdigits := (Css.toDigits_of_isAscii h).1
  have hparts : ∀ d ∈ '\\' :: Nat.toDigits 16 c.toNat, d = '\\' ∨ Hex.isDigit d = true :=
    List.forall_mem_cons.2 ⟨.inl rfl, fun d hd => .inr (hdigits d hd)⟩
  have hplain : ∀ d ∈ '\\' :: Nat.toDigits 16 c.toNat, isPlain d = true ∨ d = '\\' := fun d hd =>
    (hparts d hd).elim .inr fun hd => .inl (isPlain_of_isDigit hd)
  refine ⟨List.IsChain.append ?_ (List.isChain_singleton _) fun x hx y hy => ?_,
    fun d hd => hplain d (List.mem_of_mem_head? hd), fun d hd hblank => ?_⟩
  · refine (List.pairwise_of_forall_mem_list fun x _ y hy => ?_).isChain
    exact (hplain y hy).elim .inl fun hy => .inr (.inl hy)
  · obtain rfl : ' ' = y := by simpa using hy
    rcases hparts x (List.mem_of_getLast? hx) with hx | hx
    · exact .inr (.inr (.inl hx))
    · exact .inr (.inr (.inr ⟨hx, rfl⟩))
  · rcases List.mem_append.1 hd with hd | hd
    · rcases hparts d hd with rfl | hd
      · exact absurd hblank (by decide)
      · have hletter := Text.isBlank_of_isAlphanum (Color.isAlphanum_of_value? hd)
        exact absurd (hblank.symm.trans hletter) Bool.false_ne_true.symm
    · exact List.mem_singleton.1 hd

/-- The written form of a character is a part, unless it is a blank that stays as it is. -/
theorem isPart_escapeChar (leading : Bool) (h : Text.isBlank c = true → c.toNat < 128) :
    IsPart (escapeChar leading c) := by
  rw [escapeChar]
  split_ifs with hnull hcode hplain
  · exact isPart_singleton (by decide) (by decide)
  · exact isPart_byCodePoint (toNat_lt_of_byCodePoint hcode)
  · refine isPart_singleton hplain fun hblank => ?_
    exact absurd (hblank.symm.trans (isBlank_of_isPlain hplain h)) Bool.false_ne_true.symm
  · rw [Bool.or_eq_true, not_or] at hcode
    refine ⟨List.isChain_pair.2 (.inr (.inr (.inl rfl))), fun d hd => ?_, ?_⟩
    · exact .inr (Option.some.inj hd).symm
    · rw [List.forall_mem_cons, List.forall_mem_singleton]
      exact ⟨by decide, fun hblank =>
        eq_space_of_isBlank hblank (h hblank) (Bool.eq_false_iff.2 hcode.1)⟩

/-- An identifier is a part, if its blanks are escaped. -/
theorem isPart_escapeChars (h : ∀ c ∈ cs, Text.isBlank c = true → c.toNat < 128) :
    IsPart (escapeChars cs) := by
  have hrest {cs : List Char} (h : ∀ c ∈ cs, Text.isBlank c = true → c.toNat < 128) :
      IsPart (cs.flatMap (escapeChar false)) := by
    induction cs with
    | nil => exact isPart_nil
    | cons c cs ih =>
      rw [List.forall_mem_cons] at h
      exact (isPart_escapeChar false h.1).append (ih h.2)
  fun_cases escapeChars cs with
  | case1 => exact isPart_nil
  | case2 => exact ⟨List.isChain_pair.2 (.inl rfl), fun c hc => Option.some.inj hc ▸ .inr rfl,
      Text.forall_mem_of_all (by decide)⟩
  | case3 c cs =>
    rw [List.forall_mem_cons, List.forall_mem_cons] at h
    have hdash : IsPart ['-'] := isPart_singleton (by decide) (by decide)
    exact (hdash.append (isPart_escapeChar true h.2.1)).append (hrest h.2.2)
  | case4 c cs =>
    rw [List.forall_mem_cons] at h
    exact (isPart_escapeChar true h.1).append (hrest h.2)

/-- A name whose blanks are escaped and stay in a minified stylesheet: none is outside of ASCII, and
there is no space at the end, where an identifier ends as well. -/
def HasEscapedBlanks (name : String) : Prop :=
  (∀ c ∈ name.toList, Text.isBlank c = true → c.toNat < 128) ∧ name.toList.getLast? ≠ some ' '

instance (name : String) : Decidable (HasEscapedBlanks name) :=
  @instDecidableAnd _ _ (List.decidableBAll _ name.toList) inferInstance

theorem isChain_follows (h : ∀ c ∈ cs, Text.isBlank c = true → c.toNat < 128) :
    ('#' :: escapeChars cs).IsChain Follows := by
  have hpart := isPart_escapeChars h
  refine List.isChain_cons.2 ⟨fun c hc => ?_, hpart.chain⟩
  exact (hpart.first c hc).elim .inl fun hc => .inr (.inl hc)

/-- A mark that has to be escaped follows nothing but a backslash. -/
theorem isChain_escapeChars (h : ∀ c ∈ cs, Text.isBlank c = true → c.toNat < 128)
    (hplain : (isPlain b || b == '\\' || b == ' ') = false) (ha : a ≠ '\\') :
    ('#' :: escapeChars cs).IsChain fun x y => ¬(x = a ∧ y = b) := by
  rw [Bool.or_eq_false_iff, Bool.or_eq_false_iff, beq_eq_false_iff_ne, beq_eq_false_iff_ne]
    at hplain
  refine (isChain_follows h).imp ?_
  rintro x y hfollows ⟨rfl, rfl⟩
  rcases hfollows with hy | hy | hx | hy
  · exact absurd (hplain.1.1.symm.trans hy) Bool.false_ne_true
  · exact hplain.1.2 hy
  · exact ha hx
  · exact hplain.2 hy.2

/-- A written name is tight. -/
theorem isTight_escapeChars (h : ∀ c ∈ cs, Text.isBlank c = true → c.toNat < 128) :
    Minify.IsTight ('#' :: escapeChars cs) := by
  have hpart := isPart_escapeChars h
  have hspaces : ∀ c ∈ '#' :: escapeChars cs, Text.isBlank c = true → c = ' ' :=
    List.forall_mem_cons.2 ⟨by decide, hpart.spaces⟩
  refine ⟨hspaces, (isChain_follows h).imp_of_mem_imp fun x y _ hy hxy => ?_⟩
  rcases hxy with hplain | rfl | rfl | ⟨hx, rfl⟩
  · have hblank : Text.isBlank y = false := by
      refine Bool.eq_false_iff.2 fun hblank => ?_
      obtain rfl := hspaces y hy hblank
      exact absurd hplain (by decide)
    exact ⟨fun _ => ⟨hblank, isPunctuation_of_isPlain hplain⟩, fun _ => hblank⟩
  · exact ⟨fun _ => by decide, fun _ => by decide⟩
  · exact ⟨fun hx => absurd hx (by decide), fun hx => absurd hx (by decide)⟩
  · have hletter := Text.isBlank_of_isAlphanum (Color.isAlphanum_of_value? hx)
    have hmark := isPunctuation_of_isPlain (isPlain_of_isDigit hx)
    exact ⟨fun hblank => absurd (hblank.symm.trans hletter) Bool.false_ne_true.symm,
      fun hx => absurd (hx.symm.trans hmark) Bool.false_ne_true.symm⟩

end Identifiers

end Selector

namespace Css

open Selector

namespace Reader

variable (r : Reader)

/-- A space that ends an identifier and is no part of it is not needed before a brace. -/
theorem step?_brace {s : Reader} {cs : List Char} (h : s.step? ' ' = some (r.become (.name cs)))
    (hlast : cs.getLast? ≠ some ' ') :
    s.step? '\x7b' = some (r.become (.inside ⟨String.ofList cs, []⟩)) := by
  obtain ⟨statements, block, mode⟩ := s
  cases mode with
  | escape done digits =>
    have hstep {c : Char} (hc : Hex.isDigit c = false) : ¬(Hex.isDigit c ∧ digits.length < 6) :=
      fun h => absurd (hc.symm.trans h.1) Bool.false_ne_true
    change (escapeStep? done digits ' ').map _ = _ at h
    change (escapeStep? done digits '\x7b').map _ = _
    rw [escapeStep?, if_neg (hstep rfl)] at h ⊢
    cases hn : Hex.ofDigits? digits with
    | none =>
      rw [hn] at h
      cases h
      exact absurd List.getLast?_concat hlast
    | some n =>
      rw [hn] at h
      cases h
      rfl
  | name done => cases h
  | between => cases h
  | condition done => cases h
  | selected done => cases h
  | inside rule => cases h
  | property rule done => cases h
  | colon rule property => cases h
  | value rule property done => cases h
  | quoted rule property done => cases h

/-- Right after the name of a property, its value begins. -/
theorem run_colon (rule : Rule) (property : String) {cs : List Char} (hne : cs ≠ [])
    (hfirst : cs.head? ≠ some ' ') :
    (r.become (.colon rule property)).run cs = (r.become (.value rule property [])).run cs := by
  cases cs with
  | nil => exact absurd rfl hne
  | cons c cs =>
    have hc : c ≠ ' ' := fun hc => hfirst (hc ▸ rfl)
    rw [run_cons, run_cons]
    exact congrArg (Option.bind · _) (if_neg hc)

end Reader

section Declarations

variable {entry : String × String} {entries : List (String × String)}

/-- A declaration that says the same in a minified sheet. -/
structure IsStable (entry : String × String) : Prop extends IsDeclaration entry where
  isKept : IsKept entry.2.toList

/-- A declaration without needless blanks. -/
def shortLine (entry : String × String) : List Char :=
  entry.1.toList ++ ':' :: Minify.word entry.2.toList

/-- Declarations without needless blanks and with no semicolon at the end. -/
def shortLines : List (String × String) → List Char
  | [] => []
  | entry :: entries => shortLine entry ++ entries.flatMap fun entry => ';' :: shortLine entry

/-- A declaration with a value that is a word. -/
def shortened (entry : String × String) : String × String :=
  (entry.1, String.ofList (Minify.word entry.2.toList))

/-- The characters of the names of properties are plain, and no blanks. -/
theorem isPlain_of_isPropertyChar {c : Char} (h : isPropertyChar c = true) :
    isPlain c = true ∧ Text.isBlank c = false := by
  rw [isPropertyChar, Bool.or_eq_true, beq_iff_eq] at h
  rcases h with h | rfl
  · have hletter : c.isAlphanum = true := Text.isAlphanum_iff.2 (.inl h)
    exact ⟨by rw [isPlain, hletter]; rfl, Text.isBlank_of_isAlphanum hletter⟩
  · exact ⟨by decide, by decide⟩

/-- A shortened declaration has the same words. -/
theorem IsStable.spaced_shortened (h : IsStable entry) :
    Prod.map id spaced (shortened entry) = Prod.map id spaced entry := by
  rw [shortened, Prod.map, Prod.map, spaced, String.toList_ofList, h.isKept.words]
  rfl

/-- A line between its margin and the next line. -/
theorem IsStable.tightens_line (h : IsStable entry) {margin : List Char}
    (hmargin : ∀ c ∈ margin, Text.isBlank c = true) :
    Minify.Tightens (margin ++ (Declarations.line entry.1 entry.2).toList ++ [';', '\n'])
      (shortLine entry ++ [';']) := by
  have hblank : ∀ c ∈ entry.1.toList, Text.isBlank c = false := fun c hc =>
    (isPlain_of_isPropertyChar (h.name c hc)).2
  have hname := Minify.Tightens.word (m := ':') rfl (margin ++ entry.1.toList)
  rw [Minify.word_append hmargin, (Minify.isTight_of_not_blank hblank).word_eq_self
    (Text.isTrimmed_of_not_blank hblank)] at hname
  have hvalue := Minify.Tightens.word (m := ';') rfl ([' '] ++ entry.2.toList)
  rw [Minify.word_append (List.forall_mem_singleton.2 rfl)] at hvalue
  have hline := (hname.append hvalue).append .lineBreak
  rw [Declarations.line, String.toList_append, String.toList_append]
  simp only [shortLine, List.append_assoc, List.cons_append, List.nil_append, List.append_nil]
    at hline ⊢
  exact hline

/-- The line of a stable declaration has no comment. -/
theorem IsStable.isUncommented_line (h : IsStable entry) {margin : List Char}
    (hmargin : '*' ∉ margin) : Minify.IsUncommented
      (margin ++ (Declarations.line entry.1 entry.2).toList ++ [';', '\n']) := by
  have hname : '*' ∉ entry.1.toList := fun hmem => absurd (h.name _ hmem) (by decide)
  have hvalue : Minify.IsUncommented (' ' :: entry.2.toList) :=
    ⟨List.isChain_cons.2 ⟨fun c _ hc => absurd hc.1 (by decide), h.isKept.uncommented⟩, nofun⟩
  have hstart : '*' ∉ margin ++ entry.1.toList ++ [':'] := by
    simp only [List.mem_append, not_or]
    exact ⟨⟨hmargin, hname⟩, by decide⟩
  have hend : Minify.IsUncommented [';', '\n'] := Minify.isUncommented_of_not_mem (by decide)
  have hline := ((Minify.isUncommented_of_not_mem hstart).append hvalue).append hend
  rw [Declarations.line, String.toList_append, String.toList_append]
  simp only [List.append_assoc, List.cons_append, List.nil_append] at hline ⊢
  exact hline

/-- Nothing in its short line ends it or its rule. -/
theorem IsStable.unended_shortLine (h : IsStable entry) :
    ∀ c ∈ shortLine entry, c ≠ ';' ∧ c ≠ '\x7d' := by
  rw [shortLine, List.forall_mem_append, List.forall_mem_cons]
  refine ⟨fun c hc => ⟨?_, ?_⟩, by decide, h.isKept.unended⟩
  · exact ne_of_holds (h.name c hc) rfl
  · exact ne_of_holds (h.name c hc) rfl

/-- Marks after all items are marks between them and one at the end. -/
theorem flatMap_concat {α : Type} (f : α → List Char) (c : Char) (item : α) (items : List α) :
    (item :: items).flatMap (fun item => f item ++ [c]) =
      f item ++ items.flatMap (fun item => c :: f item) ++ [c] := by
  induction items generalizing item with
  | nil => rw [List.flatMap_singleton, List.flatMap_nil, List.append_nil]
  | cons next items ih =>
    rw [List.flatMap_cons, ih, List.flatMap_cons]
    simp only [List.append_assoc, List.cons_append, List.nil_append]

/-- The last semicolon of a rule is dropped. -/
theorem rewrites_shortLines (h : ∀ entry ∈ entries, IsStable entry) :
    Minify.Rewrites Minify.lastSemicolon
      (entries.flatMap (fun entry => shortLine entry ++ [';']) ++ ['\x7d'])
      (shortLines entries ++ ['\x7d']) := by
  cases entries with
  | nil => exact Minify.rewrites_self (by decide) (by decide)
  | cons entry entries =>
    rw [List.forall_mem_cons] at h
    have hbrace {entry : String × String} (h : IsStable entry) : '\x7d' ∉ shortLine entry :=
      fun hmem => (h.unended_shortLine _ hmem).2 rfl
    have hlast {entry : String × String} (h : IsStable entry) :
        (shortLine entry).getLast? ≠ some ';' :=
      fun hlast => (h.unended_shortLine _ (List.mem_of_getLast? hlast)).1 rfl
    have hfirst : Minify.Rewrites Minify.lastSemicolon (shortLine entry) (shortLine entry) :=
      Minify.rewrites_self (Minify.isChain_of_not_mem (hbrace h.1)) (hlast h.1)
    have hnext (entry : String × String) (h : IsStable entry) : Minify.Rewrites
        Minify.lastSemicolon (';' :: shortLine entry) (';' :: shortLine entry) := by
      refine Minify.rewrites_self (Minify.isChain_of_not_mem ?_) ?_
      · exact List.not_mem_cons_of_ne_of_not_mem (by decide) (hbrace h)
      · have hend := hlast h
        have hne : shortLine entry ≠ [] := List.append_ne_nil_of_right_ne_nil _ nofun
        cases hline : shortLine entry with
        | nil => exact absurd hline hne
        | cons c cs => rwa [List.getLast?_cons_cons, ← hline]
    rw [flatMap_concat, shortLines, List.append_assoc _ [';']]
    exact (hfirst.append (.flatMap fun entry hentry => hnext entry (h.2 entry hentry))).append
      Minify.rewrites_end

namespace Reader

variable (r : Reader)

/-- A line without needless blanks is read inside a rule, with whatever ends it. -/
theorem run_shortLine (rule : Rule) (h : IsStable entry) {last : Char} (hlast : last ≠ ' ') :
    (r.become (.inside rule)).run (shortLine entry ++ [last]) =
      (r.become (.value rule entry.1 (Minify.word entry.2.toList))).run [last] := by
  have hcolon : (r.become (.property rule entry.1.toList)).run [':'] =
      some (r.become (.colon rule entry.1)) := by
    change some (r.become (.colon rule (String.ofList entry.1.toList))) = _
    rw [String.ofList_toList]
  have hfirst : (Minify.word entry.2.toList ++ [last]).head? ≠ some ' ' := by
    rw [List.head?_append, ne_eq, Option.or_eq_some_iff]
    rintro (hspace | ⟨-, hspace⟩)
    · exact absurd ((Minify.isTrimmed_word _).1 ' ' hspace) (by decide)
    · exact hlast (Option.some.inj hspace)
  have hvalue := h.isKept.isValue r rule entry.1 []
  rw [List.nil_append] at hvalue
  rw [shortLine, List.append_cons entry.1.toList, List.append_assoc,
    run_append_left (run_append (r.run_name rule h.toIsDeclaration) hcolon),
    r.run_colon rule _ (List.append_ne_nil_of_right_ne_nil _ (List.cons_ne_nil _ _)) hfirst,
    run_append_left hvalue]

/-- Lines without needless blanks are read to the end of their rule. -/
theorem run_shortLines (h : ∀ entry ∈ entries, IsStable entry) (rule : Rule) :
    (r.become (.inside rule)).run (shortLines entries ++ ['\x7d']) =
      some (r.finish { rule with declarations := rule.declarations ++ entries.map shortened }) := by
  cases entries with
  | nil => rw [List.map_nil, List.append_nil]; rfl
  | cons entry entries =>
    have hentry (entry : String × String) (rule : Rule) : rule.declarations ++ [shortened entry] =
        (rule.declare entry.1 (Minify.word entry.2.toList)).declarations := rfl
    induction entries generalizing entry rule with
    | nil =>
      rw [shortLines, List.flatMap_nil, List.append_nil,
        r.run_shortLine rule (h entry List.mem_cons_self) (by decide), List.map_singleton]
      rfl
    | cons next entries ih =>
      rw [List.forall_mem_cons] at h
      have hline : (r.become (.inside rule)).run (shortLine entry ++ [';']) =
          some (r.become (.inside (rule.declare entry.1 (Minify.word entry.2.toList)))) := by
        rw [r.run_shortLine rule h.1 (by decide)]
        rfl
      have hrest := ih (rule.declare entry.1 (Minify.word entry.2.toList)) next h.2
      rw [← hentry, ← List.append_cons] at hrest
      have htext : shortLines (entry :: next :: entries) ++ ['\x7d'] =
          shortLine entry ++ [';'] ++ (shortLines (next :: entries) ++ ['\x7d']) := by
        simp only [shortLines, List.flatMap_cons, List.append_assoc, List.cons_append,
          List.nil_append]
      rw [htext]
      exact run_append hline hrest

end Reader

end Declarations

section Condensed

variable {α β : Type} (P : Reader → Prop) (next : Reader → α → Reader) (meaning : α → β)

/-- A text has a short form, wherever it stands in a stylesheet, that the reader takes for something
with the same meaning. -/
def IsCondensed (text : String) (x : α) : Prop :=
  ∃ short y, Minify.Condenses text.toList short ∧ meaning y = meaning x ∧
    ∀ r, P r → r.run short = some (next r y) ∧ P (next r y)

variable {P next meaning}

/-- Texts with a line break between them have short forms with nothing between them. -/
theorem exists_condensed {texts : List String} {xs : List α}
    (h : List.Forall₂ (IsCondensed P next meaning) texts xs) :
    ∃ short, ∃ ys : List α, Minify.Condenses ("\n".intercalate texts).toList short ∧
      ys.map meaning = xs.map meaning ∧ ∀ r, P r → r.run short = some (ys.foldl next r) := by
  induction h with
  | nil => exact ⟨[], [], .blanks (List.forall_mem_nil _), rfl, fun r _ => rfl⟩
  | @cons text x texts xs hfirst hrest ih =>
    obtain ⟨short, y, hshort, hmeaning, hread⟩ := hfirst
    cases hrest with
    | nil =>
      rw [String.intercalate_singleton]
      exact ⟨short, [y], hshort, congrArg (· :: []) hmeaning, fun r hr => (hread r hr).1⟩
    | cons _ _ =>
      obtain ⟨rest, ys, hcondenses, hmeanings, hreads⟩ := ih
      have hbreak : Minify.Condenses "\n".toList [] := .blanks (List.forall_mem_singleton.2 rfl)
      refine ⟨short ++ [] ++ rest, y :: ys, ?_, ?_, fun r hr => ?_⟩
      · rw [String.intercalate_cons_cons, String.toList_append, String.toList_append]
        exact (hshort.append hbreak).append hcondenses
      · rw [List.map_cons, List.map_cons, hmeaning, hmeanings]
      · rw [List.append_nil]
        exact Reader.run_append (hread r hr).1 (hreads _ (hread r hr).2)

end Condensed

/-- The short form of a rule is read between any others. -/
abbrev IsCondensedRule : String → Rule → Prop :=
  IsCondensed (fun r => r.mode = .between) Reader.finish Rule.spaced

/-- What minifying leaves of the identifier of a name, which comes before a space. -/
def shortIdentifier (id : String) : List Char :=
  Minify.word ('#' :: escapeChars id.toList ++ [' '])

section Rules

variable {id : String} (h : HasEscapedBlanks id)
include h

/-- The identifier of a name stays, apart from a space that ends it. -/
theorem exists_ending : ∃ ending, '#' :: escapeChars id.toList = shortIdentifier id ++ ending ∧
    (ending = [] ∨ ending = [' ']) :=
  (isTight_escapeChars h.1).exists_word_append rfl (List.forall_mem_singleton.2 rfl)

theorem isUncommented_identifier : Minify.IsUncommented ('#' :: escapeChars id.toList) :=
  ⟨isChain_escapeChars h.1 rfl (by decide), nofun⟩

/-- A semicolon in an identifier is not the last one of a rule. -/
theorem rewrites_identifier : Minify.Rewrites Minify.lastSemicolon
    (shortIdentifier id ++ ['\x7b']) (shortIdentifier id ++ ['\x7b']) := by
  obtain ⟨ending, htext, -⟩ := exists_ending h
  have hchain := isChain_escapeChars (a := ';') (b := '\x7d') h.1 rfl (by decide)
  rw [htext] at hchain
  refine Minify.rewrites_self (hchain.left_of_append.append (List.isChain_singleton _) ?_) ?_
  · rintro x - y hy ⟨-, rfl⟩
    exact absurd hy (by decide)
  · rw [List.getLast?_concat]
    decide

/-- The identifier of a name is read up to the brace, with or without a space that ends it. -/
theorem run_identifier {r : Reader} (hr : r.mode = .between) :
    r.run (shortIdentifier id ++ ['\x7b']) =
      some (r.become (.inside ⟨selected id, []⟩)) := by
  obtain ⟨ending, htext, hending⟩ := exists_ending h
  have hhash : r.run ['#'] = some (r.become (.name [])) := by
    rw [Reader.run_cons, Reader.step?, hr]
    rfl
  have hname : r.run ('#' :: escapeChars id.toList) =
      some (r.become (.name (id.toList.map shown))) :=
    Reader.run_append hhash (r.run_escapeChars id.toList)
  rw [htext] at hname
  generalize shortIdentifier id = identifier at hname ⊢
  rcases hending with rfl | rfl
  · rw [List.append_nil] at hname
    rw [Reader.run_append_left hname]
    rfl
  · obtain ⟨s, hread, hspace⟩ := Reader.exists_of_run_append hname
    have hstep : s.step? ' ' = some (r.become (.name (id.toList.map shown))) := by
      rw [Reader.run_cons] at hspace
      exact (Option.bind_fun_some _).symm.trans hspace
    have hlast : (id.toList.map shown).getLast? ≠ some ' ' := by
      rw [List.getLast?_map, ne_eq, Option.map_eq_some_iff]
      rintro ⟨c, hc, hspace⟩
      have hnull : shown c = c := if_neg fun hnull => by
        rw [hnull] at hspace
        cases hspace
      exact h.2 (hc.trans (congrArg some (hnull.symm.trans hspace)))
    rw [Reader.run_append_left hread, Reader.run_cons, r.step?_brace hstep hlast]
    rfl

/-- The text of a rule is condensed to its identifier and its short lines in braces. -/
theorem condenses_rule {declarations : Declarations} (depth : Nat)
    (hstable : ∀ entry ∈ declarations.entries, IsStable entry) :
    Minify.Condenses (Stylesheet.rule id declarations depth).toList
      (shortIdentifier id ++ ['\x7b'] ++
        (shortLines declarations.entries ++ ['\x7d'])) := by
  have hmargin : ∀ c ∈ List.replicate (2 * depth) ' ', c = ' ' := fun c => List.eq_of_mem_replicate
  generalize hspaces : List.replicate (2 * depth) ' ' = margin at hmargin
  have hblank : ∀ c ∈ margin, Text.isBlank c = true := fun c hc => hmargin c hc ▸ by decide
  have hdeeper : ∀ c ∈ margin ++ [' ', ' '], Text.isBlank c = true :=
    List.forall_mem_append.2 ⟨hblank, Text.forall_mem_of_all (by decide)⟩
  have hstar : '*' ∉ margin := fun hc => absurd (hmargin _ hc) (by decide)
  have htext : (Stylesheet.rule id declarations depth).toList =
      (margin ++ ('#' :: escapeChars id.toList ++ [' '])) ++ ['\x7b'] ++ ['\n'] ++
        declarations.entries.flatMap (fun entry => (margin ++ [' ', ' ']) ++
          (Declarations.line entry.1 entry.2).toList ++ [';', '\n']) ++
        (margin ++ ([] ++ ['\x7d'] ++ ['\n'])) := by
    rw [toList_rule, hspaces]
    simp only [List.append_assoc, List.cons_append, List.nil_append]
  rw [htext]
  have hopen := Minify.Tightens.word (m := '\x7b') rfl
    (margin ++ ('#' :: escapeChars id.toList ++ [' ']))
  rw [Minify.word_append hblank, ← shortIdentifier] at hopen
  have hlines : Minify.Tightens _ _ := .flatMap fun entry hentry =>
    (hstable entry hentry).tightens_line hdeeper
  have hclose := Minify.Tightens.word (m := '\x7d') rfl []
  rw [Minify.word_nil] at hclose
  have htight := ((hopen.append .lineBreak).append hlines).append
    ((Minify.Tightens.blanks hblank).append (hclose.append .lineBreak))
  refine ⟨?_, ⟨_, htight, ?_⟩, ?_⟩
  · have hmark {cs : List Char} (h : '*' ∉ cs) := Minify.isUncommented_of_not_mem h
    refine Minify.IsUncommented.append (.append (.append (.append (.append (hmark hstar)
      (.append (isUncommented_identifier h) (hmark (by decide)))) (hmark (by decide)))
      (hmark (by decide))) (Minify.isUncommented_flatMap fun entry hentry =>
        (hstable entry hentry).isUncommented_line ?_)) (.append (hmark hstar) (hmark (by decide)))
    rw [List.mem_append, not_or]
    exact ⟨hstar, by decide⟩
  · have hrule := (rewrites_identifier h).append (rewrites_shortLines hstable)
    simp only [List.append_assoc, List.nil_append, List.append_nil] at hrule ⊢
    exact hrule
  · have hbrace : Text.IsTrimmed ['\x7b'] := by decide
    rw [← List.append_assoc]
    refine Text.IsTrimmed.append_concat ((Minify.isTrimmed_word _).append hbrace) ?_ rfl _
    exact List.append_ne_nil_of_right_ne_nil _ (List.cons_ne_nil _ _)

/-- The text of a rule is condensed if its declarations are stable. -/
theorem isCondensedRule_rule {declarations : Declarations} (depth : Nat)
    (hstable : ∀ entry ∈ declarations.entries, IsStable entry) :
    IsCondensedRule (Stylesheet.rule id declarations depth)
      ⟨selected id, declarations.entries⟩ := by
  refine ⟨_, ⟨selected id, declarations.entries.map shortened⟩, condenses_rule h depth hstable, ?_,
    fun r hr => ?_⟩
  · rw [Rule.spaced, Rule.spaced, List.map_map]
    refine congrArg (Rule.mk _) (List.map_congr_left fun entry hentry => ?_)
    exact (hstable entry hentry).spaced_shortened
  · refine ⟨Reader.run_append (run_identifier h hr)
      (r.run_shortLines hstable ⟨selected id, []⟩), ?_⟩
    rw [Reader.finish]
    cases r.block <;> rfl

end Rules

end Css

end Sitework
