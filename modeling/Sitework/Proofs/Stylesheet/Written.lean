import Mathlib.Data.List.Forall2
import Sitework.Proofs.Style.Notation
import Sitework.Proofs.Stylesheet.Reader
import Sitework.Stylesheet

/-!
# Written stylesheets are read back

Escaped names, lines of declarations, rules, blocks and the sheets of an accepted page are read
back as what they were written for. Null characters of names are replaced on the way.
-/

namespace Sitework

namespace Selector

/-- The character that a written character stands for: the null character has a replacement. -/
def shown (c : Char) : Char :=
  if c = '\x00' then '\uFFFD' else c

/-- The name that the identifier of a name selects. -/
def selected (name : String) : String :=
  String.ofList (name.toList.map shown)

/-- Only characters of ASCII are written by their code points. -/
theorem toNat_lt_of_byCodePoint {leading : Bool} {c : Char}
    (h : (isControl c || (leading && c.isDigit)) = true) : c.toNat < 128 := by
  rw [Bool.or_eq_true, isControl, Bool.or_eq_true, Bool.and_eq_true, Bool.and_eq_true,
    decide_eq_true_eq, decide_eq_true_eq, beq_iff_eq, Text.isDigit_iff] at h
  omega

/-- Hexadecimal digits are plain. -/
theorem isPlain_of_isDigit {c : Char} (h : Hex.isDigit c = true) : isPlain c = true := by
  rw [isPlain, Color.isAlphanum_of_value? h]
  rfl

/-- A character is written as it is, by its code point, or after a backslash. A digit at the start
is not written as it is. -/
theorem escapeChar_cases (leading : Bool) (c : Char) :
    (escapeChar leading c = [shown c] ∧ isPlain (shown c) = true ∧
      (leading && (shown c).isDigit) = false) ∨
    (escapeChar leading c = byCodePoint (shown c) ∧ (shown c).toNat < 128 ∧ shown c ≠ '\x00') ∨
    (escapeChar leading c = ['\\', shown c] ∧ Hex.isDigit (shown c) = false ∧ shown c ≠ '\n') := by
  by_cases hnull : c = '\x00'
  · subst hnull
    exact .inl ⟨rfl, rfl, Bool.and_false leading⟩
  rw [escapeChar, if_neg hnull, shown, if_neg hnull]
  split
  · next hcode => exact .inr (.inl ⟨rfl, toNat_lt_of_byCodePoint hcode, hnull⟩)
  · next hcode =>
    split
    · next hplain =>
      rw [Bool.or_eq_true, not_or, Bool.not_eq_true, Bool.not_eq_true] at hcode
      exact .inl ⟨rfl, hplain, hcode.2⟩
    · next hplain =>
      refine .inr (.inr ⟨rfl, Bool.eq_false_iff.2 fun h => hplain (isPlain_of_isDigit h), ?_⟩)
      rintro rfl
      exact hcode rfl

end Selector

namespace Css

open Selector

/-- A character of an identifier goes on with the name. -/
theorem nameStep?_of_isPlain {c : Char} (h : isPlain c = true) (cs : List Char) :
    nameStep? cs c = some (.name (cs ++ [c])) := by
  have hspace : isSpace c = false := by
    refine isSpace_eq_false h ?_
    simp only [List.forall_mem_cons]
    exact ⟨rfl, rfl, rfl, rfl, rfl, nofun⟩
  rw [nameStep?, if_neg (ne_of_holds h rfl), if_neg (ne_of_holds h rfl), hspace,
    if_neg Bool.false_ne_true, if_pos h]

/-- Digits of characters of ASCII are few, and they are read as their number. -/
theorem toDigits_of_isAscii {n : Nat} (h : n < 128) :
    (∀ c ∈ Nat.toDigits 16 n, Hex.isDigit c = true) ∧ (Nat.toDigits 16 n).length ≤ 6 ∧
      Hex.ofDigits? (Nat.toDigits 16 n) = some n := by
  have hall : ∀ n < 128, (Nat.toDigits 16 n).all Hex.isDigit = true ∧
      (Nat.toDigits 16 n).length ≤ 6 ∧ Hex.ofDigits? (Nat.toDigits 16 n) = some n := by
    decide
  obtain ⟨hdigits, hlength, hvalue⟩ := hall n h
  exact ⟨List.all_eq_true.1 hdigits, hlength, hvalue⟩

/-- The code point of a character stands for it, unless it is zero. -/
theorem escaped_toNat {c : Char} (h : c ≠ '\x00') : escaped c.toNat = c := by
  have hzero : c.toNat ≠ 0 := by
    intro hc
    exact h (Char.ext (UInt32.toNat_inj.1 hc))
  have hvalid : c.toNat.isValidChar := c.valid
  rw [escaped, if_neg (by simp [hzero, hvalid]), Char.ofNat_toNat]

namespace Reader

variable (r : Reader)

/-- The digits of a code point are collected, up to six of them. -/
theorem run_digits {cs done digits : List Char} (h : ∀ c ∈ digits, Hex.isDigit c = true)
    (hlength : done.length + digits.length ≤ 6) :
    (r.become (.escape cs done)).run digits = some (r.become (.escape cs (done ++ digits))) := by
  induction digits generalizing done with
  | nil => rw [List.append_nil, run_nil]
  | cons c digits ih =>
    rw [List.forall_mem_cons] at h
    rw [List.length_cons] at hlength
    have hstep : escapeStep? cs done c = some (.escape cs (done ++ [c])) :=
      if_pos ⟨h.1, by omega⟩
    have hrest : (r.become (.escape cs (done ++ [c]))).run digits =
        some (r.become (.escape cs (done ++ [c] ++ digits))) := by
      refine ih h.2 ?_
      rw [List.length_append, List.length_singleton]
      omega
    rw [List.append_assoc, List.singleton_append] at hrest
    rw [run_cons]
    change ((escapeStep? cs done c).map r.become).bind (run · digits) = _
    rw [hstep, Option.map_some, Option.bind_some, hrest]

/-- A character that is given by its code point is read. -/
theorem run_byCodePoint {c : Char} (hascii : c.toNat < 128) (hnull : c ≠ '\x00')
    (done : List Char) :
    (r.become (.name done)).run (byCodePoint c) = some (r.become (.name (done ++ [c]))) := by
  obtain ⟨hdigits, hlength, hvalue⟩ := toDigits_of_isAscii hascii
  have hopen : (r.become (.name done)).run ['\\'] = some (r.become (.escape done [])) := rfl
  have hread : (r.become (.escape done [])).run (Nat.toDigits 16 c.toNat) =
      some (r.become (.escape done (Nat.toDigits 16 c.toNat))) :=
    r.run_digits hdigits (by rwa [List.length_nil, Nat.zero_add])
  have hclose : (r.become (.escape done (Nat.toDigits 16 c.toNat))).run [' '] =
      some (r.become (.name (done ++ [c]))) := by
    have hstep : escapeStep? done (Nat.toDigits 16 c.toNat) ' ' = some (.name (done ++ [c])) := by
      rw [escapeStep?, if_neg (fun h => absurd h.1 (by decide)), hvalue]
      exact congrArg (fun x => some (Mode.name (done ++ [x]))) (escaped_toNat hnull)
    change ((escapeStep? done (Nat.toDigits 16 c.toNat) ' ').map r.become).bind some = _
    rw [hstep, Option.map_some, Option.bind_some]
  exact run_append (run_append hopen hread) hclose

/-- A written character of a name is read. -/
theorem run_escapeChar (leading : Bool) (c : Char) (done : List Char) :
    (r.become (.name done)).run (escapeChar leading c) =
      some (r.become (.name (done ++ [shown c]))) := by
  rcases escapeChar_cases leading c with
    ⟨hform, hplain, -⟩ | ⟨hform, hascii, hnull⟩ | ⟨hform, hdigit, hline⟩
  · rw [hform]
    change ((nameStep? done (shown c)).map r.become).bind some = _
    rw [nameStep?_of_isPlain hplain, Option.map_some, Option.bind_some]
  · rw [hform]
    exact r.run_byCodePoint hascii hnull done
  · have hstep : escapeStep? done [] (shown c) = some (.name (done ++ [shown c])) := by
      rw [escapeStep?, if_neg (fun h => absurd (hdigit.symm.trans h.1) Bool.false_ne_true)]
      exact if_neg hline
    rw [hform]
    change ((escapeStep? done [] (shown c)).map r.become).bind some = _
    rw [hstep, Option.map_some, Option.bind_some]

/-- The identifier of a name is read as what it selects. -/
theorem run_escapeChars (cs : List Char) :
    (r.become (.name [])).run (escapeChars cs) = some (r.become (.name (cs.map shown))) := by
  have hrest (cs done : List Char) : (r.become (.name done)).run (cs.flatMap (escapeChar false)) =
      some (r.become (.name (done ++ cs.map shown))) := by
    induction cs generalizing done with
    | nil => rw [List.flatMap_nil, List.map_nil, List.append_nil, run_nil]
    | cons c cs ih =>
      have hcs := ih (done ++ [shown c])
      rw [List.append_assoc, List.singleton_append] at hcs
      exact run_append (r.run_escapeChar false c done) hcs
  fun_cases escapeChars cs with
  | case1 => rfl
  | case2 => rfl
  | case3 c cs =>
    have hdash : (r.become (.name [])).run ['-'] = some (r.become (.name ['-'])) := rfl
    exact run_append (run_append hdash (r.run_escapeChar true c ['-'])) (hrest cs _)
  | case4 c cs => exact run_append (r.run_escapeChar true c []) (hrest cs _)

/-- Names of properties are collected. -/
theorem run_property (rule : Rule) {cs : List Char} (h : ∀ c ∈ cs, isPropertyChar c = true)
    (done : List Char) :
    (r.become (.property rule done)).run cs = some (r.become (.property rule (done ++ cs))) := by
  refine run_collect (Mode.property rule) (fun c hc done => ?_) done
  have hcolon : c ≠ ':' := by
    rintro rfl
    exact absurd (h _ hc) (by decide)
  exact (if_neg hcolon).trans (if_pos (h c hc))

end Reader

/-- A value that is read as it is, wherever it stands in a stylesheet. -/
def IsValue (cs : List Char) : Prop :=
  ∀ (r : Reader) (rule : Rule) (property : String) (done : List Char),
    (r.become (.value rule property done)).run cs =
      some (r.become (.value rule property (done ++ cs)))

/-- Values in a row make a value. -/
theorem IsValue.append {xs ys : List Char} (hx : IsValue xs) (hy : IsValue ys) :
    IsValue (xs ++ ys) := by
  intro r rule property done
  have hrest := hy r rule property (done ++ xs)
  rw [List.append_assoc] at hrest
  exact Reader.run_append (hx r rule property done) hrest

/-- Notations are values. -/
theorem isValue_of_isNotation {cs : List Char} (h : ∀ c ∈ cs, Color.isNotation c = true) :
    IsValue cs := by
  intro r rule property done
  refine Reader.run_collect (Mode.value rule property) (fun c hc done => ?_) done
  have hne {other : Char} (hother : Color.isNotation other = false) : c ≠ other :=
    ne_of_holds (h c hc) hother
  change r.valueStep? rule property done c = _
  rw [Reader.valueStep?, if_neg (hne rfl), if_neg (hne rfl), if_neg (hne rfl)]
  exact if_neg (not_or.2 ⟨hne rfl, hne rfl⟩)

/-- An accepted font family in quotes is a value. -/
theorem isValue_of_isFontFamily {family : String} (h : Validation.isFontFamily family = true) :
    IsValue ('"' :: family.toList ++ ['"']) := by
  have hne {c other : Char} (hc : c ∈ family.toList)
      (hother : Validation.endsFamily other = true ∨ Validation.isControl other = true) :
      c ≠ other :=
    ne_of_mem_of_not_mem hc (Validation.not_mem_of_isFontFamily h hother)
  intro r rule property done
  have hopen : (r.become (.value rule property done)).run ['"'] =
      some (r.become (.quoted rule property (done ++ ['"']))) := rfl
  have hfamily : (r.become (.quoted rule property (done ++ ['"']))).run family.toList =
      some (r.become (.quoted rule property (done ++ ['"'] ++ family.toList))) := by
    refine Reader.run_collect (Mode.quoted rule property) (fun c hc done => ?_) _
    exact (if_neg (hne hc (.inl rfl))).trans
      (if_neg (not_or.2 ⟨hne hc (.inr rfl), hne hc (.inl rfl)⟩))
  have hclose (cs : List Char) : (r.become (.quoted rule property cs)).run ['"'] =
      some (r.become (.value rule property (cs ++ ['"']))) := rfl
  have hall := Reader.run_append (Reader.run_append hopen hfamily) (hclose _)
  rw [List.append_assoc, List.append_assoc, List.append_assoc] at hall
  exact hall

/-- A declaration that is read back from its line: a name of a property and a value. -/
structure IsDeclaration (entry : String × String) : Prop where
  nonempty : entry.1.toList ≠ []
  name : ∀ c ∈ entry.1.toList, isPropertyChar c = true
  value : IsValue entry.2.toList

/-- What a style with accepted values declares is a quoted font family or a notation. -/
theorem isNotation_or_of_mem {s : Style} (h : s.shown.IsAllowed) {entry : String × String}
    (hentry : entry ∈ s.declarations.entries) :
    (∃ family ∈ s.shown.fontFamily, Validation.isFontFamily family = true ∧
      entry.2 = fontFamilyCss family) ∨ ∀ c ∈ entry.2.toList, Color.isNotation c = true := by
  rw [Style.entries_declarations, Style.mem_rendered] at hentry
  obtain ⟨d, -, hvalue⟩ := hentry
  by_cases hd : d = .fontFamily
  · subst hd
    obtain ⟨family, hfamily, htext⟩ := Option.map_eq_some_iff.1 hvalue
    exact .inl ⟨family, hfamily, h .fontFamily family hfamily, htext.symm⟩
  · exact .inr (CssProperty.isNotation_of_render? hd
      (fun q text hq => h (.color q) text hq) hvalue)

/-- What a style with accepted values declares is read back. -/
theorem isDeclaration_of_mem {s : Style} (h : s.shown.IsAllowed) {entry : String × String}
    (hentry : entry ∈ s.declarations.entries) : IsDeclaration entry := by
  obtain ⟨hnonempty, hletters⟩ :
      entry.1.toList ≠ [] ∧ entry.1.toList.all isPropertyChar = true := by
    have hchars : ∀ d ∈ CssProperty.all,
        d.name.toList ≠ [] ∧ d.name.toList.all isPropertyChar = true := by
      decide
    rw [Style.entries_declarations, Style.mem_rendered] at hentry
    obtain ⟨d, hname, -⟩ := hentry
    exact hname ▸ hchars d d.mem_all
  refine ⟨hnonempty, List.all_eq_true.1 hletters, ?_⟩
  rcases isNotation_or_of_mem h hentry with ⟨family, -, hfamily, htext⟩ | hnotation
  · rw [htext, fontFamilyCss, String.toList_append, String.toList_append]
    change IsValue (['"'] ++ family.toList ++ (['"'] ++ ", sans-serif".toList))
    rw [← List.append_assoc]
    refine (isValue_of_isFontFamily hfamily).append ?_
    exact isValue_of_isNotation (List.all_eq_true.1 rfl)
  · exact isValue_of_isNotation hnotation

namespace Reader

/-- Blanks between two rules are passed over. -/
theorem run_between {r : Reader} (hr : r.mode = .between) {cs : List Char}
    (h : ∀ c ∈ cs, isSpace c = true) : r.run cs = some r := by
  refine run_eq_self fun c hc => ?_
  rw [step?, hr]
  exact if_pos (h c hc)

/-- Texts with a line break between them are read one after the other. -/
theorem run_intercalate {α : Type} {P : Reader → Prop} (hP : ∀ r, P r → r.mode = .between)
    {next : Reader → α → Reader} {texts : List String} {xs : List α}
    (h : List.Forall₂ (fun text x => ∀ r, P r →
      r.run text.toList = some (next r x) ∧ P (next r x)) texts xs)
    {r : Reader} (hr : P r) : r.run ("\n".intercalate texts).toList = some (xs.foldl next r) := by
  induction h generalizing r with
  | nil => rfl
  | @cons text x texts xs hfirst hrest ih =>
    obtain ⟨hread, hnext⟩ := hfirst r hr
    rw [List.foldl_cons]
    cases hrest with
    | nil => rwa [String.intercalate_singleton]
    | cons _ _ =>
      have hbreak : (next r x).run "\n".toList = some (next r x) :=
        run_between (hP _ hnext) (List.all_eq_true.1 rfl)
      rw [String.intercalate_cons_cons, String.toList_append, String.toList_append]
      exact run_append (run_append hread hbreak) (ih hnext)

variable (r : Reader)

/-- Blanks between two declarations are passed over. -/
theorem run_blank (rule : Rule) {cs : List Char} (h : ∀ c ∈ cs, isSpace c = true) :
    (r.become (.inside rule)).run cs = some (r.become (.inside rule)) :=
  run_eq_self fun c hc => if_pos (h c hc)

/-- The name of what is declared is read inside a rule. -/
theorem run_name (rule : Rule) {entry : String × String} (h : IsDeclaration entry) :
    (r.become (.inside rule)).run entry.1.toList =
      some (r.become (.property rule entry.1.toList)) := by
  cases hchars : entry.1.toList with
  | nil => exact absurd hchars h.nonempty
  | cons c cs =>
    have hletters := h.name
    rw [hchars, List.forall_mem_cons] at hletters
    have hspace : isSpace c = false := by
      refine isSpace_eq_false hletters.1 ?_
      simp only [List.forall_mem_cons]
      exact ⟨rfl, rfl, rfl, rfl, rfl, nofun⟩
    have hfirst : (r.become (.inside rule)).step? c = some (r.become (.property rule [c])) := by
      change (if isSpace c = true then _ else _) = _
      rw [hspace, if_neg Bool.false_ne_true, if_neg (ne_of_holds hletters.1 rfl),
        if_pos hletters.1]
      rfl
    rw [run_cons, hfirst]
    exact r.run_property rule hletters.2 [c]

/-- The line of a declaration is read inside a rule. -/
theorem run_line (rule : Rule) {margin : List Char} (hmargin : ∀ c ∈ margin, isSpace c = true)
    {entry : String × String} (h : IsDeclaration entry) :
    (r.become (.inside rule)).run
        (margin ++ (Declarations.line entry.1 entry.2).toList ++ [';', '\n']) =
      some (r.become (.inside (rule.declare entry.1 entry.2.toList))) := by
  obtain ⟨name, value⟩ := entry
  have hcolon : (r.become (.property rule name.toList)).run [':', ' '] =
      some (r.become (.value rule name [])) := by
    change some (r.become (.value rule (String.ofList name.toList) [])) = _
    rw [String.ofList_toList]
  have hvalue := h.value r rule name []
  have hend : (r.become (.value rule name value.toList)).run [';', '\n'] =
      some (r.become (.inside (rule.declare name value.toList))) := rfl
  rw [Declarations.line, String.toList_append, String.toList_append]
  refine run_append (run_append (r.run_blank rule hmargin) ?_) hend
  exact run_append (run_append (r.run_name rule h) hcolon) hvalue

end Reader

/-- The reader takes a text for a rule, between any others. -/
def IsRule (text : String) (rule : Rule) : Prop :=
  ∀ r : Reader, r.mode = .between → r.run text.toList = some (r.finish rule)

namespace Reader

variable (r : Reader)

/-- The lines of some declarations are read inside a rule. -/
theorem run_lines {margin : List Char} (hmargin : ∀ c ∈ margin, isSpace c = true)
    {entries : List (String × String)} (h : ∀ entry ∈ entries, IsDeclaration entry) (rule : Rule) :
    (r.become (.inside rule)).run (entries.flatMap fun entry =>
        margin ++ (Declarations.line entry.1 entry.2).toList ++ [';', '\n']) =
      some (r.become (.inside { rule with declarations := rule.declarations ++ entries })) := by
  induction entries generalizing rule with
  | nil => rw [List.flatMap_nil, List.append_nil, run_nil]
  | cons entry entries ih =>
    rw [List.forall_mem_cons] at h
    have hrest := ih h.2 (rule.declare entry.1 entry.2.toList)
    have hdeclare : (rule.declare entry.1 entry.2.toList).declarations ++ entries =
        rule.declarations ++ entry :: entries := by
      rw [Rule.declare, String.ofList_toList, ← List.append_cons]
    rw [hdeclare] at hrest
    exact run_append (r.run_line rule hmargin h.1) hrest

end Reader

/-- The characters of a rule. -/
theorem toList_rule (id : String) (declarations : Declarations) (depth : Nat) :
    (Stylesheet.rule id declarations depth).toList =
      List.replicate (2 * depth) ' ' ++ ['#'] ++ escapeChars id.toList ++ [' ', '\x7b', '\n'] ++
        declarations.entries.flatMap (fun entry => List.replicate (2 * depth) ' ' ++ [' ', ' '] ++
          (Declarations.line entry.1 entry.2).toList ++ [';', '\n']) ++
        (List.replicate (2 * depth) ' ' ++ ['\x7d', '\n']) := by
  have hline (entry : String × String) :
      (String.ofList (List.replicate (2 * depth) ' ') ++ "  " ++
        Declarations.line entry.1 entry.2 ++ ";\n").toList =
      List.replicate (2 * depth) ' ' ++ [' ', ' '] ++
          (Declarations.line entry.1 entry.2).toList ++ [';', '\n'] := by
    simp only [String.toList_append, String.toList_ofList]
    rfl
  simp only [Stylesheet.rule, String.toList_append, String.toList_ofList, String.toList_join,
    List.flatMap_map, hline, Selector.escape, List.append_assoc]
  rfl

/-- The text of a rule is read as that rule. -/
theorem isRule_rule (id : String) {declarations : Declarations} (depth : Nat)
    (h : ∀ entry ∈ declarations.entries, IsDeclaration entry) :
    IsRule (Stylesheet.rule id declarations depth)
      ⟨Selector.selected id, declarations.entries⟩ := by
  rintro ⟨statements, block, mode⟩ (rfl : mode = .between)
  let r : Reader := ⟨statements, block, .between⟩
  let name := Selector.selected id
  have hmargin : ∀ c ∈ List.replicate (2 * depth) ' ', isSpace c = true := fun c hc => by
    rw [List.eq_of_mem_replicate hc]
    rfl
  have hdeeper : ∀ c ∈ List.replicate (2 * depth) ' ' ++ [' ', ' '], isSpace c = true :=
    List.forall_mem_append.2 ⟨hmargin, List.all_eq_true.1 rfl⟩
  have hhash : r.run ['#'] = some (r.become (.name [])) := rfl
  have hname := r.run_escapeChars id.toList
  have hopen : (r.become (.name (id.toList.map shown))).run [' ', '\x7b', '\n'] =
      some (r.become (.inside ⟨name, []⟩)) := rfl
  have hlines := r.run_lines hdeeper h ⟨name, []⟩
  have hblank := r.run_blank ⟨name, declarations.entries⟩ hmargin
  have hclose : (r.become (.inside ⟨name, declarations.entries⟩)).run ['\x7d', '\n'] =
      some (r.finish ⟨name, declarations.entries⟩) := by
    have hbreak : (r.finish ⟨name, declarations.entries⟩).run ['\n'] =
        some (r.finish ⟨name, declarations.entries⟩) :=
      Reader.run_between (by cases block <;> rfl) (List.all_eq_true.1 rfl)
    exact hbreak
  rw [toList_rule]
  refine Reader.run_append (Reader.run_append (Reader.run_append (Reader.run_append
    (Reader.run_append (Reader.run_between rfl hmargin) hhash) hname) hopen) hlines) ?_
  exact Reader.run_append hblank hclose

/-- What the rules for some elements are read as. -/
def rulesOf (declarationsOf : Element → Declarations) (es : List Element) : List Rule :=
  es.filterMap fun e =>
    if (declarationsOf e).isEmpty then none
    else some ⟨Selector.selected e.id, (declarationsOf e).entries⟩

/-- The texts among the rules for some elements are related to what they are read as, if each rule
is. -/
theorem forall₂_rules {R : String → Rule → Prop} (depth : Nat)
    (declarationsOf : Element → Declarations) (es : List Element)
    (h : ∀ e ∈ es, R (Stylesheet.rule e.id (declarationsOf e) depth)
      ⟨Selector.selected e.id, (declarationsOf e).entries⟩) :
    List.Forall₂ R (Stylesheet.rules depth declarationsOf es) (rulesOf declarationsOf es) := by
  induction es with
  | nil => exact .nil
  | cons e es ih =>
    rw [List.forall_mem_cons] at h
    have hrest := ih h.2
    rw [Stylesheet.rules] at hrest ⊢
    rw [rulesOf] at hrest ⊢
    rw [List.filterMap_cons, List.filterMap_cons]
    by_cases hempty : (declarationsOf e).isEmpty = true
    · rw [if_pos hempty, if_pos hempty]
      exact hrest
    · rw [if_neg hempty, if_neg hempty]
      exact .cons h.1 hrest

/-- Rules with a line break between them are read as these. -/
theorem run_rules {texts : List String} {rules : List Rule} (h : List.Forall₂ IsRule texts rules)
    {r : Reader} (hr : r.mode = .between) :
    r.run ("\n".intercalate texts).toList = some (r.finishAll rules) := by
  refine Reader.run_intercalate (P := fun r => r.mode = .between) (fun _ hr => hr)
    (h.imp fun text rule hrule r hr => ⟨hrule r hr, ?_⟩) hr
  obtain ⟨statements, block, mode⟩ := r
  cases block <;> rfl

/-- A condition opens the block for its width. -/
theorem run_condition {condition : List Char} {width : Nat} (hwidth : width? condition = some width)
    (hchars : '\x7b' ∉ condition) (statements : List Statement) :
    (Reader.mk statements none .between).run ('@' :: condition ++ ['\x7b']) =
      some ⟨statements, some (width, []), .between⟩ := by
  let r : Reader := ⟨statements, none, .between⟩
  have hsign : r.run ['@'] = some (r.become (.condition [])) := rfl
  have hcondition : (r.become (.condition [])).run condition =
      some (r.become (.condition condition)) :=
    Reader.run_collect Mode.condition (fun c hc _ => if_neg (ne_of_mem_of_not_mem hc hchars)) []
  have hopen : (r.become (.condition condition)).step? '\x7b' =
      some ⟨statements, some (width, []), .between⟩ := by
    change (width? condition).map _ = _
    rw [hwidth, Option.map_some]
    rfl
  refine Reader.run_append (Reader.run_append hsign hcondition) ?_
  rw [Reader.run_cons, hopen]
  rfl

/-- The first line of a block opens the block for the width of its breakpoint. -/
theorem run_opening {b : Breakpoint} {width : Nat} (hwidth : b.maxWidth? = some width)
    (statements : List Statement) :
    (Reader.mk statements none .between).run
        ("@media (max-width: " ++ toString width ++ "px) \x7b\n").toList =
      some ⟨statements, some (width, []), .between⟩ := by
  have hcondition :
      width? ("media (max-width: " ++ toString width ++ "px) ").toList = some width ∧
        '\x7b' ∉ ("media (max-width: " ++ toString width ++ "px) ").toList := by
    cases b <;> cases hwidth <;> decide
  have htext : ("@media (max-width: " ++ toString width ++ "px) \x7b\n").toList =
      '@' :: ("media (max-width: " ++ toString width ++ "px) ").toList ++ ['\x7b'] ++ ['\n'] := by
    simp only [String.toList_append, List.cons_append, List.append_assoc]
    rfl
  rw [htext]
  exact Reader.run_append (run_condition hcondition.1 hcondition.2 statements)
    (Reader.run_between rfl (List.all_eq_true.1 rfl))

/-- The text of a block is read as that block. -/
theorem run_block {b : Breakpoint} {width : Nat} (hwidth : b.maxWidth? = some width)
    {texts : List String} {rules : List Rule} (h : List.Forall₂ IsRule texts rules)
    (statements : List Statement) :
    (Reader.mk statements none .between).run (Stylesheet.block width texts).toList =
      some ⟨statements ++ [.media width rules], none, .between⟩ := by
  have hrules := run_rules h (r := ⟨statements, some (width, []), .between⟩) rfl
  rw [Reader.finishAll_block] at hrules
  have hclose : (Reader.mk statements (some (width, rules)) .between).run ['\x7d', '\n'] =
      some ⟨statements ++ [.media width rules], none, .between⟩ := rfl
  unfold Stylesheet.block
  rw [String.toList_append, String.toList_append]
  exact Reader.run_append (Reader.run_append (run_opening hwidth statements) hrules) hclose

/-- What the block of a breakpoint is read as. -/
def mediaAt? (es : List Element) (b : Breakpoint) : Option Statement :=
  b.maxWidth?.bind fun width =>
    match rulesOf (Stylesheet.changedDeclarations b)
      (es.filter fun e => (e.responsive.get b).isSome) with
    | [] => none
    | rules => some (.media width rules)

/-- The reader takes a text for a block, after any statements. -/
def IsBlock (text : String) (block : Statement) : Prop :=
  ∀ statements, (Reader.mk statements none .between).run text.toList =
    some ⟨statements ++ [block], none, .between⟩

/-- Blocks with a line break between them are read as these. -/
theorem run_blocks {texts : List String} {blocks : List Statement}
    (h : List.Forall₂ IsBlock texts blocks) (statements : List Statement) :
    (Reader.mk statements none .between).run ("\n".intercalate texts).toList =
      some ⟨statements ++ blocks, none, .between⟩ := by
  let P (r : Reader) : Prop := ∃ statements, r = ⟨statements, none, .between⟩
  have hP : ∀ r, P r → r.mode = .between := by
    rintro _ ⟨statements, rfl⟩
    rfl
  have hstep : List.Forall₂ (fun text block => ∀ r, P r →
      r.run text.toList = some (r.place block) ∧ P (r.place block)) texts blocks := by
    refine h.imp fun text block hblock r hr => ?_
    obtain ⟨statements, rfl⟩ := hr
    exact ⟨hblock statements, _, rfl⟩
  have hrun := Reader.run_intercalate hP hstep (r := ⟨statements, none, .between⟩) ⟨_, rfl⟩
  rwa [Reader.foldl_place] at hrun

/-- The texts among the blocks of some breakpoints are related to what they are read as, if each
rule is and blocks are related by their rules. -/
theorem forall₂_blocks {R : String → Rule → Prop} {B : String → Statement → Prop}
    {es : List Element} (h : ∀ e ∈ es, ∀ b,
      R (Stylesheet.rule e.id (Stylesheet.changedDeclarations b e) 1)
        ⟨Selector.selected e.id, (Stylesheet.changedDeclarations b e).entries⟩)
    (hblock : ∀ {b : Breakpoint} {width texts rules}, b.maxWidth? = some width →
      List.Forall₂ R texts rules → B (Stylesheet.block width texts) (.media width rules))
    (bs : List Breakpoint) :
    List.Forall₂ B (bs.filterMap (Stylesheet.blockAt? es)) (bs.filterMap (mediaAt? es)) := by
  induction bs with
  | nil => exact .nil
  | cons b bs ih =>
    have hrules := forall₂_rules 1 (Stylesheet.changedDeclarations b)
      (es.filter fun e => (e.responsive.get b).isSome)
      fun e he => h e (List.mem_of_mem_filter he) b
    rw [List.filterMap_cons, List.filterMap_cons, Stylesheet.blockAt?, mediaAt?]
    cases hwidth : b.maxWidth? with
    | none => exact ih
    | some width =>
      simp only [Option.bind_some]
      generalize Stylesheet.rules 1 _ _ = texts at hrules ⊢
      generalize rulesOf _ _ = rules at hrules ⊢
      cases hrules with
      | nil => exact ih
      | cons hfirst hrest => exact .cons (hblock hwidth (.cons hfirst hrest)) ih

variable {key : String} {p : Page}

/-- What the elements of an accepted page show has accepted values. -/
theorem isAllowed_of_checkPage (h : Validation.checkPage key p = .ok ()) :
    ∀ e ∈ p.elements.values, ∀ b, (e.resolvedStyle b).completed.shown.IsAllowed := by
  rw [OrderedMap.values, List.forall_mem_map]
  intro named hnamed b
  exact Style.IsAllowed.shown_completed
    (Element.meets_resolvedStyle (Validation.isAllowed_of_checkPage h named hnamed).2 b)

/-- What the elements of an accepted page declare is read back. -/
theorem isDeclaration_of_checkPage (h : Validation.checkPage key p = .ok ()) :
    ∀ e ∈ p.elements.values, ∀ b, ∀ entry ∈ (e.declarationsAt b none).entries,
      IsDeclaration entry := by
  intro e he b entry
  rw [Element.declarationsAt_none]
  exact isDeclaration_of_mem (isAllowed_of_checkPage h e he b)

/-- The base sheet of an accepted page is read as the rules for its elements. -/
theorem read?_base (h : Validation.checkPage key p = .ok ()) :
    read? p.stylesheets.base =
      some ((rulesOf Stylesheet.baseDeclarations p.elements.values).map .rule) := by
  have hrules := forall₂_rules 0 Stylesheet.baseDeclarations p.elements.values
    fun e he => isRule_rule e.id 0 (isDeclaration_of_checkPage h e he .monitor)
  have hrun := run_rules hrules (r := Reader.start) rfl
  rw [Reader.finishAll_start] at hrun
  change (Reader.start.run ("\n".intercalate _).toList).bind Reader.result? = _
  rw [hrun]
  rfl

/-- The responsive sheet of an accepted page is read as the blocks of the narrower breakpoints. -/
theorem read?_responsive (h : Validation.checkPage key p = .ok ()) :
    read? p.stylesheets.responsive =
      some (Breakpoint.responsive.filterMap (mediaAt? p.elements.values)) := by
  have hblocks := forall₂_blocks (B := IsBlock)
    (fun e he b => isRule_rule e.id 1 fun entry hentry =>
      isDeclaration_of_checkPage h e he b entry (List.mem_of_mem_filter hentry))
    (fun hwidth hrules => run_block hwidth hrules) Breakpoint.responsive
  have hrun := run_blocks hblocks []
  change (Reader.start.run ("\n".intercalate _).toList).bind Reader.result? = _
  rw [Reader.start, hrun]
  rfl

end Css

end Sitework
