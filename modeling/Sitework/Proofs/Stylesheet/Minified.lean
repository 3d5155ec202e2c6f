import Sitework.Proofs.Stylesheet.Condensed

/-!
# Minified stylesheets of a page

A minified sheet of a page has the same blocks, selects the same names and declares the same
properties with the same words, in the same order. This takes names of elements with no blanks
outside of ASCII and no space at the end, and font families without blanks, marks and comments that
minifying changes: it knows neither of escapes nor of quotes.
-/

namespace Sitework

namespace Css

open Selector

section Blocks

/-- The width of a block as its condition has it. -/
def widthText (width : Nat) : List Char :=
  (toString width).toList ++ ['p', 'x', ')']

/-- The first line of a block without needless blanks. -/
def shortOpening (width : Nat) : List Char :=
  '@' :: ("media (max-width:".toList ++ widthText width) ++ ['\x7b']

variable {b : Breakpoint} {width : Nat} (hwidth : b.maxWidth? = some width)
include hwidth

/-- The width of a block is read back. -/
theorem width?_widthText : width? ("media (max-width:".toList ++ widthText width) = some width := by
  cases b <;> cases hwidth <;> decide

theorem not_blank_of_mem_widthText : ∀ c ∈ widthText width,
    Text.isBlank c = false ∧ c ≠ '\x7b' ∧ c ≠ '\x7d' := by
  refine Text.forall_mem_of_all ?_
  cases b <;> cases hwidth <;> decide

/-- The first line of a block is condensed. -/
theorem condenses_opening :
    Minify.Condenses ("@media (max-width: " ++ toString width ++ "px) \x7b\n").toList
      (shortOpening width) := by
  have hstar : '*' ∉ ("@media (max-width: " ++ toString width ++ "px) \x7b\n").toList := by
    cases b <;> cases hwidth <;> decide
  have hletters := not_blank_of_mem_widthText hwidth
  have htext : ("@media (max-width: " ++ toString width ++ "px) \x7b\n").toList =
      "@media (max-width".toList ++ [':'] ++ ([' '] ++ (widthText width ++ [' ']) ++ ['\x7b']) ++
        ['\n'] := by
    simp only [widthText, String.toList_append, List.append_assoc]
    rfl
  have hshort : shortOpening width =
      "@media (max-width".toList ++ [':'] ++ (widthText width ++ ['\x7b']) ++ [] := by
    simp only [shortOpening, List.append_assoc]
    rfl
  have hcondition := Minify.Tightens.word (m := ':') rfl "@media (max-width".toList
  rw [Minify.IsTight.word_eq_self (by decide) (by decide)] at hcondition
  have hne : widthText width ≠ [] := List.append_ne_nil_of_right_ne_nil _ (List.cons_ne_nil _ _)
  have hblank : ∀ c ∈ widthText width, Text.isBlank c = false := fun c hc => (hletters c hc).1
  have hbound := Minify.Tightens.word (m := '\x7b') rfl ([' '] ++ (widthText width ++ [' ']))
  have hspace : ∀ c ∈ [' '], Text.isBlank c = true := List.forall_mem_singleton.2 rfl
  rw [Minify.word_append hspace, (Minify.isTight_of_not_blank hblank).word_append_blanks
    (Text.isTrimmed_of_not_blank hblank) hne hspace] at hbound
  have hno {c : Char} (hstart : c ∉ '@' :: "media (max-width:".toList) (hend : c ≠ '\x7b')
      (hwidth : c ∉ widthText width) : c ∉ shortOpening width := by
    rw [shortOpening, ← List.cons_append, List.mem_append, List.mem_append, List.mem_singleton]
    exact not_or.2 ⟨not_or.2 ⟨hstart, hwidth⟩, hend⟩
  refine ⟨Minify.isUncommented_of_not_mem hstar, ⟨shortOpening width, ?_, ?_⟩, ?_⟩
  · rw [htext, hshort]
    exact (hcondition.append hbound).append .lineBreak
  · refine Minify.rewrites_self (Minify.isChain_of_not_mem (hno (by decide) (by decide) fun hc =>
      (hletters _ hc).2.2 rfl)) ?_
    rw [shortOpening, List.getLast?_concat]
    decide
  · exact Text.IsTrimmed.append_concat (a := ['@']) (by decide) (by decide) (by decide) _

/-- The short first line of a block opens it. -/
theorem run_shortOpening (statements : List Statement) :
    (Reader.mk statements none .between).run (shortOpening width) =
      some ⟨statements, some (width, []), .between⟩ := by
  refine run_condition (width?_widthText hwidth) ?_ statements
  rw [List.mem_append, not_or]
  exact ⟨by decide, fun hc => (not_blank_of_mem_widthText hwidth _ hc).2.1 rfl⟩

omit hwidth in
/-- The short form of a block is read after any statements. -/
abbrev IsCondensedBlock : String → Statement → Prop :=
  IsCondensed (fun r => ∃ statements, r = ⟨statements, none, .between⟩)
    Reader.place Statement.spaced

/-- The text of a block is condensed if its rules are. -/
theorem isCondensedBlock_block {texts : List String} {rules : List Rule}
    (h : List.Forall₂ IsCondensedRule texts rules) :
    IsCondensedBlock (Stylesheet.block width texts) (.media width rules) := by
  obtain ⟨short, shortRules, hshort, hspaced, hread⟩ := exists_condensed h
  have hbrace := Minify.Tightens.word (m := '\x7d') rfl []
  rw [Minify.word_nil] at hbrace
  have hclose : Minify.Condenses ['\x7d', '\n'] ['\x7d'] :=
    ⟨Minify.isUncommented_of_not_mem (by decide), ⟨_, hbrace.append .lineBreak,
      Minify.rewrites_self (by decide) (by decide)⟩, by decide⟩
  refine ⟨shortOpening width ++ short ++ ['\x7d'], .media width shortRules, ?_, ?_, ?_⟩
  · unfold Stylesheet.block
    rw [String.toList_append, String.toList_append]
    exact ((condenses_opening hwidth).append hshort).append hclose
  · exact congrArg (Statement.media width) hspaced
  · rintro r ⟨statements, rfl⟩
    have hrules : (Reader.mk statements (some (width, [])) .between).run short =
        some ⟨statements, some (width, shortRules), .between⟩ := by
      have hrun := hread ⟨statements, some (width, []), .between⟩ rfl
      exact hrun.trans (congrArg some (Reader.finishAll_block statements width shortRules))
    have hend : (Reader.mk statements (some (width, shortRules)) .between).run ['\x7d'] =
        some ⟨statements ++ [.media width shortRules], none, .between⟩ := rfl
    exact ⟨Reader.run_append (Reader.run_append (run_shortOpening hwidth statements) hrules) hend,
      _, rfl⟩

end Blocks

section Sheets

/-- A sheet begins with no blank if its parts do so. -/
theorem not_blank_of_head?_intercalate {texts : List String}
    (h : ∀ text ∈ texts, ∃ c cs, text.toList = c :: cs ∧ Text.isBlank c = false) :
    ∀ c ∈ ("\n".intercalate texts).toList.head?, Text.isBlank c = false := by
  cases texts with
  | nil => exact nofun
  | cons text texts =>
    obtain ⟨c, cs, htext, hc⟩ := h text List.mem_cons_self
    have hfirst : ("\n".intercalate (text :: texts)).toList.head? = some c := by
      cases texts with
      | nil => rw [String.intercalate_singleton, htext, List.head?_cons]
      | cons next texts =>
        rw [String.intercalate_cons_cons, String.toList_append, String.toList_append, htext]
        rfl
    rw [hfirst]
    exact fun d hd => Option.some.inj hd ▸ hc

/-- A minified sheet is read as its short form. -/
theorem read?_css {sheet : String} {short : List Char} (h : Minify.Condenses sheet.toList short)
    (hstart : ∀ c ∈ sheet.toList.head?, Text.isBlank c = false) :
    read? (Minify.css sheet) = (Reader.start.run short).bind Reader.result? := by
  rw [read?, h.toList_css hstart]

variable {key : String} {p : Page}

/-- What an element declares is stable if its font families are plain. -/
theorem isStable_of_checkPage (h : Validation.checkPage key p = .ok ()) {e : Element}
    (he : e ∈ p.elements.values)
    (hfamilies : ∀ s ∈ e.styles, ∀ family ∈ s.fontFamily, IsPlainFamily family) (b : Breakpoint) :
    ∀ entry ∈ (e.declarationsAt b none).entries, IsStable entry := by
  have hshown : ∀ family ∈ (e.resolvedStyle b).completed.fontFamily, IsPlainFamily family := by
    rw [Style.fontFamily_completed]
    exact e.fontFamily_resolvedStyle hfamilies b
  intro entry hentry
  refine ⟨isDeclaration_of_checkPage h e he b entry hentry, ?_⟩
  rw [Element.declarationsAt_none] at hentry
  rcases isNotation_or_of_mem (isAllowed_of_checkPage h e he b) hentry with
    ⟨family, hfamily, haccepted, htext⟩ | hnotation
  · rw [htext]
    exact isKept_fontFamilyCss haccepted (hshown family hfamily)
  · exact isKept_of_isNotation hnotation

variable (h : Validation.checkPage key p = .ok ())
  (hids : ∀ e ∈ p.elements.values, HasEscapedBlanks e.id)
  (hfamilies : ∀ e ∈ p.elements.values, ∀ s ∈ e.styles, ∀ family ∈ s.fontFamily,
    IsPlainFamily family)
include h hids hfamilies

theorem exists_read?_css_base : ∃ minified, read? (Minify.css p.stylesheets.base) = some minified ∧
    minified.map Statement.spaced =
      ((rulesOf Stylesheet.baseDeclarations p.elements.values).map .rule).map Statement.spaced := by
  have hrules := forall₂_rules 0 Stylesheet.baseDeclarations p.elements.values fun e he =>
    isCondensedRule_rule (hids e he) 0 (isStable_of_checkPage h he (hfamilies e he) .monitor)
  obtain ⟨short, shortRules, hshort, hspaced, hread⟩ := exists_condensed hrules
  replace hshort : Minify.Condenses p.stylesheets.base.toList short := hshort
  have hstart : ∀ c ∈ p.stylesheets.base.toList.head?, Text.isBlank c = false := by
    refine not_blank_of_head?_intercalate fun text htext => ?_
    obtain ⟨e, -, he⟩ := List.mem_filterMap.1 htext
    obtain ⟨-, hrule⟩ := Option.ite_none_left_eq_some.1 he
    rw [← Option.some.inj hrule]
    exact ⟨'#', _, toList_rule _ _ _, rfl⟩
  refine ⟨shortRules.map .rule, ?_, ?_⟩
  · rw [read?_css hshort hstart, hread .start rfl]
    exact congrArg Reader.result? (Reader.finishAll_start shortRules)
  · have hall := congrArg (List.map Statement.rule) hspaced
    simp only [List.map_map] at hall ⊢
    exact hall

theorem exists_read?_css_responsive : ∃ minified,
    read? (Minify.css p.stylesheets.responsive) = some minified ∧
    minified.map Statement.spaced =
      (Breakpoint.responsive.filterMap (mediaAt? p.elements.values)).map Statement.spaced := by
  have hblocks := forall₂_blocks (B := IsCondensedBlock)
    (fun e he b => isCondensedRule_rule (hids e he) 1 fun entry hentry =>
      isStable_of_checkPage h he (hfamilies e he) b entry (List.mem_of_mem_filter hentry))
    (fun hwidth hrules => isCondensedBlock_block hwidth hrules) Breakpoint.responsive
  obtain ⟨short, blocks, hshort, hspaced, hread⟩ := exists_condensed hblocks
  replace hshort : Minify.Condenses p.stylesheets.responsive.toList short := hshort
  have hstart : ∀ c ∈ p.stylesheets.responsive.toList.head?, Text.isBlank c = false := by
    refine not_blank_of_head?_intercalate fun text htext => ?_
    obtain ⟨b, -, hb⟩ := List.mem_filterMap.1 htext
    obtain ⟨width, -, hwidth⟩ := Option.bind_eq_some_iff.1 hb
    simp only at hwidth
    split at hwidth
    · cases hwidth
    · rw [← Option.some.inj hwidth]
      unfold Stylesheet.block
      simp only [String.toList_append]
      exact ⟨'@', _, rfl, rfl⟩
  refine ⟨blocks, ?_, hspaced⟩
  rw [read?_css hshort hstart, hread .start ⟨_, rfl⟩]
  exact congrArg Reader.result? (Reader.foldl_place [] blocks)

/-- The minified sheets of an accepted page have the same blocks with the same rules: those for the
same names, with the same properties and words, in the same order. -/
theorem exists_read?_css_stylesheets : ∀ sheet ∈ [p.stylesheets.base, p.stylesheets.responsive],
    ∃ statements minified, read? sheet = some statements ∧
      read? (Minify.css sheet) = some minified ∧
      minified.map Statement.spaced = statements.map Statement.spaced := by
  rw [List.forall_mem_cons, List.forall_mem_singleton]
  obtain ⟨base, hbase, hbaseSpaced⟩ := exists_read?_css_base h hids hfamilies
  obtain ⟨blocks, hblocks, hblocksSpaced⟩ := exists_read?_css_responsive h hids hfamilies
  exact ⟨⟨_, base, read?_base h, hbase, hbaseSpaced⟩,
    ⟨_, blocks, read?_responsive h, hblocks, hblocksSpaced⟩⟩

end Sheets

/-- A text whose name has blanks and marks inside, and whose color and font family have blanks. -/
def banner : Element :=
  { Element.new "a b;\x7d" .text with
    style := { color := some " rgb(1, 2,  3)", fontFamily := some "Open Sans" }
    responsive := { tablet := some { color := some "red" } } }

/-- A page with that text. -/
def bannerPage : Page :=
  (Page.new "home" "Home").insert banner

theorem exists_read?_css_banner : Validation.checkPage "home" bannerPage = .ok () ∧
    ∀ sheet ∈ [bannerPage.stylesheets.base, bannerPage.stylesheets.responsive],
      ∃ statements minified, read? sheet = some statements ∧
        read? (Minify.css sheet) = some minified ∧
        minified.map Statement.spaced = statements.map Statement.spaced := by
  have haccepted : Validation.checkPage "home" bannerPage = .ok () := rfl
  have hvalues : bannerPage.elements.values = [banner] := rfl
  have hstyles : banner.styles = [banner.style, { color := some "red" }] := rfl
  refine ⟨haccepted, exists_read?_css_stylesheets haccepted ?_ ?_⟩
  · rw [hvalues, List.forall_mem_singleton]
    decide
  · rw [hvalues, List.forall_mem_singleton, hstyles, List.forall_mem_cons,
      List.forall_mem_singleton]
    refine ⟨fun family hfamily => ?_, nofun⟩
    obtain rfl := Option.some.inj hfamily
    decide

/-- An escaped space at the end of a name is dropped, and the brace is part of the name. -/
example : Minify.css "#a\\  \x7b\n  color: red;\n\x7d\n" = "#a\\\x7bcolor:red\x7d" := by
  decide +kernel

end Css

end Sitework
