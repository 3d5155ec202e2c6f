import Sitework.Json.Reader
import Sitework.Json.Writer
import Sitework.Proofs.Json.Numeral
import Sitework.Proofs.Json.Text

/-!
# The tokens of written JSON

The text of a value is the row of its tokens with blanks between them, and it is split into these
tokens again, as far as every number in it is read from its own text.
-/

namespace Sitework

namespace Json

/-- A number is read from its own text. -/
def ReadsBack (x : Binary64) : Prop :=
  parse? (compact (.number x)) = some (.number x)

/-- Values made of numbers of some kind and integers of 64 bits, with containers nested up to a
depth. -/
inductive Within (P : Binary64 → Prop) : Nat → Json → Prop
  | null (depth : Nat) : Within P depth .null
  | bool (depth : Nat) (value : Bool) : Within P depth (.bool value)
  | integer (depth : Nat) {value : Int} : -(2 ^ 63) ≤ value → value < 2 ^ 64 →
    Within P depth (.integer value)
  | number (depth : Nat) {value : Binary64} : P value → Within P depth (.number value)
  | string (depth : Nat) (value : String) : Within P depth (.string value)
  | array {depth : Nat} {items : List Json} : (∀ item ∈ items, Within P depth item) →
    Within P (depth + 1) (.array items)
  | object {depth : Nat} {members : List (String × Json)} :
    (∀ member ∈ members, Within P depth member.2) → Within P (depth + 1) (.object members)

/-- There is room for what needs less depth. -/
theorem Within.mono {P : Binary64 → Prop} {depth larger : Nat} {value : Json}
    (h : value.Within P depth) (hle : depth ≤ larger) : value.Within P larger := by
  induction h generalizing larger with
  | null _ => exact .null _
  | bool _ b => exact .bool _ b
  | integer _ hlow hhigh => exact .integer _ hlow hhigh
  | number _ hx => exact .number _ hx
  | string _ s => exact .string _ s
  | array _ ih =>
    obtain ⟨room, rfl⟩ : ∃ room, larger = room + 1 := ⟨larger - 1, by omega⟩
    exact .array fun item hitem => ih item hitem (by omega)
  | object _ ih =>
    obtain ⟨room, rfl⟩ : ∃ room, larger = room + 1 := ⟨larger - 1, by omega⟩
    exact .object fun member hmember => ih member hmember (by omega)

/-- A list is readable if each of its items is. -/
theorem areReadable_iff {items : List Json} :
    areReadable items = true ↔ ∀ item ∈ items, item.isReadable = true := by
  induction items with
  | nil => simp [areReadable]
  | cons item items ih => rw [areReadable, Bool.and_eq_true, ih, List.forall_mem_cons]

/-- Members are readable if each of their values is. -/
theorem haveReadable_iff {members : List (String × Json)} :
    haveReadable members = true ↔ ∀ member ∈ members, member.2.isReadable = true := by
  induction members with
  | nil => simp [haveReadable]
  | cons member members ih => rw [haveReadable, Bool.and_eq_true, ih, List.forall_mem_cons]

/-- Every part of such a value can be held. -/
theorem Within.isReadable {P : Binary64 → Prop} {depth : Nat} {value : Json}
    (h : value.Within P depth) : value.isReadable = true := by
  induction h with
  | array _ ih => exact areReadable_iff.2 ih
  | object _ ih => exact haveReadable_iff.2 ih
  | _ => rfl

mutual

/-- The tokens of a value. -/
def tokens : Json → List Token
  | .array items => .arrayOpen :: itemTokens items ++ [.arrayClose]
  | .object members => .objectOpen :: memberTokens members ++ [.objectClose]
  | .string text => [.text (some text)]
  | value => [.scalar value]

/-- The tokens of items with commas between them. -/
def itemTokens : List Json → List Token
  | [] => []
  | [item] => item.tokens
  | item :: items => item.tokens ++ .comma :: itemTokens items

/-- The tokens of members with commas between them. -/
def memberTokens : List (String × Json) → List Token
  | [] => []
  | [(key, value)] => .text (some key) :: .colon :: value.tokens
  | (key, value) :: members =>
    .text (some key) :: .colon :: value.tokens ++ .comma :: memberTokens members

end

namespace Token

variable {cs rest : List Char} {token : Token}

/-- A token starts with a character that is no blank. -/
theorem isBlank_of_next? {c : Char} (h : next? (c :: cs) = some (token, rest)) :
    isBlank c = false := by
  rw [Bool.eq_false_iff]
  intro hblank
  have hc : ((c = ' ' ∨ c = '\t') ∨ c = '\n') ∨ c = '\r' := by
    simpa only [isBlank, Bool.or_eq_true, beq_iff_eq] using hblank
  have hnone : next? (c :: cs) = none := by
    rcases hc with ((rfl | rfl) | rfl) | rfl <;>
      simp [next?, Numeral.literal?, Numeral.unsigned?]
  rw [hnone] at h
  exact Option.some_ne_none _ h.symm

/-- A token comes before those of the rest. -/
theorem scan?_of_next? (h : next? cs = some (token, rest)) :
    scan? cs = (scan? rest).map (token :: ·) := by
  cases cs with
  | nil => cases h
  | cons c cs =>
    rw [scan?, if_neg (Bool.eq_false_iff.1 (isBlank_of_next? h))]
    split
    · next hnext =>
      obtain ⟨rfl, rfl⟩ := Prod.mk.inj (Option.some.inj (hnext.symm.trans h))
      rfl
    · next hnext => exact absurd (h.symm.trans hnext) (Option.some_ne_none _)

/-- Blanks are no tokens. -/
theorem scan?_blanks {blanks : List Char} (h : ∀ c ∈ blanks, isBlank c = true) (cs : List Char) :
    scan? (blanks ++ cs) = scan? cs := by
  induction blanks with
  | nil => rfl
  | cons c blanks ih =>
    obtain ⟨hc, hblanks⟩ := List.forall_mem_cons.1 h
    rw [List.cons_append, scan?, if_pos hc, ih hblanks]

/-- A quoted text is one token. -/
theorem scan?_quote (text : String) (cs : List Char) :
    scan? (quote text ++ cs) = (scan? cs).map (.text (some text) :: ·) := by
  refine scan?_of_next? ?_
  have hquote : quote text ++ cs = '"' :: (text.toList.flatMap Text.escape ++ '"' :: cs) := by
    simp [quote, Text.encode]
  rw [hquote, next?, Text.units?_flatMap_escape]
  simp only [Text.ofUnits?_map_toNat, Option.map_some, String.ofList_toList]

/-- A number literal is one token. -/
theorem next?_of_literal? {literal : Numeral.Literal}
    (h : Numeral.literal? cs = some (literal, rest)) :
    next? cs = some (.scalar (literal.value?.getD .unreadable), rest) := by
  unfold next?
  split
  case h_11 => rw [h]
  all_goals simp [Numeral.literal?, Numeral.unsigned?] at h

end Token

namespace Numeral

/-- The characters that numbers are written with. -/
def isPart (c : Char) : Bool :=
  c.isDigit || ['.', 'e', '-', '+'].contains c

/-- Digits are parts of numerals. -/
private theorem isPart_of_isDigit {c : Char} (h : c.isDigit = true) : isPart c = true := by
  rw [isPart, h, Bool.true_or]

private theorem isPart_of_mem_digits {n : Nat} : ∀ c ∈ Decimal.digits n, isPart c = true :=
  fun _ hc => isPart_of_isDigit (Decimal.isDigit_of_mem_digits hc)

private theorem isPart_of_mem_zeros {n : Nat} : ∀ c ∈ List.replicate n '0', isPart c = true :=
  fun _ hc => (List.mem_replicate.1 hc).2 ▸ rfl

/-- A number with a point is written in parts of numerals. -/
private theorem isPart_of_mem_placed (format : NumberFormat) {digits : List Char}
    (h : ∀ c ∈ digits, isPart c = true) (point : Int) :
    ∀ c ∈ format.placed digits point, isPart c = true := by
  unfold NumberFormat.placed
  split
  · refine List.forall_mem_append.2 ⟨?_, h⟩
    exact List.forall_mem_cons.2 ⟨rfl, List.forall_mem_cons.2 ⟨rfl, isPart_of_mem_zeros⟩⟩
  · split
    · refine List.forall_mem_append.2 ⟨List.forall_mem_append.2 ⟨h, isPart_of_mem_zeros⟩, ?_⟩
      split
      · exact List.forall_mem_cons.2 ⟨rfl, List.forall_mem_singleton.2 rfl⟩
      · exact List.forall_mem_nil _
    · refine List.forall_mem_append.2 ⟨fun c hc => h c (List.mem_of_mem_take hc), ?_⟩
      exact List.forall_mem_cons.2 ⟨rfl, fun c hc => h c (List.mem_of_mem_drop hc)⟩

/-- So is one with an exponent. -/
private theorem isPart_of_mem_scientific {digits : List Char}
    (h : ∀ c ∈ digits, isPart c = true) (point : Int) :
    ∀ c ∈ NumberFormat.scientific digits point, isPart c = true := by
  unfold NumberFormat.scientific
  refine List.forall_mem_append.2 ⟨?_, List.forall_mem_cons.2 ⟨rfl, List.forall_mem_cons.2 ⟨?_,
    isPart_of_mem_digits⟩⟩⟩
  · split
    · obtain ⟨hfirst, hrest⟩ := List.forall_mem_cons.1 h
      exact List.forall_mem_cons.2 ⟨hfirst, List.forall_mem_cons.2 ⟨rfl, hrest⟩⟩
    · exact h
  · split <;> rfl

/-- A finite number is written with these characters. -/
theorem isPart_of_mem_write (format : NumberFormat) (negative : Bool) (x : Magnitude)
    (fits : x.Fits) : ∀ c ∈ (format.write (.finite negative x fits)).toList, isPart c = true := by
  have hmagnitude : ∀ c ∈ format.magnitude x, isPart c = true := by
    unfold NumberFormat.magnitude
    simp only
    split
    · exact isPart_of_mem_placed format isPart_of_mem_digits _
    · exact isPart_of_mem_scientific isPart_of_mem_digits _
  rw [NumberFormat.write, String.toList_ofList]
  split
  · exact List.forall_mem_cons.2 ⟨rfl, hmagnitude⟩
  · exact hmagnitude

/-- No part of a numeral is blank. -/
theorem not_isBlank_of_isPart {c : Char} (h : isPart c = true) : Token.isBlank c = false := by
  rw [Bool.eq_false_iff]
  intro hblank
  have hc : ((c = ' ' ∨ c = '\t') ∨ c = '\n') ∨ c = '\r' := by
    simpa only [Token.isBlank, Bool.or_eq_true, beq_iff_eq] using hblank
  rcases hc with ((rfl | rfl) | rfl) | rfl <;> exact absurd h (by decide)

/-- Without blanks there are no tokens only at the end. -/
private theorem eq_nil_of_scan? {cs : List Char} (h : Token.scan? cs = some [])
    (hparts : ∀ c ∈ cs, isPart c = true) : cs = [] := by
  cases cs with
  | nil => rfl
  | cons c cs =>
    rw [Token.scan?, if_neg (Bool.eq_false_iff.1
      (not_isBlank_of_isPart (hparts c List.mem_cons_self)))] at h
    split at h
    · obtain ⟨tokens, -, hcons⟩ := Option.map_eq_some_iff.1 h
      cases hcons
    · cases h

/-- At a part of a numeral, a numeral is read. -/
private theorem next?_of_isPart {c : Char} (h : isPart c = true) (cs : List Char) :
    Token.next? (c :: cs) = (literal? (c :: cs)).map fun (literal, after) =>
      (.scalar (literal.value?.getD .unreadable), after) := by
  unfold Token.next?
  split
  case h_11 => cases literal? (c :: cs) <;> rfl
  all_goals
    next heq =>
    obtain ⟨rfl, -⟩ := List.cons.inj heq
    exact absurd h (by decide)

/-- Text of these characters whose value is a number is one literal of that value. -/
private theorem exists_literal_of_skim? {cs : List Char} (hparts : ∀ c ∈ cs, isPart c = true)
    {x : Binary64} (h : skim? (String.ofList cs) = some (.number x)) :
    ∃ literal, literal? cs = some (literal, []) ∧ literal.value? = some (.number x) := by
  unfold skim? at h
  rw [String.toList_ofList] at h
  obtain ⟨tokens, htokens, h⟩ := Option.bind_eq_some_iff.1 h
  obtain ⟨reading, hreading, hvalue⟩ := Option.bind_eq_some_iff.1 h
  cases cs with
  | nil =>
    rw [Token.scan?] at htokens
    obtain rfl := Option.some.inj htokens
    obtain rfl := Option.some.inj hreading
    cases hvalue
  | cons c cs =>
    rw [Token.scan?, if_neg (Bool.eq_false_iff.1
      (not_isBlank_of_isPart (hparts c List.mem_cons_self)))] at htokens
    split at htokens
    · next token rest hnext =>
      rw [next?_of_isPart (hparts c List.mem_cons_self)] at hnext
      obtain ⟨⟨literal, after⟩, hliteral, heq⟩ := Option.map_eq_some_iff.1 hnext
      obtain ⟨rfl, rfl⟩ := Prod.mk.inj heq
      obtain ⟨more, hmore, rfl⟩ := Option.map_eq_some_iff.1 htokens
      -- after a complete value nothing else is read
      have hlast : more = [] := by
        cases more with
        | nil => rfl
        | cons t more => cases t <;> cases hreading
      subst hlast
      obtain rfl := Option.some.inj hreading
      have hafter : after = [] := eq_nil_of_scan? hmore fun d hd =>
        hparts d ((suffix_of_literal? hliteral).subset hd)
      subst hafter
      refine ⟨literal, hliteral, ?_⟩
      cases hvalue' : literal.value? with
      | none =>
        rw [hvalue'] at hvalue
        cases hvalue
      | some value =>
        rw [hvalue'] at hvalue
        exact hvalue
    · cases htokens

end Numeral

/-- A number that is written as `null` is no number to a reader. -/
private theorem skim?_of_write_eq_null {x : Binary64}
    (h : compact (.number x) = String.ofList "null".toList) :
    skim? (compact (.number x)) = some .null := by
  have hnext : Token.next? "null".toList = some (.scalar .null, []) := rfl
  have hscan : Token.scan? "null".toList = some [.scalar .null] := by
    rw [Token.scan?_of_next? hnext, Token.scan?, Option.map_some]
  rw [h, skim?, String.toList_ofList, hscan]
  rfl

/-- The text of a number that reads back is one literal of its value. -/
theorem ReadsBack.exists_literal {x : Binary64} (h : ReadsBack x) :
    ∃ literal, Numeral.literal? (numberFormat.write x).toList = some (literal, []) ∧
      literal.value? = some (.number x) := by
  have hskim := (Option.filter_eq_some_iff.1 h).1
  cases x with
  | finite negative m fits =>
    exact Numeral.exists_literal_of_skim?
      (Numeral.isPart_of_mem_write numberFormat negative m fits) hskim
  | infinite negative =>
    have hnull : compact (.number (.infinite negative)) = String.ofList "null".toList := by
      cases negative <;> rfl
    cases (skim?_of_write_eq_null hnull).symm.trans hskim
  | nan => cases (skim?_of_write_eq_null rfl).symm.trans hskim

/-- A number whose text is one literal of its value reads back. -/
theorem ReadsBack.of_literal {x : Binary64} {literal : Numeral.Literal}
    (h : Numeral.literal? (numberFormat.write x).toList = some (literal, []))
    (hvalue : literal.value? = some (.number x)) : ReadsBack x := by
  have htext : compact (.number x) = String.ofList (numberFormat.write x).toList := rfl
  have hscan : Token.scan? (numberFormat.write x).toList = some [.scalar (.number x)] := by
    rw [Token.scan?_of_next? (Token.next?_of_literal? h), hvalue, Token.scan?, Option.map_some,
      Option.getD_some]
  have hskim : skim? (compact (.number x)) = some (.number x) := by
    rw [htext, skim?, String.toList_ofList, hscan]
    rfl
  rw [ReadsBack, parse?, hskim]
  rfl

/-- A text is split into the tokens of a row, before anything that can be no part of a number. -/
def Scans (text : List Char) (row : List Token) : Prop :=
  ∀ rest, Numeral.Ends rest → Token.scan? (text ++ rest) = (Token.scan? rest).map (row ++ ·)

namespace Scans

variable {text more : List Char} {row others : List Token} {token : Token}

theorem nil : Scans [] [] :=
  fun rest _ => (congrFun Option.map_id (Token.scan? rest)).symm

/-- What is scanned piece by piece gives the tokens of all pieces, as long as no numeral runs on
into the next piece. -/
theorem append (h : Scans text row) (hmore : Scans more others)
    (hends : ∀ rest, Numeral.Ends (more ++ rest)) : Scans (text ++ more) (row ++ others) := by
  intro rest hrest
  rw [List.append_assoc, h _ (hends rest), hmore rest hrest, Option.map_map]
  refine congrFun (congrArg Option.map (funext fun tokens => ?_)) _
  exact (List.append_assoc row others tokens).symm

/-- A punctuation mark comes before anything. -/
theorem cons {c : Char} (hc : ∀ rest, Token.next? (c :: rest) = some (token, rest))
    (h : Scans text row) : Scans (c :: text) (token :: row) := by
  intro rest hrest
  rw [List.cons_append, Token.scan?_of_next? (hc _), h rest hrest, Option.map_map]
  rfl

/-- Blanks before a text add no token. -/
theorem blanks {margin : List Char} (hmargin : ∀ c ∈ margin, Token.isBlank c = true)
    (h : Scans text row) : Scans (margin ++ text) row := by
  intro rest hrest
  rw [List.append_assoc, Token.scan?_blanks hmargin, h rest hrest]

/-- A quoted text is scanned as one token. -/
theorem quoted (key : String) (h : Scans text row) :
    Scans (quote key ++ text) (.text (some key) :: row) := by
  intro rest hrest
  rw [List.append_assoc, Token.scan?_quote, h rest hrest, Option.map_map]
  rfl

/-- A numeral is scanned as one token, which holds its value. -/
theorem literal {cs : List Char} {literal : Numeral.Literal} {value : Json}
    (h : Numeral.literal? cs = some (literal, [])) (hvalue : literal.value? = some value) :
    Scans cs [.scalar value] := by
  intro rest hrest
  rw [Token.scan?_of_next? (Token.next?_of_literal? (hrest.literal?_append h)), hvalue]
  rfl

end Scans

/-- A line break with its margin consists of blanks. -/
theorem isBlank_of_mem_newLine {depth : Nat} :
    ∀ c ∈ newLine depth, Token.isBlank c = true :=
  List.forall_mem_cons.2 ⟨rfl, fun _ hc => (List.mem_replicate.1 hc).2 ▸ rfl⟩

/-- A line break is no part of a number. -/
theorem ends_newLine (depth : Nat) (text rest : List Char) :
    Numeral.Ends (newLine depth ++ text ++ rest) :=
  Numeral.ends_cons (by decide) _

/-- A numeral ends before a comma. -/
theorem ends_comma (text rest : List Char) : Numeral.Ends (',' :: text ++ rest) :=
  Numeral.ends_cons (by decide) _

/-- Items on lines of their own are split into their tokens if each item is. -/
theorem scans_prettyItems {items : List Json} {depth : Nat}
    (h : ∀ item ∈ items, Scans (prettyChars depth item) item.tokens) :
    Scans (prettyItems depth items) (itemTokens items) := by
  induction items with
  | nil => exact .nil
  | cons item items ih =>
    obtain ⟨hitem, hitems⟩ := List.forall_mem_cons.1 h
    cases items with
    | nil => exact hitem.blanks isBlank_of_mem_newLine
    | cons next items =>
      have hrest : Scans (',' :: prettyItems depth (next :: items))
          (.comma :: itemTokens (next :: items)) := (ih hitems).cons fun _ => rfl
      exact (hitem.blanks isBlank_of_mem_newLine).append hrest fun rest => ends_comma _ rest

/-- A key, a colon and a value on a line of their own. -/
private theorem scans_member {value : Json} {depth : Nat}
    (h : Scans (prettyChars depth value) value.tokens) (key : String) :
    Scans (newLine depth ++ quote key ++ ':' :: ' ' :: prettyChars depth value)
      (.text (some key) :: .colon :: value.tokens) := by
  have hmargin : ∀ c ∈ [' '], Token.isBlank c = true := List.forall_mem_singleton.2 rfl
  have hvalue : Scans (' ' :: prettyChars depth value) value.tokens := h.blanks hmargin
  have hcolon : Scans (':' :: ' ' :: prettyChars depth value) (.colon :: value.tokens) :=
    hvalue.cons fun _ => rfl
  rw [List.append_assoc]
  exact (hcolon.quoted key).blanks isBlank_of_mem_newLine

/-- Members on lines of their own are split into their tokens if each value is. -/
theorem scans_prettyMembers {members : List (String × Json)} {depth : Nat}
    (h : ∀ member ∈ members, Scans (prettyChars depth member.2) member.2.tokens) :
    Scans (prettyMembers depth members) (memberTokens members) := by
  induction members with
  | nil => exact .nil
  | cons member members ih =>
    obtain ⟨hmember, hmembers⟩ := List.forall_mem_cons.1 h
    cases members with
    | nil => exact scans_member hmember member.1
    | cons next members =>
      have hrest : Scans (',' :: prettyMembers depth (next :: members))
          (.comma :: memberTokens (next :: members)) := (ih hmembers).cons fun _ => rfl
      exact (scans_member hmember member.1).append hrest fun rest => ends_comma _ rest

/-- The text of a value is split into its tokens. -/
theorem Within.scans {depth : Nat} {value : Json} (h : value.Within ReadsBack depth)
    (indent : Nat) :
    Scans (prettyChars indent value) value.tokens := by
  induction h generalizing indent with
  | null _ => exact fun rest _ => Token.scan?_of_next? rfl
  | bool _ b => cases b <;> exact fun rest _ => Token.scan?_of_next? rfl
  | integer _ hlow hhigh =>
    exact .literal (Numeral.literal?_toString _) (Numeral.value?_integer hlow hhigh)
  | number _ hx =>
    obtain ⟨literal, hliteral, hvalue⟩ := hx.exists_literal
    exact .literal hliteral hvalue
  | string _ s => exact fun rest _ => Token.scan?_quote s rest
  | @array _ items _ ih =>
    have hclose : Scans [']'] [.arrayClose] := Scans.nil.cons fun _ => rfl
    cases items with
    | nil => exact hclose.cons fun _ => rfl
    | cons item items =>
      have hitems := scans_prettyItems fun i hi => ih i hi (indent + 1)
      have hend : Scans (newLine indent ++ [']']) [.arrayClose] :=
        hclose.blanks isBlank_of_mem_newLine
      rw [prettyChars, List.append_assoc]
      exact (hitems.append hend fun rest => ends_newLine indent _ rest).cons fun _ => rfl
  | @object _ members _ ih =>
    have hclose : Scans ['}'] [.objectClose] := Scans.nil.cons fun _ => rfl
    cases members with
    | nil => exact hclose.cons fun _ => rfl
    | cons member members =>
      have hmembers := scans_prettyMembers fun m hm => ih m hm (indent + 1)
      have hend : Scans (newLine indent ++ ['}']) [.objectClose] :=
        hclose.blanks isBlank_of_mem_newLine
      rw [prettyChars, List.append_assoc]
      exact (hmembers.append hend fun rest => ends_newLine indent _ rest).cons fun _ => rfl

end Json

end Sitework
