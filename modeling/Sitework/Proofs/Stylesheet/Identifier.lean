import Sitework.Proofs.Stylesheet.Written

/-!
# Identifiers

An identifier goes on while characters may stand in one, and its escapes stand for characters. The
identifier that a name is written as begins properly, ends before the first character that cannot
continue it, and stands for the name. Names without null characters have different identifiers.
-/

namespace Sitework

namespace Identifier

open Selector Css

/-- Characters that may start an identifier: letters, underscores and all beyond ASCII. -/
def starts (c : Char) : Bool :=
  c.isAlpha || c == '_' || 0x80 ≤ c.toNat

/-- Characters that may continue an identifier. -/
def continues (c : Char) : Bool :=
  starts c || c.isDigit || c == '-'

/-- Whether an escape comes first: a backslash before anything but a line break. -/
def startsEscape : List Char → Bool
  | '\\' :: c :: _ => c != '\n'
  | _ => false

/-- Whether an identifier comes first: a character that may start one or an escape, also after a
dash, or two dashes. -/
def begins : List Char → Bool
  | '-' :: cs => cs.head?.any (fun c => starts c || c == '-') || startsEscape cs
  | cs => cs.head?.any starts || startsEscape cs

/-- Whether a digit comes first, also after a dash, or there is nothing but a dash. -/
def looksNumeric : List Char → Bool
  | '-' :: cs => cs.head?.all Char.isDigit
  | cs => cs.head?.any Char.isDigit

/-- What follows the blank that may end a code point. -/
def skipSpace : List Char → List Char
  | [] => []
  | c :: cs => if isSpace c then cs else c :: cs

/-- The character of an escape and what follows it, from the first character after the backslash
on. One to six digits are a code point, and any other character stands for itself. -/
def takeEscape (c : Char) (cs : List Char) : Char × List Char :=
  let digits := ((c :: cs).take 6).takeWhile Hex.isDigit
  match Hex.ofDigits? digits with
  | none => (c, cs)
  | some n => (escaped n, skipSpace ((c :: cs).drop digits.length))

/-- Skipping a blank leaves no more than there was. -/
theorem length_skipSpace_le (cs : List Char) : (skipSpace cs).length ≤ cs.length := by
  cases cs with
  | nil => exact Nat.le_refl _
  | cons c cs =>
    rw [skipSpace]
    split
    · exact Nat.le_succ _
    · exact Nat.le_refl _

/-- An escape leaves no more than there was after its first character. -/
theorem length_takeEscape_le (c : Char) (cs : List Char) :
    (takeEscape c cs).2.length ≤ cs.length + 1 := by
  rw [takeEscape]
  split
  · exact Nat.le_succ _
  · refine (length_skipSpace_le _).trans ?_
    rw [List.length_drop, List.length_cons]
    omega

/-- The characters of the identifier at the start of a text, and what follows it. -/
def take : List Char → List Char × List Char
  | [] => ([], [])
  | '\\' :: c :: cs =>
    if c = '\n' then ([], '\\' :: c :: cs)
    else (take (takeEscape c cs).2).map ((takeEscape c cs).1 :: ·) id
  | c :: cs => if continues c then (take cs).map (c :: ·) id else ([], c :: cs)
termination_by cs => cs.length
decreasing_by
  · have := length_takeEscape_le c cs
    simp only [List.length_cons]
    omega
  · simp

/-- A text that is one identifier from its start to its end. -/
structure IsIdentifier (cs : List Char) : Prop where
  begins : begins cs = true
  not_looksNumeric : looksNumeric cs = false
  whole : (take cs).2 = []

variable {c : Char} {cs digits rest : List Char}

/-- A name goes on with the characters that are written as they are. -/
theorem continues_eq_isPlain (c : Char) : continues c = isPlain c := by
  rw [continues, starts, isPlain, Char.isAlphanum]
  ac_rfl

/-- A character that may stand in an identifier, but no digit, may start one or is a dash. -/
theorem starts_or_eq_dash (h : isPlain c = true) (hdigit : c.isDigit = false) :
    starts c = true ∨ c = '-' := by
  rw [← continues_eq_isPlain, continues, hdigit, Bool.or_false, Bool.or_eq_true, beq_iff_eq] at h
  exact h

/-- What starts a name is no digit. -/
theorem isDigit_of_starts (h : starts c = true) : c.isDigit = false := by
  rw [starts, Bool.or_eq_true, Bool.or_eq_true, Text.isAlpha_iff, Text.isUpper_iff,
    Text.isLower_iff, beq_iff_eq, decide_eq_true_eq] at h
  rw [Bool.eq_false_iff, ne_eq, Text.isDigit_iff]
  rcases h with (h | rfl) | h
  · omega
  · decide
  · omega

theorem begins_dash (cs : List Char) :
    begins ('-' :: cs) = (cs.head?.any (fun c => starts c || c == '-') || startsEscape cs) :=
  rfl

/-- An escape begins an identifier. -/
theorem begins_of_startsEscape (h : startsEscape cs = true) : begins cs = true := by
  unfold begins
  split
  · cases h
  · rw [h, Bool.or_true]

/-- So does a character that starts a name. -/
theorem begins_cons_of_ne (h : c ≠ '-') (rest : List Char) :
    begins (c :: rest) = (starts c || startsEscape (c :: rest)) := by
  unfold begins
  split
  · next heq => exact absurd (List.cons.inj heq).1 h
  · rfl

/-- Without a dash in front, only digits look like a number. -/
theorem looksNumeric_cons_of_ne (h : c ≠ '-') (rest : List Char) :
    looksNumeric (c :: rest) = c.isDigit := by
  unfold looksNumeric
  split
  · next heq => exact absurd (List.cons.inj heq).1 h
  · rfl

/-- No digit starts an identifier or an escape. -/
theorem isDigit_eq_false (h : (starts c || startsEscape (c :: rest)) = true) :
    c.isDigit = false := by
  rcases Bool.or_eq_true_iff.1 h with hstarts | hescape
  · exact isDigit_of_starts hstarts
  · unfold startsEscape at hescape
    split at hescape
    · next heq => exact (List.cons.inj heq).1 ▸ rfl
    · cases hescape

/-- Where an identifier begins there is no number. -/
theorem looksNumeric_of_begins (h : begins cs = true) : looksNumeric cs = false := by
  cases cs with
  | nil => rfl
  | cons c cs =>
    by_cases hdash : c = '-'
    · subst hdash
      cases cs with
      | nil => cases h
      | cons d ds =>
        change (starts d || d == '-' || startsEscape (d :: ds)) = true at h
        change d.isDigit = false
        rw [Bool.or_right_comm, Bool.or_eq_true, beq_iff_eq] at h
        rcases h with h | rfl
        · exact isDigit_eq_false h
        · rfl
    · rw [begins_cons_of_ne hdash] at h
      rw [looksNumeric_cons_of_ne hdash, isDigit_eq_false h]

theorem take_nil : take [] = ([], []) := by
  rw [take]

/-- A character that stands for itself. -/
theorem take_cons_of_isPlain (h : isPlain c = true) (rest : List Char) :
    take (c :: rest) = (take rest).map (c :: ·) id := by
  rw [take, continues_eq_isPlain, if_pos h]
  rintro d ds rfl
  exact absurd h (by decide)

/-- An identifier ends before what can neither stand in one nor start an escape. -/
theorem take_cons_of_not_isPlain (h : isPlain c = false) (hslash : c ≠ '\\') (rest : List Char) :
    take (c :: rest) = ([], c :: rest) := by
  rw [take, continues_eq_isPlain, h, if_neg Bool.false_ne_true]
  rintro d ds rfl
  exact absurd rfl hslash

/-- An escape stands for one character. -/
theorem take_escape (hline : c ≠ '\n') (rest : List Char) :
    take ('\\' :: c :: rest) =
      (take (takeEscape c rest).2).map ((takeEscape c rest).1 :: ·) id := by
  rw [take, if_neg hline]

/-- The digits of a code point end before the blank after them. -/
theorem takeWhile_take_digits (hdigits : ∀ d ∈ digits, Hex.isDigit d = true)
    (hlength : digits.length ≤ 6) (rest : List Char) :
    ((digits ++ ' ' :: rest).take 6).takeWhile Hex.isDigit = digits := by
  rw [List.take_append, List.take_of_length_le hlength, List.takeWhile_append_of_pos hdigits]
  cases 6 - digits.length with
  | zero => rw [List.take_zero, List.takeWhile_nil, List.append_nil]
  | succ n =>
    rw [List.take_succ_cons, List.takeWhile_cons_of_neg (by decide), List.append_nil]

/-- The digits of a code point begin an escape. -/
theorem exists_toDigits (hascii : c.toNat < 128) :
    ∃ d ds, Nat.toDigits 16 c.toNat = d :: ds ∧ d ≠ '\n' := by
  obtain ⟨hdigits, -, hvalue⟩ := toDigits_of_isAscii hascii
  cases hcode : Nat.toDigits 16 c.toNat with
  | nil =>
    rw [hcode] at hvalue
    cases hvalue
  | cons d ds =>
    rw [hcode] at hdigits
    exact ⟨d, ds, rfl, ne_of_holds (hdigits d List.mem_cons_self) (by decide)⟩

/-- A character that is given by its code point. -/
theorem take_byCodePoint (hascii : c.toNat < 128) (hnull : c ≠ '\x00') (rest : List Char) :
    take (byCodePoint c ++ rest) = (take rest).map (c :: ·) id := by
  obtain ⟨hdigits, hlength, hvalue⟩ := toDigits_of_isAscii hascii
  obtain ⟨d, ds, hcode, hline⟩ := exists_toDigits hascii
  rw [hcode] at hdigits hlength hvalue
  have hescape : takeEscape d (ds ++ ' ' :: rest) = (c, rest) := by
    have htake := takeWhile_take_digits hdigits hlength rest
    rw [List.cons_append] at htake
    simp only [takeEscape, htake, hvalue, escaped_toNat hnull]
    rw [← List.cons_append, List.drop_left]
    rfl
  rw [byCodePoint, hcode, List.cons_append, List.cons_append, List.cons_append, List.cons_append,
    List.append_assoc, List.singleton_append, take_escape hline, hescape]

/-- A written character stands for what it shows, whatever follows it. -/
theorem take_escapeChar (leading : Bool) (c : Char) (rest : List Char) :
    take (escapeChar leading c ++ rest) = (take rest).map (shown c :: ·) id := by
  rcases escapeChar_cases leading c with
    ⟨hform, hplain, -⟩ | ⟨hform, hascii, hnull⟩ | ⟨hform, hdigit, hline⟩
  · rw [hform, List.singleton_append, take_cons_of_isPlain hplain]
  · rw [hform, take_byCodePoint hascii hnull]
  · have hescape : takeEscape (shown c) rest = (shown c, rest) := by
      have hnone : ((shown c :: rest).take 6).takeWhile Hex.isDigit = [] :=
        List.takeWhile_cons_of_neg (Bool.eq_false_iff.1 hdigit)
      simp only [takeEscape, hnone]
      rfl
    rw [hform, List.cons_append, List.singleton_append, take_escape hline, hescape]

/-- The identifier of a name stands for what the name shows, and ends where nothing can go on with
it. -/
theorem take_escapeChars (cs : List Char) {rest : List Char} (hrest : take rest = ([], rest)) :
    take (escapeChars cs ++ rest) = (cs.map shown, rest) := by
  have hall (cs : List Char) : take (cs.flatMap (escapeChar false) ++ rest) =
      (cs.map shown, rest) := by
    induction cs with
    | nil => exact hrest
    | cons c cs ih =>
      rw [List.flatMap_cons, List.append_assoc, take_escapeChar, ih]
      rfl
  fun_cases escapeChars cs with
  | case1 => exact hrest
  | case2 =>
    change take ('\\' :: '-' :: rest) = _
    rw [take_escape (by decide)]
    have hescape : takeEscape '-' rest = ('-', rest) := rfl
    rw [hescape, hrest]
    rfl
  | case3 c cs =>
    rw [List.cons_append, List.cons_append, List.append_assoc, take_cons_of_isPlain (by decide),
      take_escapeChar, hall]
    rfl
  | case4 c cs =>
    rw [List.append_assoc, take_escapeChar, hall]
    rfl

/-- A written first character starts an escape, or it may start an identifier, or it is a dash. -/
theorem startsEscape_escapeChar (c : Char) (rest : List Char) :
    startsEscape (escapeChar true c ++ rest) = true ∨
      escapeChar true c = [shown c] ∧ (starts (shown c) = true ∨ shown c = '-') := by
  rcases escapeChar_cases true c with
    ⟨hform, hplain, hdigit⟩ | ⟨hform, hascii, -⟩ | ⟨hform, -, hline⟩
  · exact .inr ⟨hform, starts_or_eq_dash hplain hdigit⟩
  · obtain ⟨d, ds, hcode, hline⟩ := exists_toDigits hascii
    rw [hform, byCodePoint, hcode]
    exact .inl (bne_iff_ne.2 hline)
  · rw [hform]
    exact .inl (bne_iff_ne.2 hline)

/-- No other character is shown as a dash. -/
theorem shown_ne_dash (h : c ≠ '-') : shown c ≠ '-' := by
  rw [shown]
  split
  · decide
  · exact h

/-- The identifier of a name begins as identifiers do. -/
theorem begins_escapeChars (h : cs ≠ []) : begins (escapeChars cs) = true := by
  fun_cases escapeChars cs with
  | case1 => exact absurd rfl h
  | case2 => rfl
  | case3 c cs =>
    rw [List.cons_append, begins_dash]
    rcases startsEscape_escapeChar c (cs.flatMap (escapeChar false)) with hescape | ⟨hform, hfirst⟩
    · rw [hescape, Bool.or_true]
    · rw [hform, List.singleton_append, List.head?_cons, Option.any_some, Bool.or_eq_true,
        Bool.or_eq_true, beq_iff_eq]
      exact .inl hfirst
  | case4 c cs hlone hdash =>
    have hne : c ≠ '-' := by
      cases cs with
      | nil => exact fun hc => hlone hc rfl
      | cons d ds => exact fun hc => hdash d ds hc rfl
    rcases startsEscape_escapeChar c (cs.flatMap (escapeChar false)) with hescape | ⟨hform, hfirst⟩
    · exact begins_of_startsEscape hescape
    · rw [hform, List.singleton_append, begins_cons_of_ne (shown_ne_dash hne),
        hfirst.resolve_right (shown_ne_dash hne), Bool.true_or]

theorem shown_eq_self (h : c ≠ '\x00') : shown c = c :=
  if_neg h

/-- A name without null characters is what its identifier selects. -/
theorem selected_of_not_mem {name : String} (h : '\x00' ∉ name.toList) : selected name = name := by
  have hsame : name.toList.map shown = name.toList.map id :=
    List.map_congr_left fun c hc => shown_eq_self (ne_of_mem_of_not_mem hc h)
  rw [selected, hsame, List.map_id, String.ofList_toList]

/-- The identifier of a name is one identifier. A text in which the block of a rule follows it after
a space has the name there, with the null characters replaced, and right after it the space. Names
without null characters have different identifiers. -/
theorem isIdentifier_escape (name : String) (hname : name ≠ "") :
    IsIdentifier (escape name).toList ∧
      (∀ rest, take ((escape name).toList ++ ' ' :: '\x7b' :: rest) =
        ((selected name).toList, ' ' :: '\x7b' :: rest)) ∧
      ∀ other, '\x00' ∉ name.toList → '\x00' ∉ other.toList → escape other = escape name →
        other = name := by
  have htake (name : String) {rest : List Char} (hrest : take rest = ([], rest)) :
      take ((escape name).toList ++ rest) = ((selected name).toList, rest) := by
    rw [escape, selected, String.toList_ofList, String.toList_ofList, take_escapeChars _ hrest]
  have hwhole (name : String) : take (escape name).toList = ((selected name).toList, []) := by
    have hend := htake name take_nil
    rwa [List.append_nil] at hend
  have hbegins : begins (escape name).toList = true := by
    rw [escape, String.toList_ofList]
    exact begins_escapeChars fun h => hname (String.toList_eq_nil_iff.1 h)
  refine ⟨⟨hbegins, looksNumeric_of_begins hbegins, congrArg Prod.snd (hwhole name)⟩,
    fun rest => htake name (take_cons_of_not_isPlain rfl (by decide) _), ?_⟩
  intro other hnull hother heq
  have hboth := hwhole other
  rw [heq, hwhole name, selected_of_not_mem hnull, selected_of_not_mem hother] at hboth
  exact String.toList_injective (congrArg Prod.fst hboth).symm

/-- A dash before a digit, a space, and a control character at the end. -/
theorem isIdentifier_escape_dashed :
    "-2 a\x01" ≠ "" ∧ escape "-2 a\x01" = "-\\32 \\ a\\1 " ∧
      IsIdentifier "-\\32 \\ a\\1 ".toList ∧
      take ("-\\32 \\ a\\1 ".toList ++ [' ', '\x7b']) = ("-2 a\x01".toList, [' ', '\x7b']) ∧
      '\x00' ∉ "-2 a\x01".toList ∧ '\x00' ∉ "-2 a".toList ∧
      escape "-2 a" ≠ "-\\32 \\ a\\1 " := by
  have hname : "-2 a\x01" ≠ "" := by decide
  have hescape : escape "-2 a\x01" = "-\\32 \\ a\\1 " := by decide
  obtain ⟨hidentifier, htake, hinjective⟩ := isIdentifier_escape "-2 a\x01" hname
  rw [hescape] at hidentifier htake hinjective
  have hselected : selected "-2 a\x01" = "-2 a\x01" := by decide
  refine ⟨hname, hescape, hidentifier, hselected ▸ htake [], by decide, by decide, fun h => ?_⟩
  exact absurd (hinjective "-2 a" (by decide) (by decide) h) (by decide)

end Identifier

end Sitework
