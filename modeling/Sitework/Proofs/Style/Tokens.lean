import Sitework.Proofs.Number.RoundTrip
import Sitework.Proofs.Text.Character

/-!
# Tokens of rendered values

The tokenizer reads a token back from its text when what follows cannot extend it. Each lemma is
about the rest of the text as well, so the tokens of a value are found from left to right.
-/

namespace Sitework

namespace TokenKind

/-- A run that cannot be extended is as long as it is written. -/
theorem runLength_append {p : Char → Bool} {run rest : List Char} (hrun : ∀ c ∈ run, p c = true)
    (hrest : ∀ c ∈ rest.head?, p c = false) : runLength p (run ++ rest) = run.length := by
  have hstop : rest.takeWhile p = [] := by
    cases rest with
    | nil => rfl
    | cons c rest => simp [hrest c (by simp)]
  rw [runLength, List.takeWhile_append_of_pos hrun, hstop, List.append_nil]

/-- A run of characters that meet a condition is counted in full. -/
theorem le_runLength {p : Char → Bool} {run : List Char} (hrun : ∀ c ∈ run, p c = true)
    (rest : List Char) : run.length ≤ runLength p (run ++ rest) := by
  rw [runLength, List.takeWhile_append_of_pos hrun, List.length_append]
  exact Nat.le_add_right ..

/-- A name: a character that may start one, and any that may continue it. -/
def isName : List Char → Bool
  | [] => false
  | c :: cs => startsName c && cs.all continuesName

/-- A name is counted in full, and nothing of what follows it if that does not continue it. -/
theorem nameLength_append {name rest : List Char} (hname : isName name = true)
    (hrest : ∀ c ∈ rest.head?, continuesName c = false) :
    nameLength (name ++ rest) = name.length := by
  obtain _ | ⟨c, cs⟩ := name
  · simp [isName] at hname
  · simp only [isName, Bool.and_eq_true, List.all_eq_true] at hname
    simp only [List.cons_append, nameLength, hname.1, if_true,
      runLength_append hname.2 hrest, List.length_cons]
    omega

/-- What ends a number: neither a digit nor a point. -/
def endsNumber (c : Char) : Bool :=
  !c.isDigit && c != '.'

/-- There is no fraction where a number ends. -/
theorem fractionLength_of_endsNumber {rest : List Char}
    (hrest : ∀ c ∈ rest.head?, endsNumber c = true) : fractionLength rest = 0 := by
  unfold fractionLength
  split
  · next cs =>
    have := hrest '.' rfl
    simp [endsNumber] at this
  · rfl

/-- A point that a digit follows belongs to the number, with all the digits after it. -/
theorem unsignedLength_fraction {n : Numeral} (hfraction : n.fraction ≠ []) (rest : List Char) :
    unsignedLength (n.unsigned ++ rest) =
      n.whole.length + (1 + runLength Char.isDigit (n.fraction ++ rest)) := by
  have hwhole : n.whole.length ≠ 0 := by simpa using n.whole_ne_nil
  have hlength : n.fraction.length ≠ 0 := by simpa using hfraction
  have hrun : runLength Char.isDigit (n.whole ++ '.' :: (n.fraction ++ rest)) = n.whole.length :=
    runLength_append (fun c hc => n.isDigit_whole hc) (by simp)
  have hdigits := le_runLength (p := Char.isDigit) (fun c hc => n.isDigit_fraction hc) rest
  rw [Numeral.unsigned, if_neg hfraction, List.append_assoc, List.cons_append, unsignedLength,
    hrun, if_neg hwhole, List.drop_left, fractionLength, if_neg (by omega)]

/-- A numeral without its sign is counted in full, and nothing of what follows it. -/
theorem unsignedLength_append (n : Numeral) {rest : List Char}
    (hrest : ∀ c ∈ rest.head?, endsNumber c = true) :
    unsignedLength (n.unsigned ++ rest) = n.unsigned.length := by
  have hwhole : n.whole.length ≠ 0 := by simpa using n.whole_ne_nil
  have hdigit : ∀ c ∈ rest.head?, c.isDigit = false := by
    intro c hc
    have := hrest c hc
    simp only [endsNumber, Bool.and_eq_true, Bool.not_eq_true'] at this
    exact this.1
  by_cases hfraction : n.fraction = []
  · have hrun := runLength_append (fun c hc => n.isDigit_whole hc) hdigit
    simp [unsignedLength, Numeral.unsigned, hfraction, hrun, hwhole,
      fractionLength_of_endsNumber hrest]
  · rw [unsignedLength_fraction hfraction,
      runLength_append (fun c hc => n.isDigit_fraction hc) hdigit, Numeral.unsigned,
      if_neg hfraction, List.length_append, List.length_cons, Nat.add_comm 1]

/-- A numeral is found at least as far as it is written. -/
theorem le_unsignedLength (n : Numeral) (rest : List Char) :
    n.unsigned.length ≤ unsignedLength (n.unsigned ++ rest) := by
  by_cases hfraction : n.fraction = []
  · have hwhole : n.whole.length ≠ 0 := by simpa using n.whole_ne_nil
    have hdigits := le_runLength (p := Char.isDigit) (fun c hc => n.isDigit_whole hc) rest
    rw [Numeral.unsigned, if_pos hfraction, List.append_nil, unsignedLength, if_neg (by omega)]
    omega
  · have hdigits := le_runLength (p := Char.isDigit) (fun c hc => n.isDigit_fraction hc) rest
    rw [unsignedLength_fraction hfraction, Numeral.unsigned, if_neg hfraction, List.length_append,
      List.length_cons]
    omega

/-- The sign of a numeral is found, and what it is the sign of. -/
theorem numberLength_text_append (n : Numeral) (rest : List Char) :
    numberLength (n.text ++ rest) =
      (if n.negative then 1 else 0) + unsignedLength (n.unsigned ++ rest) := by
  obtain ⟨c, cs, hcs, hdigit⟩ := n.head_unsigned
  have hunsigned := le_unsignedLength n rest
  rw [hcs, List.length_cons] at hunsigned
  cases hsign : n.negative with
  | true =>
    rw [Numeral.text, hsign, if_pos rfl, List.cons_append, numberLength, hcs, if_neg (by omega),
      if_pos rfl]
  | false =>
    rw [Numeral.text, hsign, if_neg Bool.false_ne_true, hcs, List.cons_append, numberLength,
      if_neg Bool.false_ne_true, Nat.zero_add]
    rintro after heq
    obtain rfl := (List.cons.inj heq).1
    exact absurd hdigit (by decide)

/-- The sign of a numeral is one character. -/
theorem length_text (n : Numeral) :
    n.text.length = (if n.negative then 1 else 0) + n.unsigned.length := by
  rw [Numeral.text]
  split
  · rw [List.length_cons, Nat.add_comm]
  · rw [Nat.zero_add]

/-- A numeral is found whole when neither a digit nor a point follows. -/
theorem numberLength_append (n : Numeral) {rest : List Char}
    (hrest : ∀ c ∈ rest.head?, endsNumber c = true) :
    numberLength (n.text ++ rest) = n.text.length := by
  rw [numberLength_text_append, unsignedLength_append n hrest, length_text]

theorem reach_function (cs : List Char) : reach .function cs =
    if nameLength cs ≠ 0 ∧ (cs.drop (nameLength cs)).head? = some '(' then nameLength cs + 1
    else 0 :=
  rfl

theorem reach_dimension (cs : List Char) : reach .dimension cs =
    if numberLength cs = 0 ∨ unitLength (cs.drop (numberLength cs)) = 0 then 0
    else numberLength cs + unitLength (cs.drop (numberLength cs)) :=
  rfl

theorem reach_doubleQuoted (cs : List Char) : reach .doubleQuoted ('"' :: cs) =
    if quotedLength '"' cs = 0 then 0 else 1 + quotedLength '"' cs :=
  rfl

/-- A unit that is no percent sign is counted as a run of letters. -/
theorem unitLength_eq_runLength {cs : List Char} (h : '%' ∉ cs.head?) :
    unitLength cs = runLength Char.isAlpha cs := by
  unfold unitLength
  split
  · exact absurd rfl h
  · rfl

/-- Quoted content is counted up to the quote that ends it. -/
theorem quotedLength_append {quote : Char} {content : List Char} (h : quote ∉ content)
    (rest : List Char) : quotedLength quote (content ++ quote :: rest) = content.length + 1 := by
  have hrun : runLength (· != quote) (content ++ quote :: rest) = content.length := by
    refine runLength_append (fun c hc => ?_) (by simp)
    exact bne_iff_ne.2 (ne_of_mem_of_not_mem hc h)
  simp [quotedLength, hrun]

/-- The sign that the tokens of a kind start with, and no others. -/
def sign? : TokenKind → Option Char
  | .hexColor => some '#'
  | .doubleQuoted => some '"'
  | .singleQuoted => some '\''
  | .comma => some ','
  | .close => some ')'
  | .slash => some '/'
  | .function | .dimension | .number | .ident => none

/-- The characters that only one kind of token starts with, and no name or number does. -/
def signs : List Char := all.filterMap sign?

theorem mem_all (k : TokenKind) : k ∈ all := by
  cases k <;> decide

/-- Kinds with the same sign are equal. -/
theorem eq_of_sign?_eq {k kind : TokenKind} {c : Char} (hk : k.sign? = some c)
    (hkind : kind.sign? = some c) : k = kind := by
  have hfind {k : TokenKind} (hk : k.sign? = some c) :
      all.find? (fun k => k.sign? = some c) = some k := by
    cases k <;> cases hk <;> rfl
  exact Option.some.inj ((hfind hk).symm.trans (hfind hkind))

/-- A kind with a sign only reaches past that sign. -/
theorem exists_of_reach_ne_zero {k : TokenKind} {c : Char} {cs : List Char}
    (hc : k.sign? = some c) (h : k.reach cs ≠ 0) : ∃ rest, cs = c :: rest := by
  unfold reach at h
  split at h <;> first | exact absurd rfl h | cases hc <;> exact ⟨_, rfl⟩

/-- A kind with a sign does not start with another character. -/
theorem reach_eq_zero_of_ne_sign {k : TokenKind} {c d : Char} (hd : k.sign? = some d) (hne : c ≠ d)
    (cs : List Char) : k.reach (c :: cs) = 0 := by
  by_contra h
  obtain ⟨rest, hrest⟩ := exists_of_reach_ne_zero hd h
  exact hne (List.cons.inj hrest).1

/-- No name starts with a character that starts none. -/
theorem nameLength_of_not_startsName {c : Char} (hc : startsName c = false) (cs : List Char) :
    nameLength (c :: cs) = 0 := by
  simp [nameLength, hc]

/-- No number starts with anything but a digit or a dash. -/
theorem numberLength_of_not_digit {c : Char} (hdigit : c.isDigit = false) (hdash : c ≠ '-')
    (cs : List Char) : numberLength (c :: cs) = 0 := by
  unfold numberLength
  split
  · next h => exact absurd (List.cons.inj h).1 hdash
  · simp [unsignedLength, runLength, hdigit]

/-- Nor does a function start where no name does. -/
theorem reach_function_of_not_startsName {c : Char} (hc : startsName c = false)
    (cs : List Char) : reach .function (c :: cs) = 0 := by
  simp [reach_function, nameLength_of_not_startsName hc]

/-- Nor does a dimension start where no number does. -/
theorem reach_dimension_of_not_digit {c : Char} (hdigit : c.isDigit = false) (hdash : c ≠ '-')
    (cs : List Char) : reach .dimension (c :: cs) = 0 := by
  simp [reach_dimension, numberLength_of_not_digit hdigit hdash]

/-- What starts a name is no digit. -/
theorem isDigit_of_startsName {c : Char} (h : startsName c = true) : c.isDigit = false := by
  by_contra hd
  rw [Bool.not_eq_false, Text.isDigit_iff] at hd
  simp only [startsName, Bool.or_eq_true, Text.isAlpha_iff, Text.isUpper_iff, Text.isLower_iff,
    beq_iff_eq] at h
  rcases h with (h | h) | rfl
  · omega
  · omega
  · simp at hd

/-- A number ends where a unit starts. -/
theorem endsNumber_of_unit {c : Char} (h : (c.isAlpha || c == '%') = true) :
    endsNumber c = true := by
  rw [Bool.or_eq_true, beq_iff_eq] at h
  rcases h with h | rfl
  · have hdigit : c.isDigit = false := isDigit_of_startsName (by rw [startsName, h, Bool.true_or])
    have hpoint : c ≠ '.' := by
      rintro rfl
      exact absurd h (by decide)
    rw [endsNumber, hdigit, bne_iff_ne.2 hpoint]
    rfl
  · rfl

/-- A character that starts a name is no sign, no dash and no blank. -/
theorem ne_of_startsName {c : Char} (h : startsName c = true) :
    ∀ d ∈ '-' :: ' ' :: '\t' :: '\n' :: '\r' :: '\x0c' :: signs, c ≠ d := by
  have hall : ('-' :: ' ' :: '\t' :: '\n' :: '\r' :: '\x0c' :: signs).all
      (fun d => !startsName d) = true := by decide
  rintro d hd rfl
  have hnone := List.all_eq_true.1 hall c hd
  rw [h] at hnone
  exact Bool.false_ne_true hnone

/-- A character that starts a number is no sign, no blank and starts no name. -/
theorem ne_of_isDigit {c : Char} (h : c.isDigit = true ∨ c = '-') :
    startsName c = false ∧
      ∀ d ∈ ' ' :: '\t' :: '\n' :: '\r' :: '\x0c' :: signs, c ≠ d := by
  have hall : (' ' :: '\t' :: '\n' :: '\r' :: '\x0c' :: signs).all
      (fun d => !d.isDigit && d != '-') = true := by decide
  refine ⟨?_, ?_⟩
  · by_contra hc
    rw [Bool.not_eq_false] at hc
    rcases h with h | rfl
    · rw [isDigit_of_startsName hc] at h
      exact Bool.false_ne_true h
    · exact ne_of_startsName hc '-' (by simp) rfl
  · rintro d hd rfl
    have hnone := List.all_eq_true.1 hall c hd
    rcases h with h | rfl
    · simp [h] at hnone
    · simp at hnone

/-- At a character that starts names, only kinds of tokens with a name reach anywhere. -/
theorem reach_eq_zero_of_startsName {k : TokenKind} {c : Char} (hc : startsName c = true)
    (hfunction : k ≠ .function) (hident : k ≠ .ident) (cs : List Char) : k.reach (c :: cs) = 0 := by
  have hdash := ne_of_startsName hc '-' (by simp)
  cases k with
  | function => exact absurd rfl hfunction
  | ident => exact absurd rfl hident
  | dimension => exact reach_dimension_of_not_digit (isDigit_of_startsName hc) hdash cs
  | number => exact numberLength_of_not_digit (isDigit_of_startsName hc) hdash cs
  | _ => exact reach_eq_zero_of_ne_sign rfl (ne_of_startsName hc _ (by decide)) cs

/-- At a character that starts numbers, only kinds of tokens with a number reach anywhere. -/
theorem reach_eq_zero_of_isDigit {k : TokenKind} {c : Char} (hc : c.isDigit = true ∨ c = '-')
    (hdimension : k ≠ .dimension) (hnumber : k ≠ .number) (cs : List Char) :
    k.reach (c :: cs) = 0 := by
  obtain ⟨hstart, hne⟩ := ne_of_isDigit hc
  cases k with
  | dimension => exact absurd rfl hdimension
  | number => exact absurd rfl hnumber
  | function => exact reach_function_of_not_startsName hstart cs
  | ident => exact nameLength_of_not_startsName hstart cs
  | _ => exact reach_eq_zero_of_ne_sign rfl (hne _ (by decide)) cs

/-- At a sign, only the kind of the tokens with this sign reaches anywhere. -/
theorem reach_eq_zero_of_sign {k kind : TokenKind} {c : Char} (hc : kind.sign? = some c)
    (hk : k ≠ kind) (cs : List Char) : k.reach (c :: cs) = 0 := by
  have hmem : c ∈ signs := List.mem_filterMap.2 ⟨kind, mem_all kind, hc⟩
  have hstart : startsName c = false := by
    by_contra h
    exact ne_of_startsName (Bool.not_eq_false _ ▸ h) c (by simp [hmem]) rfl
  have hnumber : ¬(c.isDigit = true ∨ c = '-') :=
    fun h => (ne_of_isDigit h).2 c (by simp [hmem]) rfl
  rw [not_or, Bool.not_eq_true] at hnumber
  cases k with
  | function => exact reach_function_of_not_startsName hstart cs
  | dimension => exact reach_dimension_of_not_digit hnumber.1 hnumber.2 cs
  | number => exact numberLength_of_not_digit hnumber.1 hnumber.2 cs
  | ident => exact nameLength_of_not_startsName hstart cs
  | _ =>
    refine reach_eq_zero_of_ne_sign rfl (fun heq => hk ?_) cs
    exact eq_of_sign?_eq (heq ▸ rfl) hc

/-- The kind that is kept reaches at least as far as all kinds that were tried. -/
private theorem foldl_farthest (cs : List Char) (kinds : List TokenKind) (best : TokenKind × Nat)
    (hbest : best.2 ≤ best.1.reach cs) :
    ∃ last, kinds.foldl
        (fun best k => if best.2 < k.reach cs then (k, k.reach cs) else best) best = last ∧
      best.2 ≤ last.2 ∧ last.2 ≤ last.1.reach cs ∧ ∀ k ∈ kinds, k.reach cs ≤ last.2 := by
  induction kinds generalizing best with
  | nil => exact ⟨best, rfl, Nat.le_refl _, hbest, List.forall_mem_nil _⟩
  | cons k kinds ih =>
    rw [List.foldl_cons]
    split
    · next hlt =>
      obtain ⟨last, hlast, hle, hreach, hkinds⟩ := ih (k, k.reach cs) (Nat.le_refl _)
      exact ⟨last, hlast, hlt.le.trans hle, hreach, List.forall_mem_cons.2 ⟨hle, hkinds⟩⟩
    · next hnot =>
      obtain ⟨last, hlast, hle, hreach, hkinds⟩ := ih best hbest
      exact ⟨last, hlast, hle, hreach,
        List.forall_mem_cons.2 ⟨(Nat.not_lt.1 hnot).trans hle, hkinds⟩⟩

/-- The longest token is of a kind that reaches as far as it, and no kind reaches farther. -/
theorem longest_farthest (cs : List Char) :
    (longest cs).2 ≤ (longest cs).1.reach cs ∧ ∀ k : TokenKind, k.reach cs ≤ (longest cs).2 := by
  obtain ⟨last, hlast, -, hreach, hkinds⟩ :=
    foldl_farthest cs all (.function, 0) (Nat.zero_le _)
  rw [longest, hlast]
  exact ⟨hreach, fun k => hkinds k (mem_all k)⟩

/-- The longest token is of the kind that reaches farther than the others. -/
theorem longest_eq {cs : List Char} {kind : TokenKind}
    (h : ∀ k, k ≠ kind → k.reach cs < kind.reach cs) : longest cs = (kind, kind.reach cs) := by
  obtain ⟨hreach, hfarthest⟩ := longest_farthest cs
  have hkind : (longest cs).1 = kind := by
    by_contra hne
    exact absurd (hfarthest kind) (Nat.not_le.2 (hreach.trans_lt (h _ hne)))
  refine Prod.ext hkind (Nat.le_antisymm ?_ (hfarthest kind))
  rwa [hkind] at hreach

/-- At a name before a parenthesis, the longest token is the function. -/
theorem longest_function {c : Char} (hc : startsName c = true) {cs : List Char}
    (hparen : ((c :: cs).drop (nameLength (c :: cs))).head? = some '(') :
    longest (c :: cs) = (.function, nameLength (c :: cs) + 1) := by
  have hpos : nameLength (c :: cs) ≠ 0 := by
    rw [nameLength, if_pos hc]
    omega
  have hfunction : reach .function (c :: cs) = nameLength (c :: cs) + 1 := by
    rw [reach_function, if_pos ⟨hpos, hparen⟩]
  rw [← hfunction]
  refine longest_eq fun k hk => ?_
  rw [hfunction]
  by_cases hident : k = .ident
  · subst hident
    exact Nat.lt_succ_self (nameLength (c :: cs))
  · rw [reach_eq_zero_of_startsName hc hk hident]
    exact Nat.succ_pos _

/-- At a name without a parenthesis, the longest token is the name. -/
theorem longest_ident {c : Char} (hc : startsName c = true) {cs : List Char}
    (hparen : ((c :: cs).drop (nameLength (c :: cs))).head? ≠ some '(') :
    longest (c :: cs) = (.ident, nameLength (c :: cs)) := by
  have hpos : 0 < reach .ident (c :: cs) := by
    change 0 < nameLength (c :: cs)
    rw [nameLength, if_pos hc]
    omega
  refine longest_eq fun k hk => ?_
  by_cases hfunction : k = .function
  · subst hfunction
    rwa [reach_function, if_neg fun h => hparen h.2]
  · rwa [reach_eq_zero_of_startsName hc hfunction hk]

/-- At a number without a unit, the longest token is the number. -/
theorem longest_number {c : Char} (hc : c.isDigit = true ∨ c = '-') {cs : List Char}
    (hpos : numberLength (c :: cs) ≠ 0)
    (hunit : unitLength ((c :: cs).drop (numberLength (c :: cs))) = 0) :
    longest (c :: cs) = (.number, numberLength (c :: cs)) := by
  have hnumber : 0 < reach .number (c :: cs) := Nat.pos_of_ne_zero hpos
  refine longest_eq fun k hk => ?_
  by_cases hdimension : k = .dimension
  · subst hdimension
    rwa [reach_dimension, if_pos (.inr hunit)]
  · rwa [reach_eq_zero_of_isDigit hc hdimension hk]

/-- At a number with a unit, the longest token is the dimension. -/
theorem longest_dimension {c : Char} (hc : c.isDigit = true ∨ c = '-') {cs : List Char}
    (hpos : numberLength (c :: cs) ≠ 0)
    (hunit : unitLength ((c :: cs).drop (numberLength (c :: cs))) ≠ 0) :
    longest (c :: cs) = (.dimension, numberLength (c :: cs) +
      unitLength ((c :: cs).drop (numberLength (c :: cs)))) := by
  have hdimension : reach .dimension (c :: cs) = numberLength (c :: cs) +
      unitLength ((c :: cs).drop (numberLength (c :: cs))) := by
    rw [reach_dimension, if_neg (not_or.2 ⟨hpos, hunit⟩)]
  rw [← hdimension]
  refine longest_eq fun k hk => ?_
  rw [hdimension]
  by_cases hnumber : k = .number
  · subst hnumber
    exact Nat.lt_add_of_pos_right (Nat.pos_of_ne_zero hunit)
  · rw [reach_eq_zero_of_isDigit hc hk hnumber]
    omega

/-- At a sign, the longest token is that of the sign. -/
theorem longest_sign {kind : TokenKind} {c : Char} {cs : List Char} (hc : kind.sign? = some c)
    (hpos : 0 < kind.reach (c :: cs)) : longest (c :: cs) = (kind, kind.reach (c :: cs)) := by
  refine longest_eq fun k hk => ?_
  rwa [reach_eq_zero_of_sign hc hk]

end TokenKind

namespace Token

open TokenKind

@[simp] theorem scan?_nil : scan? [] = some [] := by
  rw [scan?]

/-- Blanks between tokens are passed over. -/
theorem scan?_blank {c : Char} (hc : isBlank c = true) (cs : List Char) :
    scan? (c :: cs) = scan? cs := by
  rw [scan?, if_pos hc]

/-- The longest token at the start of a text is its first token. -/
theorem scan?_append {kind : TokenKind} {text rest : List Char} {c : Char}
    (hhead : text.head? = some c) (hc : isBlank c = false)
    (hlongest : longest (text ++ rest) = (kind, text.length)) :
    scan? (text ++ rest) = (scan? rest).map (⟨kind, text⟩ :: ·) := by
  obtain _ | ⟨d, cs⟩ := text
  · simp at hhead
  · obtain rfl : d = c := by simpa using hhead
    rw [List.cons_append] at hlongest ⊢
    rw [scan?, if_neg (by simp [hc]), hlongest]
    simp

/-- The blanks between tokens are the space and four control characters. -/
theorem isBlank_iff {c : Char} :
    isBlank c = true ↔ c ∈ [' ', '\t', '\n', '\r', '\x0c'] := by
  simp [isBlank, or_assoc]

private theorem isBlank_eq_false {c : Char}
    (h : ∀ d ∈ [' ', '\t', '\n', '\r', '\x0c'], c ≠ d) : isBlank c = false :=
  Bool.eq_false_iff.2 fun hc => h c (isBlank_iff.1 hc) rfl

/-- A name starts with a character that is no blank. -/
private theorem head_name {name : List Char} (hname : isName name = true) :
    ∃ c cs, name = c :: cs ∧ startsName c = true ∧ isBlank c = false := by
  obtain _ | ⟨c, cs⟩ := name
  · simp [isName] at hname
  · simp only [isName, Bool.and_eq_true] at hname
    exact ⟨c, cs, rfl, hname.1, isBlank_eq_false fun d hd =>
      ne_of_startsName hname.1 d (by simp at hd ⊢; tauto)⟩

/-- A name with a parenthesis is a function token. -/
theorem scan?_function {name : List Char} (hname : isName name = true) (rest : List Char) :
    scan? (name ++ '(' :: rest) = (scan? rest).map (⟨.function, name ++ ['(']⟩ :: ·) := by
  obtain ⟨c, cs, rfl, hc, hblank⟩ := head_name hname
  have hlength : nameLength (c :: cs ++ '(' :: rest) = (c :: cs).length :=
    nameLength_append hname (by simp [continuesName])
  have hlongest : longest (c :: cs ++ '(' :: rest) = (.function, (c :: cs ++ ['(']).length) := by
    rw [List.cons_append, longest_function hc, ← List.cons_append, hlength]
    · simp
    · rw [← List.cons_append, hlength, List.drop_left]
      rfl
  have h : scan? (c :: cs ++ ['('] ++ rest) =
      (scan? rest).map (⟨.function, c :: cs ++ ['(']⟩ :: ·) :=
    scan?_append rfl hblank (by simpa using hlongest)
  simpa using h

/-- A name that is not extended is a name token. -/
theorem scan?_ident (name rest : List Char) (hname : isName name = true)
    (hrest : ∀ c ∈ rest.head?, continuesName c = false ∧ c ≠ '(') :
    scan? (name ++ rest) = (scan? rest).map (⟨.ident, name⟩ :: ·) := by
  obtain ⟨c, cs, rfl, hc, hblank⟩ := head_name hname
  have hlength : nameLength (c :: cs ++ rest) = (c :: cs).length :=
    nameLength_append hname fun c hc => (hrest c hc).1
  refine scan?_append rfl hblank ?_
  rw [List.cons_append, longest_ident hc, ← List.cons_append, hlength]
  rw [← List.cons_append, hlength, List.drop_left]
  exact fun h => (hrest '(' h).2 rfl

/-- A numeral starts with a digit or a dash, which is no blank. -/
theorem head_numeral (n : Numeral) :
    ∃ c cs, n.text = c :: cs ∧ (c.isDigit = true ∨ c = '-') ∧ isBlank c = false := by
  have hblank {c : Char} (hc : c.isDigit = true ∨ c = '-') : isBlank c = false :=
    isBlank_eq_false fun d hd => (ne_of_isDigit hc).2 d (by simp at hd ⊢; tauto)
  obtain ⟨c, cs, hcs, hdigit⟩ := n.head_unsigned
  cases hsign : n.negative with
  | true => exact ⟨'-', n.unsigned, by simp [Numeral.text, hsign], .inr rfl, hblank (.inr rfl)⟩
  | false => exact ⟨c, cs, by simp [Numeral.text, hsign, hcs], .inl hdigit, hblank (.inl hdigit)⟩

/-- A numeral without a unit is a number token. -/
theorem scan?_number (n : Numeral) {rest : List Char}
    (hrest : ∀ c ∈ rest.head?, endsNumber c = true ∧ c.isAlpha = false ∧ c ≠ '%') :
    scan? (n.text ++ rest) = (scan? rest).map (⟨.number, n.text⟩ :: ·) := by
  obtain ⟨c, cs, hcs, hc, hblank⟩ := head_numeral n
  have hlength := numberLength_append n fun c hc => (hrest c hc).1
  have hunit : unitLength rest = 0 := by
    have hrun : runLength Char.isAlpha ([] ++ rest) = 0 :=
      runLength_append (by simp) fun c hc => (hrest c hc).2.1
    rwa [unitLength_eq_runLength fun h => (hrest '%' h).2.2 rfl]
  refine scan?_append (by rw [hcs]; rfl) hblank ?_
  rw [hcs] at hlength ⊢
  rw [List.cons_append, longest_number hc, ← List.cons_append, hlength]
  · rw [← List.cons_append, hlength]
    simp
  · rwa [← List.cons_append, hlength, List.drop_left]

/-- A numeral with a unit that is found whole is a dimension token. -/
private theorem scan?_measured (n : Numeral) {unit rest : List Char} (hne : unit ≠ [])
    (hends : ∀ c ∈ unit.head?, endsNumber c = true)
    (hunit : unitLength (unit ++ rest) = unit.length) :
    scan? (n.text ++ unit ++ rest) = (scan? rest).map (⟨.dimension, n.text ++ unit⟩ :: ·) := by
  obtain ⟨c, cs, hcs, hc, hblank⟩ := head_numeral n
  have hlength : numberLength (n.text ++ (unit ++ rest)) = n.text.length := by
    refine numberLength_append n fun d hd => hends d ?_
    obtain ⟨u, us, rfl⟩ := List.exists_cons_of_ne_nil hne
    exact hd
  refine scan?_append (by rw [hcs]; rfl) hblank ?_
  rw [hcs] at hlength
  rw [hcs, List.append_assoc, List.cons_append, longest_dimension hc, ← List.cons_append, hlength,
    List.drop_left, hunit]
  · rw [List.length_append]
  · rw [← List.cons_append, hlength]
    simp
  · rw [← List.cons_append, hlength, List.drop_left, hunit]
    simpa using hne

/-- A numeral with letters is a dimension token. -/
theorem scan?_dimension (n : Numeral) {unit rest : List Char} (hne : unit ≠ [])
    (hunit : unit.all Char.isAlpha = true) (hrest : ∀ c ∈ rest.head?, c.isAlpha = false) :
    scan? (n.text ++ unit ++ rest) = (scan? rest).map (⟨.dimension, n.text ++ unit⟩ :: ·) := by
  rw [List.all_eq_true] at hunit
  refine scan?_measured n hne ?_ ?_
  · intro c hc
    exact endsNumber_of_unit (by rw [hunit c (List.mem_of_mem_head? hc), Bool.true_or])
  · obtain ⟨u, us, rfl⟩ := List.exists_cons_of_ne_nil hne
    rw [unitLength_eq_runLength, runLength_append hunit hrest]
    intro hpercent
    obtain rfl : u = '%' := Option.some.inj hpercent
    exact absurd (hunit '%' List.mem_cons_self) (by decide)

/-- A numeral with a percent sign is a dimension token. -/
theorem scan?_percent (n : Numeral) (rest : List Char) :
    scan? (n.text ++ ['%'] ++ rest) = (scan? rest).map (⟨.dimension, n.text ++ ['%']⟩ :: ·) := by
  refine scan?_measured n (by simp) ?_ rfl
  intro c hc
  obtain rfl : '%' = c := by simpa using hc
  decide

/-- A comma is a token of its own. -/
theorem scan?_comma (rest : List Char) :
    scan? (',' :: rest) = (scan? rest).map (⟨.comma, [',']⟩ :: ·) := by
  show scan? ([','] ++ rest) = _
  exact scan?_append rfl (by decide) (longest_sign rfl Nat.one_pos)

/-- A closing parenthesis is a token of its own. -/
theorem scan?_close (rest : List Char) :
    scan? (')' :: rest) = (scan? rest).map (⟨.close, [')']⟩ :: ·) := by
  show scan? ([')'] ++ rest) = _
  exact scan?_append rfl (by decide) (longest_sign rfl Nat.one_pos)

/-- A text without a double quote is quoted by two of them. -/
theorem scan?_quoted {content : List Char} (h : '"' ∉ content) (rest : List Char) :
    scan? ('"' :: content ++ '"' :: rest) =
      (scan? rest).map (⟨.doubleQuoted, '"' :: content ++ ['"']⟩ :: ·) := by
  have hlength := quotedLength_append h rest
  have hreach : reach .doubleQuoted ('"' :: (content ++ '"' :: rest)) =
      ('"' :: content ++ ['"']).length := by
    simp only [reach_doubleQuoted, hlength, List.length_append, List.length_cons, List.length_nil]
    split <;> omega
  have hlongest : longest ('"' :: content ++ ['"'] ++ rest) =
      (.doubleQuoted, ('"' :: content ++ ['"']).length) := by
    rw [List.append_assoc, List.singleton_append, List.cons_append, ← hreach]
    exact longest_sign rfl (hreach ▸ Nat.succ_pos _)
  simpa using scan?_append (c := '"') rfl (by decide) hlongest

/-- A number token has the value of its numeral. -/
theorem number?_text (n : Numeral) : number? ⟨.number, n.text⟩ = some n.value := by
  rw [number?, if_pos rfl, Binary64.read?_text]

/-- No character of a numeral is one that a unit starts with. -/
theorem not_unit_of_mem_text {n : Numeral} {c : Char} (hc : c ∈ n.text) :
    (c.isAlpha || c == '%') = false := by
  rcases Numeral.mem_text hc with hdigit | rfl | rfl
  · have hpercent : c ≠ '%' := by
      rintro rfl
      simp at hdigit
    simp [Text.isAlpha_eq_false_of_isDigit hdigit, hpercent]
  · rfl
  · rfl

/-- A dimension token has the value of its numeral, and its unit. -/
theorem dimension?_text (n : Numeral) {unit : List Char}
    (hunit : unit.head?.any (fun c => c.isAlpha || c == '%') = true) :
    dimension? ⟨.dimension, n.text ++ unit⟩ = some (n.value, String.ofList unit) := by
  have hnumber : ∀ c ∈ n.text, (!(c.isAlpha || c == '%')) = true := by
    intro c hc
    rw [not_unit_of_mem_text hc]
    rfl
  cases unit with
  | nil => cases hunit
  | cons c unit =>
    have hfirst : ¬(!(c.isAlpha || c == '%')) = true := by
      rw [show (c.isAlpha || c == '%') = true from hunit]
      decide
    have htake : (c :: unit).takeWhile (fun c => !(c.isAlpha || c == '%')) = [] :=
      List.takeWhile_cons_of_neg hfirst
    have hdrop : (c :: unit).dropWhile (fun c => !(c.isAlpha || c == '%')) = c :: unit :=
      List.dropWhile_cons_of_neg hfirst
    rw [dimension?, if_pos rfl]
    simp only [List.takeWhile_append_of_pos hnumber, List.dropWhile_append_of_pos hnumber, htake,
      hdrop, List.append_nil, Binary64.read?_text, Option.map_some]

@[simp] theorem functionName?_text (name : List Char) :
    functionName? ⟨.function, name ++ ['(']⟩ = some (String.ofList name) := by
  simp [functionName?]

end Token

end Sitework
