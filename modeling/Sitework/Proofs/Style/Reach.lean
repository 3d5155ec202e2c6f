import Sitework.Proofs.Style.Patterns

/-!
# How far the kinds of tokens reach

A kind of token reaches as far as the longest text of its pattern at the start of what is read. So
the longest token is the longest text there of any pattern.
-/

namespace Sitework

namespace TokenKind

open scoped Computability

/-- The length of the longest text of a language at the start of a text; zero if there is none. -/
structure IsReach (l : Language Char) (cs : List Char) (n : Nat) : Prop where
  /-- No text of the language reaches farther. -/
  le : ∀ w ∈ l, w <+: cs → w.length ≤ n
  /-- Some text of the language reaches as far. -/
  exists_text : n ≠ 0 → ∃ w ∈ l, w <+: cs ∧ w.length = n

section Reach

/-- A run is cut off at the start of a text, and nothing that follows extends it. -/
theorem exists_run (p : Char → Bool) (cs : List Char) :
    ∃ run rest, cs = run ++ rest ∧ (∀ c ∈ run, p c = true) ∧ (∀ c ∈ rest.head?, p c = false) ∧
      runLength p cs = run.length := by
  refine ⟨cs.takeWhile p, cs.dropWhile p, List.takeWhile_append_dropWhile.symm,
    List.all_eq_true.1 List.all_takeWhile, fun c hc => ?_, rfl⟩
  have hstop := List.head?_dropWhile_not p cs
  rw [Option.mem_def.1 hc] at hstop
  exact hstop

/-- The longest name at the start of a text has the length that is counted. -/
theorem isReach_name (cs : List Char) : IsReach namePattern cs (nameLength cs) where
  le w hw hstart := by
    have hname := mem_namePattern.1 hw
    cases w with
    | nil => cases hname
    | cons c w =>
      obtain ⟨rest, rfl⟩ := hstart
      rw [isName, Bool.and_eq_true, List.all_eq_true] at hname
      have hrun := le_runLength hname.2 rest
      rw [List.cons_append, nameLength, if_pos hname.1, List.length_cons]
      omega
  exists_text hpos := by
    cases cs with
    | nil => exact absurd rfl hpos
    | cons c cs =>
      rw [nameLength] at hpos ⊢
      split at hpos
      · next hc =>
        obtain ⟨run, rest, rfl, hrun, -, hlength⟩ := exists_run continuesName cs
        refine ⟨c :: run, mem_namePattern.2 ?_, ⟨rest, rfl⟩, ?_⟩
        · rw [isName, hc, Bool.true_and, List.all_eq_true]
          exact hrun
        · rw [if_pos hc, hlength, List.length_cons, Nat.add_comm]
      · exact absurd rfl hpos

/-- So has the longest function, which is the longest name if a parenthesis follows. A shorter name
is followed by a character of a name, which is no parenthesis. -/
theorem isReach_function (cs : List Char) :
    IsReach (pattern .function) cs (reach .function cs) where
  le w hw hstart := by
    obtain ⟨name, hname, rfl⟩ := mem_function.1 hw
    obtain ⟨rest, rfl⟩ := hstart
    have hlength : nameLength (name ++ '(' :: rest) = name.length :=
      nameLength_append hname (by simp [continuesName])
    have hne : name.length ≠ 0 := by
      rintro hnil
      rw [List.length_eq_zero_iff.1 hnil] at hname
      cases hname
    rw [List.append_assoc, List.singleton_append, reach_function, hlength, List.drop_left,
      if_pos ⟨hne, rfl⟩, List.length_append, List.length_singleton]
  exists_text hpos := by
    rw [reach_function] at hpos ⊢
    split at hpos
    · next h =>
      obtain ⟨name, hname, ⟨rest, rfl⟩, hlength⟩ := (isReach_name cs).exists_text h.1
      rw [if_pos h]
      rw [← hlength, List.drop_left] at h
      obtain ⟨after, rfl⟩ := List.head?_eq_some_iff.1 h.2
      refine ⟨name ++ ['('], mem_function.2 ⟨name, mem_namePattern.1 hname, rfl⟩, ?_, ?_⟩
      · exact ⟨after, by simp⟩
      · rw [List.length_append, hlength, List.length_singleton]
    · exact absurd rfl hpos

/-- A point without a digit after it is no part of a number. -/
private theorem exists_fraction (cs : List Char) : ∃ ds, (∀ d ∈ ds, d.isDigit = true) ∧
    (if ds = [] then [] else '.' :: ds) <+: cs ∧
      (if ds = [] then [] else '.' :: ds).length = fractionLength cs := by
  have hnone {n : Nat} (hn : n = 0) : ∃ ds, (∀ d ∈ ds, d.isDigit = true) ∧
      (if ds = [] then [] else '.' :: ds) <+: cs ∧
        (if ds = [] then [] else '.' :: ds).length = n :=
    ⟨[], List.forall_mem_nil _, List.nil_prefix, hn.symm⟩
  unfold fractionLength
  split
  · next cs =>
    obtain ⟨ds, rest, rfl, hds, -, hlength⟩ := exists_run Char.isDigit cs
    rw [hlength]
    split
    · exact hnone rfl
    · next hpos =>
      have hne : ds ≠ [] := fun hnil => hpos (congrArg List.length hnil)
      refine ⟨ds, hds, ?_, ?_⟩
      · rw [if_neg hne]
        exact ⟨rest, rfl⟩
      · rw [if_neg hne, List.length_cons, Nat.add_comm]
  · exact hnone rfl

/-- A number that is counted is the text of a numeral at the start. -/
private theorem exists_unsigned (negative : Bool) {cs : List Char} (hpos : unsignedLength cs ≠ 0) :
    ∃ n : Numeral, n.negative = negative ∧ n.unsigned <+: cs ∧
      n.unsigned.length = unsignedLength cs := by
  obtain ⟨whole, rest, rfl, hwhole, -, hlength⟩ := exists_run Char.isDigit cs
  rw [unsignedLength, hlength] at hpos ⊢
  split at hpos
  · exact absurd rfl hpos
  · next hne =>
    obtain ⟨ds, hds, hstart, hfraction⟩ := exists_fraction rest
    have hdigit := List.forall_mem_append.2 ⟨hwhole, hds⟩
    refine ⟨⟨negative, whole, ds, fun hnil => hne (congrArg List.length hnil), hdigit⟩, rfl,
      (List.prefix_append_right_inj whole).2 hstart, ?_⟩
    rw [if_neg hne, List.drop_left, ← hfraction]
    exact List.length_append

/-- The longest number at the start of a text has the length that is counted. Its fraction is part
of it only if a digit follows the point. -/
theorem isReach_number (cs : List Char) : IsReach numberPattern cs (numberLength cs) where
  le w hw hstart := by
    obtain ⟨n, rfl⟩ := mem_numberPattern.1 hw
    obtain ⟨rest, rfl⟩ := hstart
    rw [numberLength_text_append, length_text]
    exact Nat.add_le_add_left (le_unsignedLength n rest) _
  exists_text hpos := by
    unfold numberLength at hpos ⊢
    split at hpos
    · next cs =>
      split at hpos
      · exact absurd rfl hpos
      · next hunsigned =>
        obtain ⟨n, hsign, hstart, hlength⟩ := exists_unsigned true hunsigned
        refine ⟨n.text, mem_numberPattern.2 ⟨n, rfl⟩, ?_, ?_⟩
        · rw [Numeral.text, if_pos hsign]
          exact (List.prefix_cons_inj '-').2 hstart
        · rw [length_text, if_pos hsign, hlength, if_neg hunsigned]
    · obtain ⟨n, hsign, hstart, hlength⟩ := exists_unsigned false hpos
      have hnegative : ¬n.negative = true := hsign ▸ Bool.false_ne_true
      refine ⟨n.text, mem_numberPattern.2 ⟨n, rfl⟩, ?_, ?_⟩
      · rwa [Numeral.text, if_neg hnegative]
      · rw [length_text, if_neg hnegative, hlength, Nat.zero_add]

/-- The longest unit at the start of a text has the length that is counted. -/
theorem isReach_unit (cs : List Char) : IsReach unitPattern cs (unitLength cs) where
  le w hw hstart := by
    obtain ⟨rest, rfl⟩ := hstart
    rcases mem_unitPattern.1 hw with ⟨hne, hletters⟩ | rfl
    · rw [unitLength_eq_runLength]
      · exact le_runLength hletters rest
      · obtain ⟨c, w, rfl⟩ := List.exists_cons_of_ne_nil hne
        intro hpercent
        obtain rfl : c = '%' := Option.some.inj hpercent
        exact absurd (hletters '%' List.mem_cons_self) (by decide)
    · exact Nat.le_refl 1
  exists_text hpos := by
    by_cases hpercent : '%' ∈ cs.head?
    · obtain ⟨rest, rfl⟩ := List.head?_eq_some_iff.1 hpercent
      exact ⟨['%'], mem_unitPattern.2 (.inr rfl), ⟨rest, rfl⟩, rfl⟩
    · rw [unitLength_eq_runLength hpercent] at hpos ⊢
      obtain ⟨run, rest, rfl, hrun, -, hlength⟩ := exists_run Char.isAlpha cs
      rw [hlength] at hpos ⊢
      have hne : run ≠ [] := fun hnil => hpos (congrArg List.length hnil)
      exact ⟨run, mem_unitPattern.2 (.inl ⟨hne, hrun⟩), ⟨rest, rfl⟩, rfl⟩

/-- The longest dimension is the longest number with the longest unit after it. After a shorter
number comes a digit or a point, at which no unit starts. -/
theorem isReach_dimension (cs : List Char) :
    IsReach (pattern .dimension) cs (reach .dimension cs) where
  le w hw hstart := by
    obtain ⟨n, unit, hunit, rfl⟩ := mem_dimension.1 hw
    obtain ⟨rest, rfl⟩ := hstart
    obtain ⟨hne, hchars⟩ := chars_of_mem_unitPattern hunit
    have hnumber : numberLength (n.text ++ (unit ++ rest)) = n.text.length := by
      obtain ⟨d, ds, rfl⟩ := List.exists_cons_of_ne_nil hne
      refine numberLength_append n fun c hc => endsNumber_of_unit (hchars c ?_)
      exact List.mem_of_mem_head? hc
    have hlength := (isReach_unit (unit ++ rest)).le unit hunit (List.prefix_append unit rest)
    have hpositive : unit.length ≠ 0 := fun hnil => hne (List.length_eq_zero_iff.1 hnil)
    have hnumeral : n.text.length ≠ 0 := by
      obtain ⟨c, cs, hcs, -⟩ := Token.head_numeral n
      rw [hcs]
      exact Nat.succ_ne_zero _
    rw [List.append_assoc, reach_dimension, hnumber, List.drop_left, if_neg (by omega),
      List.length_append]
    omega
  exists_text hpos := by
    rw [reach_dimension] at hpos ⊢
    split at hpos
    · exact absurd rfl hpos
    · next h =>
      rw [not_or] at h
      rw [if_neg (not_or.2 h)]
      obtain ⟨number, hnumber, ⟨rest, rfl⟩, hlength⟩ := (isReach_number cs).exists_text h.1
      rw [← hlength, List.drop_left] at h ⊢
      obtain ⟨unit, hunit, hstart, hlength⟩ := (isReach_unit rest).exists_text h.2
      refine ⟨number ++ unit, Language.append_mem_mul hnumber hunit,
        (List.prefix_append_right_inj number).2 hstart, ?_⟩
      rw [List.length_append, hlength]

/-- The longest color takes up to eight digits, and there is none with fewer than three. -/
theorem isReach_hexColor (cs : List Char) :
    IsReach (pattern .hexColor) cs (reach .hexColor cs) where
  le w hw hstart := by
    obtain ⟨ds, hleast, hmost, hds, rfl⟩ := mem_hexColor.1 hw
    obtain ⟨rest, rfl⟩ := hstart
    have hrun := le_runLength hds rest
    rw [List.cons_append, reach, List.length_cons, if_neg (by omega)]
    omega
  exists_text hpos := by
    obtain ⟨cs, rfl⟩ := exists_of_reach_ne_zero rfl hpos
    obtain ⟨run, rest, rfl, hrun, -, hlength⟩ := exists_run Hex.isDigit cs
    rw [reach, hlength] at hpos ⊢
    split at hpos
    · exact absurd rfl hpos
    · next hleast =>
      -- a run of more than eight digits is cut
      have htake : (run.take 8).length = min 8 run.length := List.length_take
      refine ⟨'#' :: run.take 8, mem_hexColor.2 ⟨run.take 8, by omega, by omega, ?_, rfl⟩, ?_, ?_⟩
      · exact fun d hd => hrun d (List.mem_of_mem_take hd)
      · exact (List.prefix_cons_inj '#').2 ((List.take_prefix 8 run).trans ⟨rest, rfl⟩)
      · rw [if_neg hleast, List.length_cons, htake, Nat.add_comm]

/-- A quoted text ends at the next quote, so there is one of one length at most. -/
theorem isReach_quoted {k : TokenKind} {quote : Char} (hsign : k.sign? = some quote)
    (hpattern : k.pattern = quotedPattern quote)
    (hreach : ∀ cs, k.reach (quote :: cs) =
      if quotedLength quote cs = 0 then 0 else 1 + quotedLength quote cs) (cs : List Char) :
    IsReach k.pattern cs (k.reach cs) where
  le w hw hstart := by
    rw [hpattern] at hw
    obtain ⟨content, hcontent, rfl⟩ := mem_quotedPattern.1 hw
    obtain ⟨rest, rfl⟩ := hstart
    have htext : quote :: content ++ [quote] ++ rest = quote :: (content ++ quote :: rest) := by
      simp
    rw [htext, hreach, quotedLength_append hcontent, if_neg (Nat.succ_ne_zero _),
      List.length_append, List.length_cons, List.length_singleton]
    omega
  exists_text hpos := by
    obtain ⟨cs, rfl⟩ := exists_of_reach_ne_zero hsign hpos
    rw [hreach] at hpos ⊢
    rw [hpattern]
    obtain ⟨content, rest, rfl, hcontent, hstop, hlength⟩ := exists_run (· != quote) cs
    cases rest with
    | nil =>
      -- the quote is not closed
      refine absurd (if_pos ?_) hpos
      rw [quotedLength, hlength, List.append_nil, if_neg (Nat.lt_irrefl _)]
    | cons c rest =>
      obtain rfl : c = quote := by simpa using hstop c rfl
      have hnot : c ∉ content := fun hmem => absurd (hcontent c hmem) (by simp)
      refine ⟨c :: content ++ [c], mem_quotedPattern.2 ⟨content, hnot, rfl⟩, ⟨rest, by simp⟩, ?_⟩
      rw [quotedLength_append hnot, if_neg (Nat.succ_ne_zero _), List.length_append,
        List.length_cons, List.length_singleton]
      omega

/-- A sign is a token of one character. -/
theorem isReach_sign {k : TokenKind} {c : Char} (hsign : k.sign? = some c)
    (hpattern : k.pattern = one (· = c)) (hreach : ∀ cs, k.reach (c :: cs) = 1)
    (cs : List Char) : IsReach k.pattern cs (k.reach cs) where
  le w hw hstart := by
    rw [hpattern] at hw
    obtain ⟨_, rfl, rfl⟩ := hw
    obtain ⟨rest, rfl⟩ := hstart
    exact (hreach rest).ge
  exists_text hpos := by
    obtain ⟨rest, rfl⟩ := exists_of_reach_ne_zero hsign hpos
    exact ⟨[c], hpattern ▸ singleton_mem_one.2 rfl, ⟨rest, rfl⟩, (hreach rest).symm⟩

/-- A kind reaches as far as the longest text of its pattern. -/
theorem isReach_pattern (k : TokenKind) (cs : List Char) : IsReach k.pattern cs (k.reach cs) := by
  cases k with
  | function => exact isReach_function cs
  | hexColor => exact isReach_hexColor cs
  | dimension => exact isReach_dimension cs
  | doubleQuoted => exact isReach_quoted rfl rfl (fun _ => rfl) cs
  | singleQuoted => exact isReach_quoted rfl rfl (fun _ => rfl) cs
  | number => exact isReach_number cs
  | ident => exact isReach_name cs
  | comma => exact isReach_sign rfl rfl (fun _ => rfl) cs
  | close => exact isReach_sign rfl rfl (fun _ => rfl) cs
  | slash => exact isReach_sign rfl rfl (fun _ => rfl) cs

end Reach

section Longest

variable {cs : List Char}

/-- No text of a pattern at the start is longer than the longest token. -/
theorem length_le_longest {k : TokenKind} {w : List Char} (hw : w ∈ k.pattern)
    (hstart : w <+: cs) : w.length ≤ (longest cs).2 :=
  ((isReach_pattern k cs).le w hw hstart).trans ((longest_farthest cs).2 k)

/-- The longest token is a text of its pattern. -/
theorem exists_longest (hpos : (longest cs).2 ≠ 0) :
    ∃ w ∈ (longest cs).1.pattern, w <+: cs ∧ w.length = (longest cs).2 := by
  obtain ⟨hreach, hfarthest⟩ := longest_farthest cs
  have hsame := Nat.le_antisymm hreach (hfarthest _)
  rw [hsame] at hpos ⊢
  exact (isReach_pattern _ cs).exists_text hpos

end Longest

end TokenKind

end Sitework
