import Sitework.Proofs.Style.Reach

/-!
# Values taken apart into tokens

A value is read from left to right. Blanks are left out, and at each other place the longest token
is taken that any pattern has there, until nothing is left or until no pattern has a token. Whatever
a token is asked for by its kind can be read from its text.
-/

namespace Sitework

namespace Token

open TokenKind

/-- A token that stands before the given rest, and no pattern has a longer one in its place. -/
structure IsLongest (t : Token) (rest : List Char) : Prop where
  /-- The text is of the pattern of its kind. -/
  mem_pattern : t.text ∈ t.kind.pattern
  /-- No text of a pattern that starts in the same place is longer. -/
  length_le : ∀ k : TokenKind, ∀ w ∈ k.pattern, w <+: t.text ++ rest → w.length ≤ t.text.length

/-- The tokens that are read from a text before some rest of it. -/
inductive Reads : List Char → List Token → List Char → Prop where
  /-- Nothing is read. -/
  | done (rest : List Char) : Reads rest [] rest
  /-- A blank is left out. -/
  | blank {c : Char} {cs : List Char} {ts : List Token} {rest : List Char}
      (hblank : c ∈ [' ', '\t', '\n', '\r', '\x0c']) (hreads : Reads cs ts rest) :
      Reads (c :: cs) ts rest
  /-- The longest token is taken. -/
  | token {t : Token} {cs : List Char} {ts : List Token} {rest : List Char}
      (hlongest : t.IsLongest cs) (hreads : Reads cs ts rest) :
      Reads (t.text ++ cs) (t :: ts) rest

/-- A place inside a text where no blank is and no pattern has a token. -/
structure IsStuck (rest : List Char) : Prop where
  /-- There is a character left, which is no blank. -/
  exists_head : ∃ c ∈ rest.head?, c ∉ [' ', '\t', '\n', '\r', '\x0c']
  /-- No text of a pattern starts here. -/
  not_start : ∀ k : TokenKind, ∀ w ∈ k.pattern, ¬w <+: rest

/-- What a token is asked for by its kind can be read from its text. -/
structure IsReadable (t : Token) : Prop where
  /-- A dimension is a number and a unit. -/
  dimension : t.kind = .dimension → ∃ number ∈ numberPattern, ∃ unit ∈ unitPattern, ∃ x,
    t.text = number ++ unit ∧ Binary64.read? number = some x ∧
      t.dimension? = some (x, String.ofList unit)
  /-- A number has a value. -/
  number : t.kind = .number → ∃ x, Binary64.read? t.text = some x ∧ t.number? = some x
  /-- A quoted text stands between two quotes. -/
  quoted : t.kind = .doubleQuoted ∨ t.kind = .singleQuoted → ∃ quote content,
    t.text = quote :: content ++ [quote] ∧ t.quoted? = some (String.ofList content)

section Steps

variable {t : Token} {cs rest : List Char}

/-- The tokenizer takes the longest token. -/
theorem IsLongest.longest_eq (h : t.IsLongest rest) :
    longest (t.text ++ rest) = (t.kind, t.text.length) := by
  have hle := length_le_longest h.mem_pattern (List.prefix_append t.text rest)
  obtain ⟨c, w, hw, -⟩ := exists_head_of_mem_pattern h.mem_pattern
  have htext : 0 < t.text.length := hw ▸ Nat.succ_pos w.length
  have hpos : (longest (t.text ++ rest)).2 ≠ 0 := by omega
  obtain ⟨w, hmem, hstart, hlength⟩ := exists_longest hpos
  have hge := h.length_le _ w hmem hstart
  have hsame : w = t.text :=
    (List.prefix_of_prefix_length_le hstart (List.prefix_append t.text rest) hge).eq_of_length
      (by omega)
  subst hsame
  exact Prod.ext (kind_eq_of_mem_pattern hmem h.mem_pattern) hlength.symm

/-- What the tokenizer takes is the longest token. -/
theorem exists_isLongest (hpos : (longest cs).2 ≠ 0) :
    ∃ t : Token, ∃ rest, cs = t.text ++ rest ∧ t.IsLongest rest ∧
      longest cs = (t.kind, t.text.length) := by
  obtain ⟨w, hw, ⟨rest, rfl⟩, hlength⟩ := exists_longest hpos
  exact ⟨⟨_, w⟩, rest, rfl, ⟨hw, fun k v hv hstart => hlength ▸ length_le_longest hv hstart⟩,
    Prod.ext rfl hlength.symm⟩

/-- The tokenizer fails where no pattern has a token. -/
theorem scan?_of_isStuck (h : IsStuck rest) : scan? rest = none := by
  obtain ⟨c, hc, hblank⟩ := h.exists_head
  obtain ⟨cs, rfl⟩ := List.head?_eq_some_iff.1 hc
  have hzero : (longest (c :: cs)).2 = 0 := by
    by_contra hpos
    obtain ⟨w, hw, hstart, -⟩ := exists_longest hpos
    exact h.not_start _ w hw hstart
  rw [scan?, if_neg (mt isBlank_iff.1 hblank)]
  simp only [hzero, if_true]

/-- The tokenizer takes what is read. -/
theorem Reads.scan?_eq {ts : List Token} (h : Reads cs ts rest) :
    scan? cs = (scan? rest).map (ts ++ ·) := by
  induction h with
  | done rest => exact Option.map_id'.symm
  | blank hblank hreads ih => rw [scan?_blank (isBlank_iff.2 hblank), ih]
  | @token t cs ts rest hlongest hreads ih =>
    obtain ⟨c, w, hw, hblank⟩ := exists_head_of_mem_pattern hlongest.mem_pattern
    have hhead : t.text.head? = some c := by rw [hw, List.head?_cons]
    rw [scan?_append hhead hblank hlongest.longest_eq, ih, Option.map_map]
    rfl

/-- A text is read to its end, or to a place where no pattern has a token. -/
theorem exists_reads (cs : List Char) :
    ∃ ts rest, Reads cs ts rest ∧ (rest = [] ∨ IsStuck rest) := by
  fun_induction scan? cs with
  | case1 => exact ⟨[], [], .done [], .inl rfl⟩
  | case2 c cs hblank ih =>
    obtain ⟨ts, rest, hreads, hend⟩ := ih
    exact ⟨ts, rest, .blank (isBlank_iff.1 hblank) hreads, hend⟩
  | case3 c cs hblank kind hlongest =>
    refine ⟨[], c :: cs, .done _, .inr ⟨⟨c, rfl, mt isBlank_iff.2 hblank⟩, fun k w hw hstart => ?_⟩⟩
    have hlength := length_le_longest hw hstart
    obtain ⟨d, v, rfl, -⟩ := exists_head_of_mem_pattern hw
    rw [hlongest] at hlength
    exact absurd hlength (Nat.not_succ_le_zero _)
  | case4 c cs hblank kind reach hlongest hpos ih =>
    obtain ⟨t, after, htext, hmunch, hsame⟩ := exists_isLongest (by rwa [hlongest])
    obtain ⟨d, w, hw, -⟩ := exists_head_of_mem_pattern hmunch.mem_pattern
    obtain rfl : reach = t.text.length := congrArg Prod.snd (hlongest.symm.trans hsame)
    rw [hw, List.cons_append, List.cons.injEq] at htext
    rw [hw, List.length_cons, Nat.add_sub_cancel, htext.2, List.drop_left] at ih
    obtain ⟨ts, rest, hreads, hend⟩ := ih
    refine ⟨t :: ts, rest, ?_, hend⟩
    have htoken := Reads.token hmunch hreads
    rwa [hw, List.cons_append, ← htext.1, ← htext.2] at htoken

/-- Every token that is read is of the pattern of its kind. -/
theorem Reads.mem_pattern {ts : List Token} (h : Reads cs ts rest) :
    ∀ t ∈ ts, t.text ∈ t.kind.pattern := by
  induction h with
  | done rest => exact List.forall_mem_nil _
  | blank _ _ ih => exact ih
  | token hlongest _ ih => exact List.forall_mem_cons.2 ⟨hlongest.mem_pattern, ih⟩

/-- A text of the pattern of its kind has what its kind is asked for. -/
theorem isReadable_of_mem_pattern (h : t.text ∈ t.kind.pattern) : t.IsReadable where
  dimension hkind := by
    obtain ⟨kind, text⟩ := t
    obtain rfl : kind = .dimension := hkind
    obtain ⟨n, unit, hunit, htext⟩ := mem_dimension.1 h
    obtain rfl : text = n.text ++ unit := htext
    obtain ⟨hne, hchars⟩ := chars_of_mem_unitPattern hunit
    refine ⟨n.text, mem_numberPattern.2 ⟨n, rfl⟩, unit, hunit, n.value, rfl, Binary64.read?_text n,
      dimension?_text n ?_⟩
    obtain ⟨c, cs, rfl⟩ := List.exists_cons_of_ne_nil hne
    exact hchars c List.mem_cons_self
  number hkind := by
    obtain ⟨kind, text⟩ := t
    obtain rfl : kind = .number := hkind
    obtain ⟨n, htext⟩ := mem_numberPattern.1 h
    obtain rfl : text = n.text := htext
    exact ⟨n.value, Binary64.read?_text n, number?_text n⟩
  quoted hkind := by
    obtain ⟨kind, text⟩ := t
    have hquoted : ∃ quote content, text = quote :: content ++ [quote] := by
      rcases hkind with hkind | hkind
      · obtain rfl : kind = .doubleQuoted := hkind
        obtain ⟨content, -, htext⟩ := mem_quotedPattern.1 h
        exact ⟨'"', content, htext⟩
      · obtain rfl : kind = .singleQuoted := hkind
        obtain ⟨content, -, htext⟩ := mem_quotedPattern.1 h
        exact ⟨'\'', content, htext⟩
    obtain ⟨quote, content, rfl⟩ := hquoted
    refine ⟨quote, content, rfl, ?_⟩
    rw [quoted?, if_pos ⟨hkind, by simp⟩]
    simp

end Steps

/-- A value has the tokens that are read from it to its end, and no tokens exactly if a place is
reached where no pattern has one. What its tokens are asked for can be read from them. -/
theorem tokenize?_maximal_munch (value : String) :
    (∀ ts, tokenize? value = some ts ↔ Reads value.toList ts []) ∧
      (tokenize? value = none ↔ ∃ ts rest, Reads value.toList ts rest ∧ IsStuck rest) ∧
        ∀ ts, tokenize? value = some ts → ∀ t ∈ ts, t.IsReadable := by
  have hsome (ts : List Token) : tokenize? value = some ts ↔ Reads value.toList ts [] := by
    constructor
    · intro h
      obtain ⟨us, rest, hreads, rfl | hstuck⟩ := exists_reads value.toList
      · rw [tokenize?, hreads.scan?_eq, scan?_nil, Option.map_some, List.append_nil] at h
        exact Option.some.inj h ▸ hreads
      · rw [tokenize?, hreads.scan?_eq, scan?_of_isStuck hstuck] at h
        cases h
    · intro hreads
      rw [tokenize?, hreads.scan?_eq, scan?_nil, Option.map_some, List.append_nil]
  refine ⟨hsome, ⟨fun h => ?_, ?_⟩, fun ts h t ht => ?_⟩
  · obtain ⟨ts, rest, hreads, rfl | hstuck⟩ := exists_reads value.toList
    · rw [(hsome ts).2 hreads] at h
      cases h
    · exact ⟨ts, rest, hreads, hstuck⟩
  · rintro ⟨ts, rest, hreads, hstuck⟩
    rw [tokenize?, hreads.scan?_eq, scan?_of_isStuck hstuck]
    rfl
  · exact isReadable_of_mem_pattern (((hsome ts).1 h).mem_pattern t ht)

/-- A quoted text that holds a point and a blank, and a percentage. -/
theorem tokenize?_maximal_munch_quoted :
    tokenize? "\"1. \" 5%" =
        some [⟨.doubleQuoted, "\"1. \"".toList⟩, ⟨.dimension, "5%".toList⟩] ∧
      (⟨.doubleQuoted, "\"1. \"".toList⟩ : Token).IsReadable ∧
        (⟨.dimension, "5%".toList⟩ : Token).IsReadable := by
  have hvalue : tokenize? "\"1. \" 5%" =
      some [⟨.doubleQuoted, "\"1. \"".toList⟩, ⟨.dimension, "5%".toList⟩] := by
    have hquoted := scan?_quoted (show '"' ∉ "1. ".toList by decide) " 5%".toList
    have hblank := scan?_blank (show isBlank ' ' = true from rfl) "5%".toList
    have hpercent := scan?_percent (Numeral.ofNat 5) []
    rw [scan?_nil] at hpercent
    exact hquoted.trans (congrArg _ (hblank.trans hpercent))
  have hreadable := (tokenize?_maximal_munch "\"1. \" 5%").2.2 _ hvalue
  exact ⟨hvalue, hreadable _ List.mem_cons_self,
    hreadable _ (List.mem_cons_of_mem _ List.mem_cons_self)⟩

end Token

end Sitework
