import Sitework.Proofs.Json.Token

/-!
# Numbers read from text are finite

A literal of 64 bits is far below the largest finite number, and a number that would be too large is
refused. So the reader never holds an infinite number, whatever the text.
-/

namespace Sitework

namespace Rounding

/-- The nearest integer is not below the quotient. -/
theorem div_le_nearest (num den : Nat) : num / den ≤ nearest num den := by
  rw [nearest]
  split
  · exact Nat.le_refl _
  · split
    · exact Nat.le_succ _
    · split
      · exact Nat.le_refl _
      · exact Nat.le_succ _

/-- A mantissa has its bits, and all of them are needed unless the exponent is zero. The exponent
is as small as the integer part of the quotient allows. -/
theorem toPrecision_spec {bits num den limit : Nat} (hbits : 0 < bits)
    (h : num / den < 2 ^ (bits + limit)) :
    (toPrecision bits num den).1 < 2 ^ bits ∧ (toPrecision bits num den).2 ≤ limit + 1 ∧
      ((toPrecision bits num den).2 = 0 ∨ 2 ^ (bits - 1) ≤ (toPrecision bits num den).1) := by
  obtain ⟨e, he⟩ : ∃ e, e = (num / den).log2 + 1 - bits := ⟨_, rfl⟩
  have hexponent : e ≤ limit := by
    by_cases hzero : num / den = 0
    · rw [hzero, Nat.log2_zero] at he
      omega
    · have hlog := (Nat.log2_lt hzero).2 h
      omega
  have hmantissa : e = 0 ∨ 2 ^ (bits - 1) ≤ nearest num (den * 2 ^ e) := by
    refine or_iff_not_imp_left.2 fun hne => ?_
    have hzero : num / den ≠ 0 := by
      intro hzero
      rw [hzero, Nat.log2_zero] at he
      omega
    have hlog : bits - 1 + e = (num / den).log2 := by omega
    have hquotient : 2 ^ (bits - 1) ≤ num / (den * 2 ^ e) := by
      rw [← Nat.div_div_eq_div_mul, Nat.le_div_iff_mul_le (Nat.two_pow_pos e), ← Nat.pow_add, hlog]
      exact Nat.log2_self_le hzero
    exact hquotient.trans (div_le_nearest _ _)
  rw [toPrecision, ← he]
  split
  · next hlt => exact ⟨hlt, Nat.le_succ_of_le hexponent, hmantissa⟩
  · exact ⟨Nat.pow_lt_pow_right Nat.one_lt_two (by omega), Nat.succ_le_succ hexponent,
      .inr (Nat.le_refl _)⟩

end Rounding

private theorem mul_two_pow_lt {n a b c : Nat} (hn : n < 2 ^ a) (h : a + b ≤ c) :
    n * 2 ^ b < 2 ^ c :=
  calc n * 2 ^ b
    _ < 2 ^ a * 2 ^ b := Nat.mul_lt_mul_of_pos_right hn (Nat.two_pow_pos b)
    _ = 2 ^ (a + b) := (Nat.pow_add 2 a b).symm
    _ ≤ 2 ^ c := Nat.pow_le_pow_right Nat.two_pos h

/-- A rounded quotient that is small enough has a normal form. -/
theorem Magnitude.fits_toPrecision {num den : Nat} (h : num / den < 2 ^ (53 + 2044)) :
    Magnitude.Fits ⟨(Rounding.toPrecision 53 num den).1, (Rounding.toPrecision 53 num den).2⟩ :=
  Rounding.toPrecision_spec (by decide) h

/-- An integer of 64 bits is finite. -/
theorem Binary64.isFinite_ofInt_of_bounds {n : Int} (hlow : -(2 ^ 63) ≤ n) (hhigh : n < 2 ^ 64) :
    (ofInt n).IsFinite := by
  have hn : n.natAbs < 2 ^ 64 := by omega
  have hfits : (Magnitude.ofRatio n.natAbs 1).Fits := by
    obtain ⟨places, hplaces⟩ : ∃ places, places = 1074 := ⟨_, rfl⟩
    rw [Magnitude.ofRatio, ← hplaces]
    refine Magnitude.fits_toPrecision ?_
    rw [Nat.div_one]
    exact mul_two_pow_lt hn (by omega)
  rw [ofInt, ofRatio, ofMagnitude, dif_pos hfits]
  exact isFinite_finite _ _ _

namespace Json

/-- Values that hold numbers of some kind only, integers among them. -/
inductive Holds (P : Binary64 → Prop) : Json → Prop
  | null : Holds P .null
  | bool (value : Bool) : Holds P (.bool value)
  | integer {value : Int} : P (.ofInt value) → Holds P (.integer value)
  | number {value : Binary64} : P value → Holds P (.number value)
  | string (value : String) : Holds P (.string value)
  | array {items : List Json} : (∀ item ∈ items, Holds P item) → Holds P (.array items)
  | object {members : List (String × Json)} : (∀ member ∈ members, Holds P member.2) →
    Holds P (.object members)
  | unreadable : Holds P .unreadable

/-- The value of a literal holds a finite number. -/
theorem Numeral.Literal.holds_of_value? {literal : Literal} {value : Json}
    (h : literal.value? = some value) : value.Holds Binary64.IsFinite := by
  obtain ⟨signed, hsigned⟩ : ∃ signed : Int, signed = if literal.negative then
      -(Decimal.ofDigits literal.whole : Int) else Decimal.ofDigits literal.whole := ⟨_, rfl⟩
  simp only [value?, ← hsigned] at h
  split at h
  · next hinteger =>
    obtain rfl := Option.some.inj h
    exact .integer (Binary64.isFinite_ofInt_of_bounds hinteger.2.2.2.1 hinteger.2.2.1)
  · obtain ⟨x, hx, rfl⟩ := Option.map_eq_some_iff.1 h
    have hfits : x.Fits := by
      have hfilter := Option.filter_eq_some_iff.1 hx
      exact of_decide_eq_true hfilter.2
    rw [Binary64.ofMagnitude, dif_pos hfits]
    exact .number (Binary64.isFinite_finite _ _ _)

/-- Tokens that hold numbers of some kind only. -/
def Token.Holds (P : Binary64 → Prop) : Token → Prop
  | .scalar value => value.Holds P
  | _ => True

namespace Token

/-- A token that is read holds finite numbers only. -/
theorem holds_of_next? {cs rest : List Char} {token : Token}
    (h : next? cs = some (token, rest)) : token.Holds Binary64.IsFinite := by
  unfold next? at h
  split at h
  case h_10 =>
    split at h
    · obtain ⟨rfl, -⟩ := Prod.mk.inj (Option.some.inj h)
      trivial
    · cases h
  case h_11 =>
    split at h
    · next literal after _ =>
      obtain ⟨rfl, -⟩ := Prod.mk.inj (Option.some.inj h)
      cases hvalue : literal.value? with
      | none => exact .unreadable
      | some value => exact Numeral.Literal.holds_of_value? hvalue
    · cases h
  all_goals
    obtain ⟨rfl, -⟩ := Prod.mk.inj (Option.some.inj h)
    first | trivial | exact Json.Holds.bool _ | exact Json.Holds.null

/-- The tokens of a text hold finite numbers. -/
theorem holds_of_scan? {cs : List Char} {tokens : List Token} (h : scan? cs = some tokens) :
    ∀ token ∈ tokens, token.Holds Binary64.IsFinite := by
  fun_induction scan? cs generalizing tokens with
  | case1 =>
    obtain rfl := Option.some.inj h
    exact List.forall_mem_nil _
  | case2 c cs _ ih => exact ih h
  | case3 c cs _ token rest hnext ih =>
    obtain ⟨others, hothers, rfl⟩ := Option.map_eq_some_iff.1 h
    exact List.forall_mem_cons.2 ⟨holds_of_next? hnext, ih hothers⟩
  | case4 => cases h

end Token

/-- What a row of readings gives comes from the items of the row. -/
theorem exists_of_mapM {α β : Type} {read : α → Option β} {items : List α} {results : List β}
    (h : items.mapM read = some results) :
    ∀ result ∈ results, ∃ item ∈ items, read item = some result := by
  induction items generalizing results with
  | nil =>
    obtain rfl := Option.some.inj h
    exact List.forall_mem_nil _
  | cons item items ih =>
    rw [List.mapM_cons] at h
    obtain ⟨first, hfirst, h⟩ := Option.bind_eq_some_iff.1 h
    obtain ⟨rest, hrest, h⟩ := Option.bind_eq_some_iff.1 h
    obtain rfl := Option.some.inj h
    refine List.forall_mem_cons.2 ⟨⟨item, List.mem_cons_self, hfirst⟩, fun result hresult => ?_⟩
    obtain ⟨other, hother, hread⟩ := ih hrest result hresult
    exact ⟨other, List.mem_cons_of_mem _ hother, hread⟩

/-- What every step of a row keeps is kept by the row. -/
theorem foldlM_induction {α β : Type} {step : β → α → Option β} {motive : β → Prop}
    {items : List α}
    (hstep : ∀ state item next, item ∈ items → step state item = some next → motive state →
      motive next)
    {state last : β} (h : items.foldlM step state = some last) (hstate : motive state) :
    motive last := by
  induction items generalizing state with
  | nil => exact Option.some.inj h ▸ hstate
  | cons item items ih =>
    rw [List.foldlM_cons] at h
    obtain ⟨next, hnext, h⟩ := Option.bind_eq_some_iff.1 h
    refine ih (fun state item next hitem => ?_) h ?_
    · exact hstep state item next (List.mem_cons_of_mem _ hitem)
    · exact hstep state item next List.mem_cons_self hnext hstate

/-- Containers that are still open and hold numbers of some kind only. -/
def Frame.Holds (P : Binary64 → Prop) : Frame → Prop
  | .array items => ∀ item ∈ items, item.Holds P
  | .object members _ => ∀ member ∈ members, member.2.Holds P

namespace Reading

variable {P : Binary64 → Prop}

/-- What has been read holds numbers of some kind only. -/
def Holds (P : Binary64 → Prop) : Reading → Prop
  | .value frames | .firstItem frames | .firstKey frames => ∀ frame ∈ frames, frame.Holds P
  | .key members frames | .colon _ members frames =>
    (∀ member ∈ members, member.2.Holds P) ∧ ∀ frame ∈ frames, frame.Holds P
  | .complete last frames => last.Holds P ∧ ∀ frame ∈ frames, frame.Holds P

/-- Closing what is open last keeps the condition, in the value as in what stays open. -/
theorem holds_close {container : Json} {frames : List Frame} (h : container.Holds P)
    (hframes : ∀ frame ∈ frames, frame.Holds P) : (close container frames).Holds P := by
  refine ⟨?_, hframes⟩
  split
  · exact h
  · exact .unreadable

/-- So does closing an array. -/
theorem holds_closeArray {items : List Json} {frames : List Frame}
    (h : ∀ item ∈ items, item.Holds P) (hframes : ∀ frame ∈ frames, frame.Holds P) :
    (closeArray items frames).Holds P :=
  holds_close (.array fun item hitem => h item (List.mem_reverse.1 hitem)) hframes

/-- So does closing an object. -/
theorem holds_closeObject {members : List (Option String × Json)} {frames : List Frame}
    (h : ∀ member ∈ members, member.2.Holds P) (hframes : ∀ frame ∈ frames, frame.Holds P) :
    (closeObject members frames).Holds P := by
  unfold closeObject
  split
  · next named hnamed =>
    refine holds_close (.object fun member hmember => ?_) hframes
    obtain ⟨⟨name, last⟩, hlast, hread⟩ := exists_of_mapM hnamed member hmember
    obtain ⟨key, -, rfl⟩ := Option.map_eq_some_iff.1 hread
    exact h (name, last) (List.mem_reverse.1 hlast)
  · exact ⟨.unreadable, hframes⟩

/-- A value that starts with a token keeps it if the token does. -/
theorem holds_of_startValue? {frames : List Frame} {token : Token} {next : Reading}
    (h : startValue? frames token = some next) (htoken : token.Holds P)
    (hframes : ∀ frame ∈ frames, frame.Holds P) : next.Holds P := by
  unfold startValue? at h
  split at h
  case h_1 => exact Option.some.inj h ▸ ⟨.string _, hframes⟩
  case h_2 => exact Option.some.inj h ▸ ⟨.unreadable, hframes⟩
  case h_3 => exact Option.some.inj h ▸ ⟨htoken, hframes⟩
  case h_4 => exact Option.some.inj h ▸ hframes
  case h_5 => exact Option.some.inj h ▸ hframes
  case h_6 => cases h

/-- A token of such a kind keeps it that way. -/
theorem holds_of_step? {reading next : Reading} {token : Token}
    (h : step? reading token = some next) (htoken : token.Holds P) (hreading : reading.Holds P) :
    next.Holds P := by
  unfold step? at h
  split at h
  case h_1 => exact holds_of_startValue? h htoken hreading
  case h_2 => exact Option.some.inj h ▸ holds_closeArray (List.forall_mem_nil _) hreading
  case h_3 =>
    refine holds_of_startValue? h htoken (List.forall_mem_cons.2 ⟨?_, hreading⟩)
    exact List.forall_mem_nil _
  case h_4 => exact Option.some.inj h ▸ holds_closeObject (List.forall_mem_nil _) hreading
  case h_5 => exact Option.some.inj h ▸ ⟨List.forall_mem_nil _, hreading⟩
  case h_6 => exact Option.some.inj h ▸ hreading
  case h_7 => exact Option.some.inj h ▸ List.forall_mem_cons.2 hreading
  case h_8 =>
    obtain ⟨hlast, hframes⟩ := hreading
    obtain ⟨hitems, hframes⟩ := List.forall_mem_cons.1 hframes
    exact Option.some.inj h ▸
      List.forall_mem_cons.2 ⟨List.forall_mem_cons.2 ⟨hlast, hitems⟩, hframes⟩
  case h_9 =>
    obtain ⟨hlast, hframes⟩ := hreading
    obtain ⟨hitems, hframes⟩ := List.forall_mem_cons.1 hframes
    exact Option.some.inj h ▸ holds_closeArray (List.forall_mem_cons.2 ⟨hlast, hitems⟩) hframes
  case h_10 =>
    obtain ⟨hlast, hframes⟩ := hreading
    obtain ⟨hmembers, hframes⟩ := List.forall_mem_cons.1 hframes
    exact Option.some.inj h ▸ ⟨List.forall_mem_cons.2 ⟨hlast, hmembers⟩, hframes⟩
  case h_11 =>
    obtain ⟨hlast, hframes⟩ := hreading
    obtain ⟨hmembers, hframes⟩ := List.forall_mem_cons.1 hframes
    exact Option.some.inj h ▸
      holds_closeObject (List.forall_mem_cons.2 ⟨hlast, hmembers⟩) hframes
  case h_12 => cases h

end Reading

/-- The numbers of a text are finite. -/
theorem holds_of_parse? {text : String} {value : Json} (h : parse? text = some value) :
    value.Holds Binary64.IsFinite := by
  obtain ⟨hskim, -⟩ := Option.filter_eq_some_iff.1 h
  obtain ⟨tokens, htokens, hskim⟩ := Option.bind_eq_some_iff.1 hskim
  obtain ⟨reading, hreading, hvalue⟩ := Option.bind_eq_some_iff.1 hskim
  have hholds : reading.Holds Binary64.IsFinite :=
    foldlM_induction (fun reading token next htoken hnext =>
      Reading.holds_of_step? hnext (Token.holds_of_scan? htokens token htoken)) hreading
      (List.forall_mem_nil _)
  unfold Reading.value? at hvalue
  split at hvalue
  · exact Option.some.inj hvalue ▸ hholds.1
  · cases hvalue

end Json

end Sitework
