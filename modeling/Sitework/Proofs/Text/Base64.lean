import Sitework.Proofs.Outcome
import Sitework.Text.Base64

/-!
# Bytes written as text read back

Reading the symbols of some bytes gives the bytes: three bytes make a whole group, and one or two
bytes at the end a group with padding. The symbols are ASCII, so their text has them as its bytes.
A text with anything else in it is not read.
-/

namespace Sitework

namespace Base64

/-- No symbol of a number is the padding. -/
theorem symbol_ne_pad {n : Nat} (h : n < 64) : symbol n ≠ pad := by
  have hpad : value? pad = none := by decide
  intro heq
  have hvalue := value?_symbol h
  rw [heq, hpad] at hvalue
  exact Option.some_ne_none n hvalue.symm

/-- The symbol of a number has its value. -/
theorem valueAt_symbol {n : Nat} (h : n < 64) (offset : Nat) :
    valueAt offset (symbol n) = .ok n := by
  rw [valueAt, value?_symbol h]

/-- The first two values of a group hold a byte and four bits of the next one. -/
private theorem ofNat_first (x : UInt8) {y : Nat} (hy : y < 16) :
    UInt8.ofNat (x.toNat / 4 * 4 + (x.toNat % 4 * 16 + y) / 16) = x := by
  have hvalue : x.toNat / 4 * 4 + (x.toNat % 4 * 16 + y) / 16 = x.toNat := by omega
  rw [hvalue, UInt8.ofNat_toNat]

/-- The second and the third value hold a byte between four and two other bits. -/
private theorem ofNat_second (x : Nat) (y : UInt8) {z : Nat} (hz : z < 4) :
    UInt8.ofNat ((x * 16 + y.toNat / 16) % 16 * 16 + (y.toNat % 16 * 4 + z) / 4) = y := by
  have hy := y.toNat_lt
  have hvalue : (x * 16 + y.toNat / 16) % 16 * 16 + (y.toNat % 16 * 4 + z) / 4 = y.toNat := by
    omega
  rw [hvalue, UInt8.ofNat_toNat]

/-- The last two values hold a byte after two other bits. -/
private theorem ofNat_third (y : Nat) (z : UInt8) :
    UInt8.ofNat ((y * 4 + z.toNat / 64) % 4 * 64 + z.toNat % 64) = z := by
  have hz := z.toNat_lt
  have hvalue : (y * 4 + z.toNat / 64) % 4 * 64 + z.toNat % 64 = z.toNat := by omega
  rw [hvalue, UInt8.ofNat_toNat]

/-- A last group with two symbols is one byte. -/
private theorem decodeLast_two (offset : Nat) {a b : Nat} (ha : a < 64) (hb : b < 64)
    (hlast : b % 16 = 0) : decodeLast offset [symbol a, symbol b, pad, pad] =
      .ok [UInt8.ofNat (a * 4 + b / 16)] := by
  simp [decodeLast, symbol_ne_pad ha, symbol_ne_pad hb, valuesFrom, valueAt_symbol ha,
    valueAt_symbol hb, bind, Except.bind, pure, Except.pure, lastBytes, hlast]

/-- A last group with three symbols is two bytes. -/
private theorem decodeLast_three (offset : Nat) {a b c : Nat} (ha : a < 64) (hb : b < 64)
    (hc : c < 64) (hlast : c % 4 = 0) :
    decodeLast offset [symbol a, symbol b, symbol c, pad] =
      .ok [UInt8.ofNat (a * 4 + b / 16), UInt8.ofNat (b % 16 * 16 + c / 4)] := by
  simp [decodeLast, symbol_ne_pad ha, symbol_ne_pad hb, symbol_ne_pad hc, valuesFrom,
    valueAt_symbol ha, valueAt_symbol hb, valueAt_symbol hc, bind, Except.bind, pure, Except.pure,
    lastBytes, hlast]

/-- A group of four symbols is three bytes, whatever follows it. -/
private theorem decodeFrom_four (offset : Nat) {a b c d : Nat} (ha : a < 64) (hb : b < 64)
    (hc : c < 64) (hd : d < 64) {rest : List UInt8} {bytes : List UInt8}
    (hrest : decodeFrom (offset + 4) rest = .ok bytes) :
    decodeFrom offset (symbol a :: symbol b :: symbol c :: symbol d :: rest) =
      .ok (UInt8.ofNat (a * 4 + b / 16) :: UInt8.ofNat (b % 16 * 16 + c / 4) ::
        UInt8.ofNat (c % 4 * 64 + d) :: bytes) := by
  cases rest with
  | nil =>
    obtain rfl : [] = bytes := Except.ok.inj hrest
    simp [decodeFrom, decodeLast, symbol_ne_pad ha, symbol_ne_pad hb, symbol_ne_pad hc,
      symbol_ne_pad hd, valuesFrom, valueAt_symbol ha, valueAt_symbol hb, valueAt_symbol hc,
      valueAt_symbol hd, bind, Except.bind, pure, Except.pure, lastBytes]
  | cons e rest =>
    simp [decodeFrom, valueAt_symbol ha, valueAt_symbol hb, valueAt_symbol hc, valueAt_symbol hd,
      hrest, bind, Except.bind, pure, Except.pure]

/-- What is encoded is decoded to the same bytes. -/
theorem decodeFrom_encode (bytes : List UInt8) (offset : Nat) :
    decodeFrom offset (encode bytes) = .ok bytes := by
  fun_induction encode bytes generalizing offset with
  | case1 => rfl
  | case2 x =>
    have hx := x.toNat_lt
    have hfirst := ofNat_first x (y := 0) (by decide)
    refine (decodeLast_two offset (by omega) (by omega) (by omega)).trans ?_
    rw [← Nat.add_zero (x.toNat % 4 * 16), hfirst]
  | case3 x y =>
    have hx := x.toNat_lt
    have hy := y.toNat_lt
    have hsecond := ofNat_second (x.toNat % 4) y (z := 0) (by decide)
    refine (decodeLast_three offset (by omega) (by omega) (by omega) (by omega)).trans ?_
    rw [← Nat.add_zero (y.toNat % 16 * 4), ofNat_first x (by omega), hsecond]
  | case4 x y z rest ih =>
    have hx := x.toNat_lt
    have hy := y.toNat_lt
    have hz := z.toNat_lt
    rw [decodeFrom_four offset (by omega) (by omega) (by omega) (by omega) (ih _),
      ofNat_first x (by omega), ofNat_second _ y (by omega), ofNat_third]

/-- Symbols come in groups of four. -/
theorem length_encode_mod (bytes : List UInt8) : (encode bytes).length % 4 = 0 := by
  fun_induction encode bytes with
  | case1 => rfl
  | case2 | case3 => simp
  | case4 x y z rest ih =>
    simp only [List.length_cons]
    omega

/-- The symbols of some bytes are read as these bytes. -/
theorem decode_encode (bytes : List UInt8) : decode (encode bytes) = .ok bytes := by
  have hlength := length_encode_mod bytes
  have hrest := decodeFrom_encode bytes 0
  unfold decode
  split
  · rw [if_neg fun h => by omega, hrest]
  · next hlast =>
    rw [List.getLast?_eq_none_iff] at hlast
    rwa [hlast] at hrest

/-- The symbols are characters of ASCII. -/
theorem symbol_lt {n : Nat} (h : n < 64) : (symbol n).toNat < 128 := by
  have symbols : ∀ k < 64, (symbol k).toNat < 128 := by decide
  exact symbols n h

/-- Symbols and padding are ASCII. -/
theorem toNat_lt_of_mem_encode {bytes : List UInt8} {s : UInt8} (h : s ∈ encode bytes) :
    s.toNat < 128 := by
  fun_induction encode bytes with
  | case1 => exact absurd h List.not_mem_nil
  | case2 x =>
    have hx := x.toNat_lt
    simp only [List.mem_cons, List.not_mem_nil, or_false] at h
    rcases h with rfl | rfl | rfl | rfl
    · exact symbol_lt (by omega)
    · exact symbol_lt (by omega)
    · decide
    · decide
  | case3 x y =>
    have hx := x.toNat_lt
    have hy := y.toNat_lt
    simp only [List.mem_cons, List.not_mem_nil, or_false] at h
    rcases h with rfl | rfl | rfl | rfl
    · exact symbol_lt (by omega)
    · exact symbol_lt (by omega)
    · exact symbol_lt (by omega)
    · decide
  | case4 x y z rest ih =>
    have hx := x.toNat_lt
    have hy := y.toNat_lt
    have hz := z.toNat_lt
    simp only [List.mem_cons] at h
    rcases h with rfl | rfl | rfl | rfl | h
    · exact symbol_lt (by omega)
    · exact symbol_lt (by omega)
    · exact symbol_lt (by omega)
    · exact symbol_lt (by omega)
    · exact ih h

/-- Bytes that may be read: symbols and the padding. -/
def isAllowed (byte : UInt8) : Bool :=
  (value? byte).isSome || byte == pad

section Allowed

variable {bytes data : List UInt8} {offset : Nat}

/-- A symbol with a value is allowed. -/
theorem isAllowed_of_valueAt {byte : UInt8} {n : Nat} (h : valueAt offset byte = .ok n) :
    isAllowed byte = true := by
  unfold valueAt at h
  split at h
  · next hvalue => rw [isAllowed, hvalue, Option.isSome_some, Bool.true_or]
  · cases h

/-- So are symbols that all have one. -/
theorem isAllowed_of_valuesFrom {values : List Nat} (h : valuesFrom offset bytes = .ok values) :
    ∀ byte ∈ bytes, isAllowed byte = true := by
  induction bytes generalizing offset values with
  | nil => exact List.forall_mem_nil _
  | cons byte bytes ih =>
    obtain ⟨first, hfirst, h⟩ := exists_of_bind_eq_ok h
    obtain ⟨rest, hrest, -⟩ := exists_of_bind_eq_ok h
    exact List.forall_mem_cons.2 ⟨isAllowed_of_valueAt hfirst, ih hrest⟩

/-- The last group has symbols and then padding. -/
theorem isAllowed_of_decodeLast (h : decodeLast offset bytes = .ok data) :
    ∀ byte ∈ bytes, isAllowed byte = true := by
  obtain ⟨values, hvalues, h⟩ := exists_of_bind_eq_ok h
  have hpadding : ∀ byte ∈ bytes.dropWhile (· != pad), byte = pad := by
    intro byte hbyte
    simp only [bind, Except.bind] at h
    split at h
    · cases h
    · next hpad =>
      have hnone : ¬(byte != pad) = true := fun hne =>
        hpad ⟨List.ne_nil_of_mem hbyte, .inr (List.any_eq_true.2 ⟨byte, hbyte, hne⟩)⟩
      simpa using hnone
  rw [← List.takeWhile_append_dropWhile (p := (· != pad)) (l := bytes), List.forall_mem_append]
  refine ⟨isAllowed_of_valuesFrom hvalues, fun byte hbyte => ?_⟩
  rw [hpadding byte hbyte]
  rfl

/-- What is decoded consists of allowed bytes. -/
theorem isAllowed_of_decodeFrom (h : decodeFrom offset bytes = .ok data) :
    ∀ byte ∈ bytes, isAllowed byte = true := by
  fun_induction decodeFrom offset bytes generalizing data with
  | case1 => exact List.forall_mem_nil _
  | case2 offset a b c d e rest ih =>
    obtain ⟨_, ha, h⟩ := exists_of_bind_eq_ok h
    obtain ⟨_, hb, h⟩ := exists_of_bind_eq_ok h
    obtain ⟨_, hc, h⟩ := exists_of_bind_eq_ok h
    obtain ⟨_, hd, h⟩ := exists_of_bind_eq_ok h
    obtain ⟨_, hrest, -⟩ := exists_of_bind_eq_ok h
    simp only [List.forall_mem_cons (a := a), List.forall_mem_cons (a := b),
      List.forall_mem_cons (a := c), List.forall_mem_cons (a := d)]
    exact ⟨isAllowed_of_valueAt ha, isAllowed_of_valueAt hb, isAllowed_of_valueAt hc,
      isAllowed_of_valueAt hd, ih hrest⟩
  | case3 offset group => exact isAllowed_of_decodeLast h

/-- Bytes that are read are symbols and padding. -/
theorem isAllowed_of_decode (h : decode bytes = .ok data) :
    ∀ byte ∈ bytes, isAllowed byte = true := by
  unfold decode at h
  split at h
  · split at h
    · cases h
    · exact isAllowed_of_decodeFrom h
  · next hlast =>
    rw [List.getLast?_eq_none_iff.1 hlast]
    exact List.forall_mem_nil _

/-- A text that is read has no character with a byte that is neither a symbol nor padding. -/
theorem not_mem_of_ofText {text : String} (h : ofText text = .ok data) {c : Char}
    (hc : (String.utf8EncodeChar c).all isAllowed = false) : c ∉ text.toList := by
  intro hmem
  have hall : (String.utf8EncodeChar c).all isAllowed = true :=
    List.all_eq_true.2 fun byte hbyte =>
      isAllowed_of_decode h byte (List.mem_flatMap.2 ⟨c, hmem, hbyte⟩)
  exact Bool.false_ne_true (hc.symm.trans hall)

end Allowed

end Base64

namespace Utf8

/-- An ASCII character is one byte. -/
theorem encode_ascii {bytes : List UInt8} (h : ∀ b ∈ bytes, b.toNat < 128) :
    encode (bytes.map fun b => Char.ofNat b.toNat) = bytes := by
  have hchar : ∀ n < 128, String.utf8EncodeChar (Char.ofNat n) = [UInt8.ofNat n] := by decide
  induction bytes with
  | nil => rfl
  | cons b bytes ih =>
    obtain ⟨hb, hrest⟩ := List.forall_mem_cons.1 h
    rw [List.map_cons, encode, List.flatMap_cons, hchar _ hb, UInt8.ofNat_toNat]
    exact congrArg (b :: ·) (ih hrest)

end Utf8

/-- The text of some bytes is read as these bytes. -/
theorem Base64.ofText_toText (bytes : List UInt8) : ofText (toText bytes) = .ok bytes := by
  rw [ofText, toText, String.toList_ofList,
    Utf8.encode_ascii fun b hb => toNat_lt_of_mem_encode hb, decode_encode]

end Sitework
