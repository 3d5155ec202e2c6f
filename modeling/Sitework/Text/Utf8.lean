/-!
# Characters as bytes

A character is written as one to four bytes. Bytes that are no written form are read with a
replacement character for each longest run that could have begun one.
-/

namespace Sitework.Utf8

/-- The bytes of some characters. -/
def encode (cs : List Char) : List UInt8 :=
  cs.flatMap String.utf8EncodeChar

/-- What stands for bytes that are no character. -/
def replacement : Char := '\uFFFD'

/-- The bits that a first byte gives and the ranges of the bytes that follow it, if the byte can
begin a character. -/
def lead? (byte : UInt8) : Option (Nat × List (Nat × Nat)) :=
  let b := byte.toNat
  let any := (0x80, 0xBF)
  if b < 0x80 then some (b, [])
  else if b < 0xC2 then none
  else if b < 0xE0 then some (b - 0xC0, [any])
  else if b = 0xE0 then some (0, [(0xA0, 0xBF), any])
  else if b = 0xED then some (0xD, [(0x80, 0x9F), any])
  else if b < 0xF0 then some (b - 0xE0, [any, any])
  else if b = 0xF0 then some (0, [(0x90, 0xBF), any, any])
  else if b < 0xF4 then some (b - 0xF0, [any, any, any])
  else if b = 0xF4 then some (4, [(0x80, 0x8F), any, any])
  else none

/-- The character that following bytes complete, and what is left. The first byte out of its
range is left. -/
def complete (bits : Nat) : List (Nat × Nat) → List UInt8 → Char × List UInt8
  | [], bytes => (Char.ofNat bits, bytes)
  | _ :: _, [] => (replacement, [])
  | (low, high) :: ranges, byte :: bytes =>
    if low ≤ byte.toNat ∧ byte.toNat ≤ high then
      complete (64 * bits + byte.toNat % 64) ranges bytes
    else (replacement, byte :: bytes)

/-- Completing a character leaves no more than there was. -/
theorem length_complete_le (bits : Nat) (ranges : List (Nat × Nat)) (bytes : List UInt8) :
    (complete bits ranges bytes).2.length ≤ bytes.length := by
  fun_induction complete bits ranges bytes with
  | case1 => simp
  | case2 => simp
  | case3 bits low high ranges byte bytes h ih => simp only [List.length_cons]; omega
  | case4 => simp

/-- The first character of a byte and those after it, and what is left. -/
def readChar (byte : UInt8) (bytes : List UInt8) : Char × List UInt8 :=
  match lead? byte with
  | some (bits, ranges) => complete bits ranges bytes
  | none => (replacement, bytes)

/-- Reading a character leaves less than there was. -/
theorem length_readChar_le (byte : UInt8) (bytes : List UInt8) :
    (readChar byte bytes).2.length ≤ bytes.length := by
  unfold readChar
  split
  · exact length_complete_le _ _ _
  · exact Nat.le_refl _

/-- The characters of some bytes. -/
def decode : List UInt8 → List Char
  | [] => []
  | byte :: bytes => (readChar byte bytes).1 :: decode (readChar byte bytes).2
termination_by bytes => bytes.length
decreasing_by
  have := length_readChar_le byte bytes
  simp only [List.length_cons]
  omega

/-- The characters of bytes that are their written form. -/
def decode? (bytes : List UInt8) : Option (List Char) :=
  if encode (decode bytes) = bytes then some (decode bytes) else none

end Sitework.Utf8
