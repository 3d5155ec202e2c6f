import Sitework.Text.Blank
import Sitework.Text.Split

/-!
# Letters and digits

The kinds of ASCII characters by their code points. A letter or digit stays one in lower case.
-/

namespace Sitework.Text

variable {c : Char}

/-- A property of the characters of a text is checked one by one. Deciding it for all characters
would come to every one that there is. -/
theorem forall_mem_of_all {P : Char → Prop} [DecidablePred P] {cs : List Char}
    (h : cs.all (P ·) = true) : ∀ c ∈ cs, P c := by
  simpa using h

/-- The code points of capitals. -/
theorem isUpper_iff : c.isUpper = true ↔ 65 ≤ c.toNat ∧ c.toNat ≤ 90 := by
  have hiff : c.isUpper = true ↔ 65 ≤ c.val ∧ c.val ≤ 90 := decide_eq_true_iff
  rw [hiff, UInt32.le_iff_toNat_le, UInt32.le_iff_toNat_le]
  rfl

/-- The code points of small letters. -/
theorem isLower_iff : c.isLower = true ↔ 97 ≤ c.toNat ∧ c.toNat ≤ 122 := by
  have hiff : c.isLower = true ↔ _ := Bool.and_eq_true_iff
  rw [hiff, decide_eq_true_eq, decide_eq_true_eq, ge_iff_le, UInt32.le_iff_toNat_le,
    UInt32.le_iff_toNat_le]
  rfl

/-- The code points of digits. -/
theorem isDigit_iff : c.isDigit = true ↔ 48 ≤ c.toNat ∧ c.toNat ≤ 57 := by
  have hiff : c.isDigit = true ↔ _ := Bool.and_eq_true_iff
  rw [hiff, decide_eq_true_eq, decide_eq_true_eq, ge_iff_le, UInt32.le_iff_toNat_le,
    UInt32.le_iff_toNat_le]
  rfl

theorem isAlpha_iff : c.isAlpha = true ↔ c.isUpper = true ∨ c.isLower = true :=
  Bool.or_eq_true_iff

theorem isAlphanum_iff : c.isAlphanum = true ↔ c.isAlpha = true ∨ c.isDigit = true :=
  Bool.or_eq_true_iff

/-- No digit is a letter. -/
theorem isAlpha_eq_false_of_isDigit (h : c.isDigit = true) : c.isAlpha = false := by
  rw [isDigit_iff] at h
  rw [Bool.eq_false_iff, ne_eq, isAlpha_iff, isUpper_iff, isLower_iff]
  omega

/-- A capital letter has its lower case 32 places after it, and any other character is its own. -/
theorem toNat_toLower (c : Char) :
    c.toLower.toNat = if c.isUpper = true then c.toNat + 32 else c.toNat := by
  have hiff : c.isUpper = true ↔ 65 ≤ c.val ∧ c.val ≤ 90 := decide_eq_true_iff
  unfold Char.toLower
  split
  · next hupper =>
    have hbounds := isUpper_iff.1 (hiff.2 hupper)
    rw [if_pos (hiff.2 hupper)]
    change (c.toNat + 32) % 2 ^ 32 = c.toNat + 32
    omega
  · next hupper => rw [if_neg (mt hiff.1 hupper)]

/-- A letter or digit in lower case comes from a letter or digit. -/
@[simp] theorem isAlphanum_toLower (c : Char) : c.toLower.isAlphanum = c.isAlphanum := by
  rw [Bool.eq_iff_iff]
  simp only [isAlphanum_iff, isAlpha_iff, isUpper_iff, isLower_iff, isDigit_iff, toNat_toLower]
  split <;> omega

/-- Letters and digits are no blanks. -/
theorem isBlank_of_isAlphanum (h : c.isAlphanum = true) : isBlank c = false := by
  rw [isAlphanum_iff, isAlpha_iff, isUpper_iff, isLower_iff, isDigit_iff] at h
  simp only [isBlank, Bool.or_eq_false_iff, Bool.and_eq_false_iff, decide_eq_false_iff_not,
    beq_eq_false_iff_ne]
  omega

/-- A text that is a word in lower case consists of letters and digits. -/
theorem isAlphanum_of_lower_eq {cs : List Char} {word : String}
    (h : String.ofList (lower cs) = word) (hword : word.toList.all Char.isAlphanum = true) :
    ∀ c ∈ cs, c.isAlphanum = true := by
  intro c hc
  rw [← isAlphanum_toLower]
  refine List.all_eq_true.1 hword _ ?_
  rw [← h, String.toList_ofList, lower]
  exact List.mem_map.2 ⟨c, hc, rfl⟩

end Sitework.Text
