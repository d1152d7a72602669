-- The laws of numerals. Printing a number and reading it back gives the
-- number, and a number below ten to the limit is short enough to be read.
import Mathlib.Algebra.Group.Nat.Defs
import ThreeBlock.Abort
namespace ThreeBlock.Text

theorem isDigit_eq (c : Char) : isDigit c = c.isDigit := by
  simp only [isDigit, Char.isDigit, Char.le_def]

theorem numeralValue_eq (cs : List Char) : numeralValue cs = Nat.ofDigitChars 10 cs 0 := by
  rw [Nat.ofDigitChars_eq_foldl]
  rfl

theorem numeral_ne_nil (n : Nat) : numeral n ≠ [] := Nat.toDigits_ne_nil

theorem isDigit_of_mem_numeral {n : Nat} {c : Char} (h : c ∈ numeral n) : isDigit c = true := by
  rw [isDigit_eq]
  exact Nat.isDigit_of_mem_toDigits (by decide) (by decide) h

/-- Reading what was printed gives the number back. -/
theorem numeralValue_numeral (n : Nat) : numeralValue (numeral n) = n := by
  rw [numeralValue_eq]
  exact Nat.ofDigitChars_ten_toDigits

theorem numeral_length_le {n : Nat} (h : n < 10 ^ numeralLimit) :
    (numeral n).length ≤ numeralLimit :=
  (Nat.length_toDigits_le_iff (by decide) (by decide)).2 h

theorem lt_pow_numeralLimit {n : Nat} (h : n < 10) : n < 10 ^ numeralLimit :=
  Nat.lt_of_lt_of_le (show n < 10 ^ 1 by omega) (Nat.pow_le_pow_right (by decide) (by decide))

theorem toList_natText (n : Nat) : (natText n).toList = numeral n := by
  simp [natText]

end ThreeBlock.Text

namespace ThreeBlock

theorem readNumeral_of_gt {cs : List Char} (h : Text.numeralLimit < cs.length) :
    readNumeral cs = .error (.numeralTooLong cs.length) := if_neg (Nat.not_le.2 h)

/-- A number below ten to the limit is read back from its numeral. -/
theorem readNumeral_numeral {n : Nat} (h : n < 10 ^ Text.numeralLimit) :
    readNumeral (Text.numeral n) = .ok n := by
  rw [readNumeral_of_le (Text.numeral_length_le h), Text.numeralValue_numeral]

end ThreeBlock
