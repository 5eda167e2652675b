import Mathlib.Data.Nat.Notation
import Sysio.Lib.CString

/-!
# Decimal numbers in text

The conversions `%d` of `printf` for numbers that are not negative, with and without a width. A
text is given by its bytes.
-/

namespace CChar

/-- The code of a character. -/
def ofChar (c : Char) : UInt8 := c.toNat.toUInt8

/-- `%d` -/
def printD (n : ℕ) : List UInt8 := (Nat.toDigits 10 n).map ofChar

/-- `%0<width>d` -/
def print0D (width n : ℕ) : List UInt8 :=
  List.replicate (width - (printD n).length) 0x30 ++ printD n

/-- `%<width>d` -/
def printSD (width n : ℕ) : List UInt8 :=
  List.replicate (width - (printD n).length) 0x20 ++ printD n

/-- The number that digits denote. -/
def decimalValue (digits : List UInt8) : ℕ :=
  digits.foldl (fun value digit => 10 * value + (digit.toNat - 0x30)) 0

theorem length_printD_le_iff {n count : ℕ} (positive : 0 < count) :
    (printD n).length ≤ count ↔ n < 10 ^ count := by
  rw [printD, List.length_map]
  exact Nat.length_toDigits_le_iff (by decide) positive

theorem length_printD_pos (n : ℕ) : 0 < (printD n).length := by
  rw [printD, List.length_map]
  exact Nat.length_toDigits_pos

theorem isdigit_ofChar {c : Char} (digit : c.isDigit = true) :
    isdigit (ofChar c) = true ∧ (ofChar c).toNat = c.toNat := by
  have bounds : 48 ≤ c.toNat ∧ c.toNat ≤ 57 := by
    simpa [Char.isDigit, UInt32.le_iff_toNat_le] using digit
  have small : (ofChar c).toNat = c.toNat := by
    rw [ofChar]
    exact UInt8.toNat_ofNat_of_lt' (Nat.lt_of_le_of_lt bounds.2 (by decide))
  refine ⟨?_, small⟩
  simp only [isdigit, Bool.and_eq_true, decide_eq_true_eq, UInt8.le_iff_toNat_le, small]
  exact bounds

theorem isdigit_of_mem_printD {n : ℕ} {c : UInt8} (c_mem : c ∈ printD n) : isdigit c = true := by
  rcases List.mem_map.mp c_mem with ⟨digit, digit_mem, rfl⟩
  exact (isdigit_ofChar (Nat.isDigit_of_mem_toDigits (by decide) (by decide) digit_mem)).1

theorem decimalValue_printD (n : ℕ) : decimalValue (printD n) = n := by
  have same (digits : List Char) (value : ℕ) (allDigits : ∀ c ∈ digits, c.isDigit = true) :
      (digits.map ofChar).foldl (fun value digit => 10 * value + (digit.toNat - 0x30)) value =
        Nat.ofDigitChars 10 digits value := by
    induction digits generalizing value with
    | nil => simp
    | cons c digits ih =>
        rw [List.map_cons, List.foldl_cons, Nat.ofDigitChars_cons,
          (isdigit_ofChar (allDigits c List.mem_cons_self)).2]
        exact ih _ fun digit digit_mem => allDigits digit (List.mem_cons_of_mem _ digit_mem)
  rw [decimalValue, printD, same _ 0 fun c c_mem =>
    Nat.isDigit_of_mem_toDigits (by decide) (by decide) c_mem]
  exact Nat.ofDigitChars_ten_toDigits

/-- A number that has a digit for each place of the width fills it. -/
theorem length_print0D {width n : ℕ} (positive : 0 < width) (fits : n < 10 ^ width) :
    (print0D width n).length = width := by
  have length := (length_printD_le_iff positive).mpr fits
  rw [print0D, List.length_append, List.length_replicate]
  omega

theorem isdigit_of_mem_print0D {width n : ℕ} {c : UInt8} (c_mem : c ∈ print0D width n) :
    isdigit c = true := by
  rcases List.mem_append.mp c_mem with zero | digit
  · rw [List.eq_of_mem_replicate zero]
    rfl
  · exact isdigit_of_mem_printD digit

theorem decimalValue_print0D (width n : ℕ) : decimalValue (print0D width n) = n := by
  have zeros (count : ℕ) : (List.replicate count (0x30 : UInt8)).foldl
      (fun value digit => 10 * value + (digit.toNat - 0x30)) 0 = 0 := by
    induction count with
    | zero => rfl
    | succ count ih =>
        rw [List.replicate_succ, List.foldl_cons]
        exact ih
  rw [decimalValue, print0D, List.foldl_append, zeros]
  exact decimalValue_printD n

end CChar
