import Mathlib.Data.List.Basic

/-!
# Fields of a word

A word as a row of fields of the same width: a field is read, and written by clearing its bits
and setting those of the value. A field that is written reads back, and the others stay.
-/

namespace Sysio

variable {w n : ℕ}

/-- The field `i` of a word whose fields have `n` bits. -/
def getField (word : BitVec w) (n i : ℕ) : BitVec n := word.extractLsb' (n * i) n

/-- The word with this field cleared. -/
def clearField (word : BitVec w) (n i : ℕ) : BitVec w :=
  word &&& ~~~((BitVec.allOnes n).setWidth w <<< (n * i))

/-- The word with another value of a field. -/
def setField (word : BitVec w) (n i : ℕ) (value : BitVec n) : BitVec w :=
  clearField word n i ||| value.setWidth w <<< (n * i)

theorem getLsbD_getField {word : BitVec w} {i b : ℕ} :
    (getField word n i).getLsbD b = (decide (b < n) && word.getLsbD (n * i + b)) :=
  BitVec.getLsbD_extractLsb' ..

theorem getLsbD_clearField {word : BitVec w} {i b : ℕ} :
    (clearField word n i).getLsbD b =
      (word.getLsbD b && !(decide (n * i ≤ b) && decide (b < n * i + n))) := by
  rw [clearField, BitVec.getLsbD_and, BitVec.getLsbD_not, BitVec.getLsbD_shiftLeft,
    BitVec.getLsbD_setWidth, BitVec.getLsbD_allOnes]
  by_cases inside : b < w
  · by_cases before : b < n * i
    · simp [inside, before]
    · have offset : b - n * i < w := by omega
      have same : b - n * i < n ↔ b < n * i + n := by omega
      simp [inside, offset, same, before, Nat.not_lt.mp before]
  · simp [BitVec.getLsbD_of_ge _ _ (Nat.not_lt.mp inside)]

theorem getLsbD_setField {word : BitVec w} {value : BitVec n} {i b : ℕ} :
    (setField word n i value).getLsbD b =
      if n * i ≤ b ∧ b < n * i + n then decide (b < w) && value.getLsbD (b - n * i)
      else word.getLsbD b := by
  rw [setField, BitVec.getLsbD_or, getLsbD_clearField, BitVec.getLsbD_shiftLeft,
    BitVec.getLsbD_setWidth]
  by_cases inside : n * i ≤ b ∧ b < n * i + n
  · by_cases fits : b < w
    · have offset : b - n * i < w := by omega
      simp [inside, fits, offset]
    · simp [inside, fits]
  · rw [if_neg inside]
    by_cases before : b < n * i
    · simp [before]
    · have beyond : n ≤ b - n * i := by omega
      have outside : ¬b < n * i + n := by omega
      simp [BitVec.getLsbD_of_ge _ _ beyond, outside]

/-- A field that has been written. -/
theorem getField_setField {word : BitVec w} {value : BitVec n} {i : ℕ} (fits : n * i + n ≤ w) :
    getField (setField word n i value) n i = value := by
  apply BitVec.eq_of_getLsbD_eq
  intro b inside
  have within : n * i ≤ n * i + b ∧ n * i + b < n * i + n := by omega
  have small : n * i + b < w := by omega
  rw [getLsbD_getField, getLsbD_setField, if_pos within, Nat.add_sub_cancel_left]
  simp [inside, small]

/-- A field as it is read: shifted down, and the bits above it cleared. -/
theorem shiftRight_and_eq_getField {word : BitVec w} {i : ℕ} :
    word >>> (n * i) &&& (BitVec.allOnes n).setWidth w = (getField word n i).setWidth w := by
  apply BitVec.eq_of_getLsbD_eq
  intro b inside
  rw [BitVec.getLsbD_and, BitVec.getLsbD_ushiftRight, BitVec.getLsbD_setWidth,
    BitVec.getLsbD_setWidth, getLsbD_getField, BitVec.getLsbD_allOnes]
  simp [inside, Bool.and_comm]

/-- The fields lie beside one another. -/
theorem field_disjoint {i j b : ℕ} (other : i ≠ j) (inside : b < n) :
    ¬(n * i ≤ n * j + b ∧ n * j + b < n * i + n) := by
  rintro ⟨above, below⟩
  have quotient : ∀ k, (n * k + b) / n = k := by
    intro k
    rw [Nat.mul_add_div (by omega), Nat.div_eq_of_lt inside, Nat.add_zero]
  have low : i ≤ (n * j + b) / n := by
    rw [Nat.le_div_iff_mul_le (by omega), Nat.mul_comm]
    exact above
  have high : (n * j + b) / n < i + 1 := by
    rw [Nat.div_lt_iff_lt_mul (by omega), Nat.mul_comm (i + 1), Nat.mul_add, Nat.mul_one]
    exact below
  rw [quotient j] at low high
  omega

/-- The other fields. -/
theorem getField_setField_of_ne {word : BitVec w} {value : BitVec n} {i j : ℕ} (other : i ≠ j) :
    getField (setField word n i value) n j = getField word n j := by
  apply BitVec.eq_of_getLsbD_eq
  intro b inside
  rw [getLsbD_getField, getLsbD_getField, getLsbD_setField, if_neg (field_disjoint other inside)]

end Sysio
