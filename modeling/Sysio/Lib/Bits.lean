import Mathlib.Data.List.Basic
import Mathlib.Data.List.Range

/-!
# One bit of a word

The bits of a word taken one at a time with a mask that is shifted, and the places of the bits
that are set, in ascending order.
-/

namespace Sysio

variable {w : ℕ}

theorem and_bit_ne_zero_iff {word : BitVec w} {p : ℕ} :
    word &&& 1#w <<< p ≠ 0 ↔ word.getLsbD p = true := by
  rw [← BitVec.twoPow_eq, BitVec.and_twoPow]
  by_cases set : word.getLsbD p = true
  · have inside : p < w := BitVec.lt_of_getLsbD set
    have different : BitVec.twoPow w p ≠ 0 := by
      intro same
      have bit := congrArg (fun word => word.getLsbD p) same
      simp [inside] at bit
    rw [if_pos set]
    exact ⟨fun _ => set, fun _ => different⟩
  · simp [set]

theorem decide_and_bit {word : BitVec w} {p : ℕ} :
    decide (word &&& 1#w <<< p ≠ 0) = word.getLsbD p := by
  rw [Bool.eq_iff_iff, decide_eq_true_iff]
  exact and_bit_ne_zero_iff

theorem getLsbD_clear {word : BitVec w} {p i : ℕ} :
    (word &&& ~~~(1#w <<< p)).getLsbD i = (word.getLsbD i && decide (i ≠ p)) := by
  rw [← BitVec.twoPow_eq, BitVec.getLsbD_and, BitVec.getLsbD_not, BitVec.getLsbD_twoPow]
  by_cases set : word.getLsbD i = true
  · have inside : i < w := BitVec.lt_of_getLsbD set
    by_cases same : i = p
    · subst same
      simp [inside]
    · simp [inside, same, Ne.symm same]
  · simp [set]

theorem getLsbD_set {word : BitVec w} {p i : ℕ} (inside : i < w) :
    (word ||| 1#w <<< p).getLsbD i = (word.getLsbD i || decide (i = p)) := by
  rw [← BitVec.twoPow_eq, BitVec.getLsbD_or, BitVec.getLsbD_twoPow]
  by_cases same : i = p
  · subst same
    simp [inside]
  · simp [same, Ne.symm same]

theorem getLsbD_flip {word : BitVec w} {p i : ℕ} (inside : i < w) :
    (word ^^^ 1#w <<< p).getLsbD i = (word.getLsbD i ^^ decide (i = p)) := by
  rw [← BitVec.twoPow_eq, BitVec.getLsbD_xor, BitVec.getLsbD_twoPow]
  by_cases same : i = p
  · subst same
    simp [inside]
  · simp [same, Ne.symm same]

/-- A bit is set or cleared. -/
def putBit (word : BitVec w) (p : ℕ) (value : Bool) : BitVec w :=
  if value then word ||| 1#w <<< p else word &&& ~~~(1#w <<< p)

theorem getLsbD_putBit {word : BitVec w} {p i : ℕ} {value : Bool} (inside : i < w) :
    (putBit word p value).getLsbD i = if i = p then value else word.getLsbD i := by
  cases value with
  | true =>
      rw [putBit, if_pos rfl, getLsbD_set inside]
      by_cases same : i = p <;> simp [same]
  | false =>
      rw [putBit, if_neg Bool.false_ne_true, getLsbD_clear]
      by_cases same : i = p <;> simp [same]

/-- The word with these bits. -/
def ofBits (w : ℕ) (bit : ℕ → Bool) : BitVec w := (BitVec.iunfoldr (fun i _ => ((), bit i)) ()).2

theorem getLsbD_ofBits {bit : ℕ → Bool} {i : ℕ} (inside : i < w) :
    (ofBits w bit).getLsbD i = bit i :=
  BitVec.iunfoldr_getLsbD (fun _ => ()) ⟨i, inside⟩ fun _ => rfl

theorem shiftLeft_bit {p : ℕ} : 1#w <<< p <<< 1 = 1#w <<< (p + 1) :=
  (BitVec.shiftLeft_add ..).symm

theorem and_not_of_and_eq_zero {a b : BitVec w} (disjoint : a &&& b = 0) : a &&& ~~~b = a := by
  apply BitVec.eq_of_getLsbD_eq
  intro i inside
  have clear := congrArg (fun word => word.getLsbD i) disjoint
  simp only [BitVec.getLsbD_and, BitVec.ofNat_eq_ofNat, BitVec.getLsbD_zero] at clear
  rw [BitVec.getLsbD_and, BitVec.getLsbD_not]
  cases set : a.getLsbD i <;> simp_all

theorem and_not_of_and_eq_self {a b : BitVec w} (inside : a &&& b = a) : a &&& ~~~b = 0 := by
  rw [← inside, BitVec.and_assoc, BitVec.and_not_self]
  exact BitVec.and_zero

/-- The bits of a mask are replaced by those of a code. -/
def replaceBits (word mask code : BitVec w) : BitVec w := word &&& ~~~mask ||| code

theorem replaceBits_and_mask {word mask code : BitVec w} (inside : code &&& mask = code) :
    replaceBits word mask code &&& mask = code := by
  apply BitVec.eq_of_getLsbD_eq
  intro i _
  have within := congrArg (fun word => word.getLsbD i) inside
  simp only [BitVec.getLsbD_and] at within
  rw [replaceBits, BitVec.getLsbD_and, BitVec.getLsbD_or, BitVec.getLsbD_and, BitVec.getLsbD_not]
  cases set : code.getLsbD i <;> simp_all

/-- The bits of another mask stay as they are. -/
theorem replaceBits_and_of_disjoint {word mask code other : BitVec w}
    (inside : code &&& mask = code) (disjoint : mask &&& other = 0) :
    replaceBits word mask code &&& other = word &&& other := by
  apply BitVec.eq_of_getLsbD_eq
  intro i small
  have within := congrArg (fun word => word.getLsbD i) inside
  have clear := congrArg (fun word => word.getLsbD i) disjoint
  simp only [BitVec.getLsbD_and, BitVec.ofNat_eq_ofNat, BitVec.getLsbD_zero] at within clear
  rw [replaceBits, BitVec.getLsbD_and, BitVec.getLsbD_or, BitVec.getLsbD_and, BitVec.getLsbD_not,
    BitVec.getLsbD_and]
  cases set : other.getLsbD i <;> simp_all

/-- Bits that are set need not be cleared before. -/
theorem replaceBits_eq_or {word mask code : BitVec w} :
    replaceBits word mask code = replaceBits word (mask ||| code) code := by
  apply BitVec.eq_of_getLsbD_eq
  intro i small
  rw [replaceBits, replaceBits, BitVec.getLsbD_or, BitVec.getLsbD_or, BitVec.getLsbD_and,
    BitVec.getLsbD_and, BitVec.getLsbD_not, BitVec.getLsbD_not, BitVec.getLsbD_or]
  cases code.getLsbD i with
  | true => rw [Bool.or_true, Bool.or_true]
  | false => rw [Bool.or_false, Bool.or_false, Bool.or_false]

theorem and_not_eq_replaceBits (word mask : BitVec w) :
    word &&& ~~~mask = replaceBits word mask 0 :=
  BitVec.or_zero.symm

theorem or_eq_replaceBits (word code : BitVec w) : word ||| code = replaceBits word code code := by
  have nothing : word ||| code = replaceBits word 0#w code := by
    rw [replaceBits, BitVec.not_zero, BitVec.and_allOnes]
  rw [nothing, replaceBits_eq_or, BitVec.zero_or]

/-- The places from `p` to `size` whose bit is set. -/
def bitsFrom (word : BitVec w) (p size : ℕ) : List ℕ :=
  (List.range' p (size - p)).filter fun i => word.getLsbD i

theorem bitsFrom_unset {word : BitVec w} {p size : ℕ} (unset : word.getLsbD p = false) :
    bitsFrom word p size = bitsFrom word (p + 1) size := by
  by_cases inside : p < size
  · have split : size - p = (size - (p + 1)) + 1 := by omega
    rw [bitsFrom, bitsFrom, split, List.range'_succ, List.filter_cons, unset, if_neg (by decide)]
  · rw [bitsFrom, bitsFrom, Nat.sub_eq_zero_of_le (by omega), Nat.sub_eq_zero_of_le (by omega)]
    rfl

theorem bitsFrom_set {word : BitVec w} {p size : ℕ} (inside : p < size)
    (set : word.getLsbD p = true) :
    bitsFrom word p size = p :: bitsFrom (word &&& ~~~(1#w <<< p)) (p + 1) size := by
  have split : size - p = (size - (p + 1)) + 1 := by omega
  rw [bitsFrom, bitsFrom, split, List.range'_succ, List.filter_cons, if_pos set]
  congr 1
  apply List.filter_congr
  intro i member
  have after : i ≠ p := by
    rw [List.mem_range'_1] at member
    omega
  rw [getLsbD_clear]
  simp [after]

theorem eq_zero_of_bits {word : BitVec w} (unset : ∀ i, word.getLsbD i = false) : word = 0 :=
  BitVec.eq_of_getLsbD_eq fun i _ => by rw [unset i]; exact BitVec.getLsbD_zero.symm

end Sysio
