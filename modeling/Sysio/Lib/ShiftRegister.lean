import Mathlib.Algebra.Group.Nat.Even

/-!
# Shift registers

A register of `w` bits that is shifted right, with `taps` added when a one falls out. It absorbs
a stream of bits, each added to the lowest bit before a shift: the division of a cyclic
redundancy check, lowest bit first.

What a register does is linear (`absorb_xor`), and with the highest tap set it is injective
(`shift_eq_zero_iff`). Two streams that differ inside `w` consecutive bits only lead to different
registers (`absorb_ne_of_burst`).
-/

namespace ShiftRegister

variable {w : ℕ} (taps : BitVec w)

/-- The bit that goes out says whether the taps are added. -/
def shift (register : BitVec w) : BitVec w :=
  if register.getLsbD 0 then (register >>> 1) ^^^ taps else register >>> 1

/-- The register after a bit. -/
def absorbBit (register : BitVec w) (bit : Bool) : BitVec w :=
  shift taps (register ^^^ (BitVec.ofBool bit).setWidth w)

/-- The register after some bits. -/
def absorb (register : BitVec w) (bits : List Bool) : BitVec w :=
  bits.foldl (absorbBit taps) register

@[simp]
theorem absorb_nil (register : BitVec w) : absorb taps register [] = register := rfl

@[simp]
theorem absorb_cons (register : BitVec w) (bit : Bool) (bits : List Bool) :
    absorb taps register (bit :: bits) = absorb taps (absorbBit taps register bit) bits := rfl

theorem absorb_append (register : BitVec w) (before after : List Bool) :
    absorb taps register (before ++ after) = absorb taps (absorb taps register before) after := by
  simp [absorb]

/-! ### Linearity -/

theorem xor_xor_xor_comm (a b c d : BitVec w) :
    (a ^^^ b) ^^^ (c ^^^ d) = (a ^^^ c) ^^^ (b ^^^ d) := by
  ac_rfl

theorem shift_xor (x y : BitVec w) : shift taps (x ^^^ y) = shift taps x ^^^ shift taps y := by
  simp only [shift, BitVec.getLsbD_xor, BitVec.ushiftRight_xor_distrib]
  cases x.getLsbD 0 <;> cases y.getLsbD 0
  · simp
  · simp [BitVec.xor_assoc]
  · simp only [Bool.xor_false, if_true, Bool.false_eq_true, if_false]
    ac_rfl
  · simp only [Bool.xor_self, if_true, Bool.false_eq_true, if_false]
    rw [xor_xor_xor_comm, BitVec.xor_self, BitVec.xor_zero]

theorem absorbBit_xor (x y : BitVec w) (a b : Bool) :
    absorbBit taps (x ^^^ y) (xor a b) = absorbBit taps x a ^^^ absorbBit taps y b := by
  have bits : (BitVec.ofBool (xor a b)).setWidth w =
      (BitVec.ofBool a).setWidth w ^^^ (BitVec.ofBool b).setWidth w := by
    cases a <;> cases b <;> simp
  rw [absorbBit, bits, xor_xor_xor_comm, shift_xor]
  rfl

theorem absorb_xor (x y : BitVec w) {first second : List Bool}
    (length : first.length = second.length) :
    absorb taps (x ^^^ y) (first.zipWith xor second) =
      absorb taps x first ^^^ absorb taps y second := by
  induction first generalizing x y second with
  | nil =>
      cases second with
      | nil => rfl
      | cons b second => simp at length
  | cons a first ih =>
      cases second with
      | nil => simp at length
      | cons b second =>
          rw [List.zipWith_cons_cons, absorb_cons, absorb_cons, absorb_cons, absorbBit_xor]
          exact ih _ _ (Nat.succ.inj length)

/-! ### Injectivity -/

section

variable {taps}

/-- The highest bit of the register is the one that fell out. -/
theorem msb_shift (highest : taps.msb = true) (register : BitVec w) :
    (shift taps register).msb = register.getLsbD 0 := by
  have positive : 0 < w := by
    by_contra none
    have empty : w = 0 := by omega
    subst empty
    simp [BitVec.eq_nil taps] at highest
  have vacated : (register >>> 1).msb = false := by
    simp [BitVec.msb_ushiftRight]
  rw [shift]
  cases out : register.getLsbD 0
  · simp
  · simp [BitVec.msb_xor, vacated, highest]

theorem toNat_of_getLsbD_false {register : BitVec w} (even : register.getLsbD 0 = false) :
    register.toNat = 2 * (register >>> 1).toNat := by
  rw [BitVec.getLsbD, Nat.testBit_zero] at even
  rw [BitVec.toNat_ushiftRight, Nat.shiftRight_succ, Nat.shiftRight_zero]
  have := of_decide_eq_false even
  omega

theorem shift_eq_zero_iff (highest : taps.msb = true) (register : BitVec w) :
    shift taps register = 0#w ↔ register = 0#w := by
  constructor
  · intro zero
    have even := msb_shift highest register
    rw [zero, BitVec.msb_zero] at even
    rw [shift, ← even] at zero
    simp only [Bool.false_eq_true, if_false] at zero
    apply BitVec.eq_of_toNat_eq
    rw [toNat_of_getLsbD_false even.symm]
    rw [zero]
    rfl
  · rintro rfl
    simp [shift]

theorem absorb_false_ne_zero (highest : taps.msb = true) {register : BitVec w}
    (nonzero : register ≠ 0#w) {bits : List Bool} (quiet : ∀ bit ∈ bits, bit = false) :
    absorb taps register bits ≠ 0#w := by
  induction bits generalizing register with
  | nil => exact nonzero
  | cons bit bits ih =>
      rw [quiet bit (by simp), absorb_cons]
      apply ih
      · intro zero
        have unchanged : absorbBit taps register false = shift taps register := by
          simp [absorbBit]
        rw [unchanged, shift_eq_zero_iff highest] at zero
        exact nonzero zero
      · intro later later_mem
        exact quiet later (by simp [later_mem])

/-! ### Bursts -/

theorem toNat_ofBool_lt (w : ℕ) (bit : Bool) : ((BitVec.ofBool bit).setWidth w).toNat < 2 := by
  rw [BitVec.toNat_setWidth]
  exact Nat.lt_of_le_of_lt (Nat.mod_le _ _) (BitVec.ofBool bit).isLt

/-- A register that some bits clear had nothing above the first of them. -/
theorem toNat_lt_of_absorb_eq_zero (highest : taps.msb = true) {register : BitVec w}
    {bits : List Bool} (short : bits.length ≤ w) (zero : absorb taps register bits = 0#w) :
    register.toNat < 2 ^ bits.length := by
  induction bits generalizing register with
  | nil =>
      rw [absorb_nil] at zero
      simp [zero]
  | cons bit bits ih =>
      rw [List.length_cons] at short
      have after := ih (by omega) zero
      let fed := register ^^^ (BitVec.ofBool bit).setWidth w
      have even : fed.getLsbD 0 = false := by
        rw [← msb_shift highest fed]
        apply BitVec.msb_eq_false_iff_two_mul_lt.mpr
        have bound : 2 ^ (bits.length + 1) ≤ 2 ^ w := Nat.pow_le_pow_right (by decide) short
        rw [Nat.pow_succ] at bound
        change (shift taps fed).toNat < _ at after
        omega
      have halved : absorbBit taps register bit = fed >>> 1 := by
        change shift taps fed = _
        simp [shift, even]
      rw [halved] at after
      have fed_lt : fed.toNat < 2 ^ (bits.length + 1) := by
        rw [toNat_of_getLsbD_false even, Nat.pow_succ]
        omega
      have bit_lt : ((BitVec.ofBool bit).setWidth w).toNat < 2 ^ (bits.length + 1) := by
        have small := toNat_ofBool_lt w bit
        have two : 2 ≤ 2 ^ (bits.length + 1) := by
          rw [Nat.pow_succ]
          have := Nat.two_pow_pos bits.length
          omega
        omega
      have register_eq : register = fed ^^^ (BitVec.ofBool bit).setWidth w := by
        rw [BitVec.xor_assoc, BitVec.xor_self, BitVec.xor_zero]
      rw [register_eq, BitVec.toNat_xor]
      exact Nat.xor_lt_two_pow fed_lt bit_lt

theorem absorbBit_zero_false : absorbBit taps 0#w false = 0#w := by
  simp [absorbBit, shift]

/-- A burst of at most `w` bits, the first of them a one, does not cancel. -/
theorem absorb_burst_ne_zero (highest : taps.msb = true) {bits : List Bool}
    (short : bits.length < w) : absorb taps 0#w (true :: bits) ≠ 0#w := by
  intro zero
  have positive : 0 < w := by omega
  have one : (BitVec.ofBool true).setWidth w = 1#w := by
    apply BitVec.eq_of_toNat_eq
    simp
  have fed : absorbBit taps 0#w true = taps := by
    have odd : (1#w).getLsbD 0 = true := by
      simpa using positive
    rw [absorbBit, BitVec.zero_xor, one, shift, if_pos odd]
    have none : (1#w) >>> 1 = 0#w := by
      apply BitVec.eq_of_toNat_eq
      have one_lt : 1 < 2 ^ w := Nat.one_lt_two_pow (by omega)
      simp [BitVec.toNat_ushiftRight, Nat.mod_eq_of_lt one_lt]
    rw [none, BitVec.zero_xor]
  rw [absorb_cons, fed] at zero
  have small := toNat_lt_of_absorb_eq_zero highest (Nat.le_of_lt short) zero
  have large := BitVec.msb_eq_true_iff_two_mul_ge.mp highest
  have bound : 2 ^ (bits.length + 1) ≤ 2 ^ w := Nat.pow_le_pow_right (by decide) short
  rw [Nat.pow_succ] at bound
  omega

/-- Ones inside a window of `w` bits do not cancel. -/
theorem absorb_window_ne_zero (highest : taps.msb = true) {bits : List Bool} (present : true ∈ bits)
    {start : ℕ} (window : ∀ i : ℕ, bits[i]? = some true → start ≤ i ∧ i < start + w) :
    absorb taps 0#w bits ≠ 0#w := by
  induction bits generalizing start with
  | nil => simp at present
  | cons bit bits ih =>
      cases bit with
      | false =>
          rw [absorb_cons, absorbBit_zero_false]
          apply @ih (by simpa using present) (start - 1)
          intro i one
          have inside := window (i + 1) (by simpa using one)
          omega
      | true =>
          have first := window 0 rfl
          have zero : start = 0 := by omega
          subst zero
          rw [← List.take_append_drop (w - 1) bits, ← List.cons_append, absorb_append]
          apply absorb_false_ne_zero highest
          · apply absorb_burst_ne_zero highest
            rw [List.length_take]
            omega
          · intro bit bit_mem
            rcases List.mem_iff_getElem?.mp bit_mem with ⟨i, at_i⟩
            rw [List.getElem?_drop] at at_i
            cases bit with
            | false => rfl
            | true =>
                have inside := window (w - 1 + i + 1) (by simpa using at_i)
                omega

/-- Streams of one length that differ inside a window of `w` bits only lead to different
registers. -/
theorem absorb_ne_of_burst (highest : taps.msb = true) (register : BitVec w)
    {first second : List Bool} (length : first.length = second.length) (differ : first ≠ second)
    {start : ℕ} (window : ∀ i : ℕ, first[i]? ≠ second[i]? → start ≤ i ∧ i < start + w) :
    absorb taps register first ≠ absorb taps register second := by
  intro same
  have difference := absorb_xor taps register register length
  rw [same, BitVec.xor_self, BitVec.xor_self] at difference
  have one_iff (i : ℕ) : (first.zipWith xor second)[i]? = some true ↔ first[i]? ≠ second[i]? := by
    rw [List.getElem?_zipWith]
    by_cases inside : i < first.length
    · have insideSecond : i < second.length := length ▸ inside
      rw [List.getElem?_eq_getElem inside, List.getElem?_eq_getElem insideSecond]
      simp
    · have outside : first.length ≤ i := by omega
      have outsideSecond : second.length ≤ i := length ▸ outside
      simp [outside, outsideSecond]
  apply absorb_window_ne_zero highest _ _ difference
  · have somewhere : ¬∀ i : ℕ, first[i]? = second[i]? := by
      intro same
      exact differ (List.ext_getElem? same)
    rcases Classical.not_forall.mp somewhere with ⟨i, at_i⟩
    exact List.mem_iff_getElem?.mpr ⟨i, (one_iff i).mpr at_i⟩
  · exact start
  · intro i one
    exact window i ((one_iff i).mp one)

end

end ShiftRegister
