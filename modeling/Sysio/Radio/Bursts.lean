import Sysio.Lib.ShiftRegister
import Sysio.Radio.Crc

/-!
# Error bursts

The table of `radio/src/crc.c` holds what a shift register does to each byte
(`usCrcCcittUpdate_eq`), so the CRC of a message is what the register makes of its bits
(`usCrcCcitt_eq`), and no burst of up to 16 bits goes unnoticed.
-/

namespace Sysio.Radio

open ShiftRegister

/-- The polynomial of CRC-CCITT, its highest term first behind the lowest bit. -/
def crcCcittTaps : BitVec 16 := 0x8408#16

/-- The bits of a byte, least significant first. -/
def byteBits (c : UInt8) : List Bool := (List.range 8).map c.toNat.testBit

/-- The bits of a message in the order of transmission. -/
def messageBits (message : List UInt8) : List Bool := message.flatMap byteBits

@[simp]
theorem length_byteBits (c : UInt8) : (byteBits c).length = 8 := by
  simp [byteBits]

@[simp]
theorem messageBits_nil : messageBits [] = [] := rfl

@[simp]
theorem messageBits_cons (c : UInt8) (message : List UInt8) :
    messageBits (c :: message) = byteBits c ++ messageBits message := rfl

theorem length_messageBits (message : List UInt8) :
    (messageBits message).length = 8 * message.length := by
  induction message with
  | nil => rfl
  | cons c message ih =>
      rw [messageBits_cons, List.length_append, length_byteBits, ih, List.length_cons]
      omega

theorem byteBits_injective : Function.Injective byteBits := by
  intro c d same
  apply UInt8.toNat.inj
  apply Nat.eq_of_testBit_eq
  intro i
  by_cases inside : i < 8
  · have at_i := congrArg (·[i]?) same
    simpa [byteBits, inside] using at_i
  · have large : 2 ^ 8 ≤ 2 ^ i := Nat.pow_le_pow_right (by decide) (by omega)
    rw [Nat.testBit_lt_two_pow (c.toNat_lt.trans_le large),
      Nat.testBit_lt_two_pow (d.toNat_lt.trans_le large)]

theorem messageBits_injective : Function.Injective messageBits := by
  intro first second same
  induction first generalizing second with
  | nil =>
      cases second with
      | nil => rfl
      | cons d second => simp [byteBits] at same
  | cons c first ih =>
      cases second with
      | nil => simp [byteBits] at same
      | cons d second =>
          rw [messageBits_cons, messageBits_cons] at same
          rcases List.append_inj same (by simp) with ⟨head, tail⟩
          rw [byteBits_injective head, ih tail]

/-! ### The table -/

/-- A byte in the register is cleared by the same byte on the line. -/
theorem absorb_byteBits_self (c : UInt8) :
    absorb crcCcittTaps c.toUInt16.toBitVec (byteBits c) = 0#16 := by
  revert c
  decide +kernel

theorem absorb_low (c : UInt8) :
    absorb crcCcittTaps c.toUInt16.toBitVec (List.replicate 8 false) =
      (usCrcCcittTab.getD c.toNat 0).toBitVec := by
  revert c
  decide +kernel

theorem absorb_high (c : UInt8) :
    absorb crcCcittTaps (c.toUInt16 <<< 8).toBitVec (List.replicate 8 false) =
      c.toUInt16.toBitVec := by
  revert c
  decide +kernel

theorem xor_high_low (crc : UInt16) :
    (crc >>> 8).toUInt8.toUInt16 <<< 8 ^^^ crc.toUInt8.toUInt16 = crc := by
  apply UInt16.eq_of_toBitVec_eq
  apply BitVec.eq_of_getLsbD_eq
  intro i i_lt
  simp only [UInt16.toBitVec_xor, UInt16.toBitVec_shiftLeft, UInt8.toBitVec_toUInt16,
    UInt16.toBitVec_toUInt8, UInt16.toBitVec_shiftRight]
  interval_cases i <;> simp

theorem index_eq (c : UInt8) (crc : UInt16) :
    (crc ^^^ c.toUInt16) &&& 0xFF = (crc.toUInt8 ^^^ c).toUInt16 := by
  apply UInt16.eq_of_toBitVec_eq
  apply BitVec.eq_of_getLsbD_eq
  intro i i_lt
  simp only [UInt16.toBitVec_and, UInt16.toBitVec_xor, UInt8.toBitVec_toUInt16,
    UInt8.toBitVec_xor, UInt16.toBitVec_toUInt8]
  interval_cases i <;> simp

theorem shiftRight_eq_high (crc : UInt16) : crc >>> 8 = (crc >>> 8).toUInt8.toUInt16 := by
  apply UInt16.eq_of_toBitVec_eq
  apply BitVec.eq_of_getLsbD_eq
  intro i i_lt
  simp only [UInt8.toBitVec_toUInt16, UInt16.toBitVec_toUInt8, UInt16.toBitVec_shiftRight]
  interval_cases i <;> simp

/-- The table does what eight shifts do. -/
theorem usCrcCcittUpdate_eq (c : UInt8) (crc : UInt16) :
    (usCrcCcittUpdate c crc).toBitVec = absorb crcCcittTaps crc.toBitVec (byteBits c) := by
  let high := (crc >>> 8).toUInt8
  let low := crc.toUInt8
  let zeros := List.replicate 8 false
  have register : crc.toBitVec = ((high.toUInt16 <<< 8).toBitVec ^^^
      (low ^^^ c).toUInt16.toBitVec) ^^^ c.toUInt16.toBitVec := by
    have split := congrArg UInt16.toBitVec (xor_high_low crc)
    rw [UInt16.toBitVec_xor] at split
    rw [← split]
    simp only [high, low, UInt8.toUInt16_xor, UInt16.toBitVec_xor]
    rw [BitVec.xor_assoc, BitVec.xor_assoc, BitVec.xor_self, BitVec.xor_zero]
  have line : byteBits c = (zeros.zipWith xor zeros).zipWith xor (byteBits c) := by
    simp [zeros, byteBits, List.range_succ]
  rw [register, line, absorb_xor _ _ _ (by simp [zeros]), absorb_xor _ _ _ (by simp [zeros]),
    absorb_byteBits_self, absorb_low, absorb_high, BitVec.xor_zero, usCrcCcittUpdate, index_eq,
    shiftRight_eq_high]
  simp [high, low]

theorem usCrcCcitt_eq (crc : UInt16) (message : List UInt8) :
    (usCrcCcitt crc message).toBitVec =
      absorb crcCcittTaps crc.toBitVec (messageBits message) := by
  induction message generalizing crc with
  | nil => rfl
  | cons c message ih =>
      rw [usCrcCcitt_cons, messageBits_cons, absorb_append, ← usCrcCcittUpdate_eq, ih]

/-- Messages that differ inside 16 consecutive bits only have different CRCs. -/
theorem usCrcCcitt_ne_of_burst (crc : UInt16) {first second : List UInt8}
    (length : first.length = second.length) (differ : first ≠ second) {start : ℕ}
    (window : ∀ i : ℕ, (messageBits first)[i]? ≠ (messageBits second)[i]? →
      start ≤ i ∧ i < start + 16) :
    usCrcCcitt crc first ≠ usCrcCcitt crc second := by
  intro same
  have lengthBits : (messageBits first).length = (messageBits second).length := by
    rw [length_messageBits, length_messageBits, length]
  have differBits : messageBits first ≠ messageBits second :=
    messageBits_injective.ne differ
  have highest : crcCcittTaps.msb = true := by decide
  apply absorb_ne_of_burst highest crc.toBitVec lengthBits differBits window
  rw [← usCrcCcitt_eq, ← usCrcCcitt_eq, same]

/-- A burst of six bits across two bytes. -/
theorem usCrcCcitt_ne_of_burst_two :
    usCrcCcitt crcCcittInitVal [0x42, 0x43] ≠ usCrcCcitt crcCcittInitVal [0xC2, 0x5C] := by
  refine @usCrcCcitt_ne_of_burst crcCcittInitVal [0x42, 0x43] [0xC2, 0x5C] rfl (by decide) 7 ?_
  intro i different
  have inside : i < 16 := by
    by_contra outside
    rw [List.getElem?_eq_none (by simpa using outside),
      List.getElem?_eq_none (by simpa using outside)] at different
    exact different rfl
  have early : 7 ≤ i := by
    by_contra before
    have equal : ∀ j < 7, (messageBits [0x42, 0x43])[j]? = (messageBits [0xC2, 0x5C])[j]? := by
      decide
    exact different (equal i (by omega))
  omega

end Sysio.Radio
