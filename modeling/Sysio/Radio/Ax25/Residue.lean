import Sysio.Radio.Ax25.Link
import Sysio.Radio.Bursts

/-!
# The residue of a frame

The CRC of `radio/src/crc.c` bit by bit, as its documentation describes it, and what it means for
the AX.25 sender: whatever has been sent before, the two complemented bytes bring the register to
`AX25_CRC_CORRECT`, so that the test at the end of `iAx25Send` never fails.
-/

namespace Sysio.Radio

/-- One bit of the CRC: the polynomial is added when the bit that is shifted out and the bit of
the message differ. -/
def crcSerialBit (crc : UInt16) (bit : Bool) : UInt16 :=
  if xor (crc.toNat.testBit 0) bit then (crc >>> 1) ^^^ 0x8408 else crc >>> 1

/-- The CRC computed bit by bit. -/
def crcSerial (crc : UInt16) (message : List UInt8) : UInt16 :=
  (messageBits message).foldl crcSerialBit crc

theorem toBitVec_crcSerialBit (crc : UInt16) (bit : Bool) :
    (crcSerialBit crc bit).toBitVec = ShiftRegister.absorbBit crcCcittTaps crc.toBitVec bit := by
  have out : (crc.toBitVec ^^^ (BitVec.ofBool bit).setWidth 16).getLsbD 0 =
      xor (crc.toNat.testBit 0) bit := by
    rw [BitVec.getLsbD_xor]
    cases bit <;> rfl
  have rest : (crc.toBitVec ^^^ (BitVec.ofBool bit).setWidth 16) >>> 1 = (crc >>> 1).toBitVec := by
    rw [BitVec.ushiftRight_xor_distrib]
    cases bit <;> simp
  rw [crcSerialBit, ShiftRegister.absorbBit, ShiftRegister.shift, out, rest]
  split <;> rfl

theorem toBitVec_crcSerial (crc : UInt16) (message : List UInt8) :
    (crcSerial crc message).toBitVec =
      ShiftRegister.absorb crcCcittTaps crc.toBitVec (messageBits message) := by
  rw [crcSerial, ShiftRegister.absorb]
  induction messageBits message generalizing crc with
  | nil => rfl
  | cons bit bits ih => rw [List.foldl_cons, List.foldl_cons, ih, toBitVec_crcSerialBit]

theorem usCrcCcitt_eq_serial (crc : UInt16) (message : List UInt8) :
    usCrcCcitt crc message = crcSerial crc message := by
  apply UInt16.eq_of_toBitVec_eq
  rw [usCrcCcitt_eq, toBitVec_crcSerial]

/-! ### The test of the sender -/

theorem crcOut_prvvPutChar (tx : Ax25Tx) (c : UInt8) :
    (prvvPutChar tx c).p.crcOut = usCrcCcittUpdate c tx.p.crcOut := by
  rw [prvvPutChar]
  split <;> rfl

/-- The register after both CRC bytes does not depend on what was sent before. -/
theorem crcOut_complement (tx : Ax25Tx) :
    (prvvPutChar (prvvPutChar tx (crcLow tx.p.crcOut)) (crcHigh tx.p.crcOut)).p.crcOut =
      ax25CrcCorrect := by
  rw [crcOut_prvvPutChar, crcOut_prvvPutChar]
  exact usCrcCcitt_complement tx.p.crcOut

theorem ax25SendBody_ne_crcError (tx : Ax25Tx) (f : XAx25Frame) :
    (ax25SendBody tx f).1 ≠ .crcError := by
  rw [ax25SendBody]
  simp only [crcOut_complement, ne_eq, not_true_eq_false, if_false]
  decide

theorem prviSendCall_ne_crcError (tx : Ax25Tx) (n : XAx25Node) (last : Bool) :
    (prviSendCall tx n last).1 ≠ .crcError := by
  rw [prviSendCall]
  rcases ax25PutCall tx n.callsign.chars with ⟨_ | _, next⟩ <;> exact EAx25Error.noConfusion

theorem ax25SendRepeaters_ne_crcError (tx : Ax25Tx) (repeaters : List XAx25Node) :
    (ax25SendRepeaters tx repeaters).1 ≠ .crcError := by
  induction repeaters generalizing tx with
  | nil => exact EAx25Error.noConfusion
  | cons n rest ih =>
      have here := prviSendCall_ne_crcError tx n rest.isEmpty
      rw [ax25SendRepeaters]
      rcases sent : prviSendCall tx n rest.isEmpty with ⟨code, next⟩
      rw [sent] at here
      cases code with
      | success => exact ih next
      | _ => exact here

theorem iAx25Send_ne_crcError (p : XAx25) (f : XAx25Frame) :
    (iAx25Send p f).1 ≠ .crcError := by
  rw [iAx25Send]
  split
  · exact EAx25Error.noConfusion
  simp only
  generalize prviPutc hdlcFlag ⟨{ p with crcOut := crcCcittInitVal }, []⟩ = tx
  have dst := prviSendCall_ne_crcError tx f.dst false
  rcases sent : prviSendCall tx f.dst false with ⟨code, tx⟩
  rw [sent] at dst
  cases code with
  | success =>
      have src := prviSendCall_ne_crcError tx f.src f.repeaters.isEmpty
      simp only
      rcases sent : prviSendCall tx f.src f.repeaters.isEmpty with ⟨code, tx⟩
      rw [sent] at src
      cases code with
      | success =>
          have repeaters := ax25SendRepeaters_ne_crcError tx f.repeaters
          simp only
          rcases sent : ax25SendRepeaters tx f.repeaters with ⟨code, tx⟩
          rw [sent] at repeaters
          cases code with
          | success => exact ax25SendBody_ne_crcError tx f
          | _ => exact repeaters
      | _ => exact src
  | _ => exact dst

/-- The table computes the CRC that is described bit by bit, its complement leaves the residue
behind every message, and no frame fails for its own CRC. -/
theorem crc_serial_residue :
    (∀ crc message, usCrcCcitt crc message = crcSerial crc message) ∧
      (∀ message, usCrcCcitt crcCcittInitVal
        (message ++ [crcLow (usCrcCcitt crcCcittInitVal message),
          crcHigh (usCrcCcitt crcCcittInitVal message)]) = 0xF0B8) ∧
      ∀ (p : XAx25) (f : XAx25Frame), (iAx25Send p f).1 ≠ .crcError := by
  refine ⟨usCrcCcitt_eq_serial, fun message => ?_, iAx25Send_ne_crcError⟩
  rw [usCrcCcitt_append, usCrcCcitt_complement]
  rfl

end Sysio.Radio
