import Mathlib.Data.Nat.Digits.Defs
import Sysio.XBee.Frames
import Sysio.XBee.Packets

/-!
# The parameters of a packet

`iXBeePktParamGetUByte` and the getters of wider values compare the length that is left, which is
an `int`, with a `sizeof`: a length that is negative passes as a large one. So a getter does what
it is for when the offset is in the parameters, or leaves too few of them but not less than none.
-/

namespace Sysio.XBee

open Layout

/-- `ntohs`, `ntohl` and `ntohll` of the bytes of a packet. -/
def bigEndian (bytes : List UInt8) : ℕ := Nat.ofDigits 256 (bytes.map UInt8.toNat).reverse

/-- The bytes at a pointer that an offset was added to. -/
def bytesFrom (pkt : List UInt8) (place : ℤ) (count : ℕ) : Except Fault (List UInt8) :=
  if 0 ≤ place then bytesAt pkt place.toNat count else .error .outOfBounds

/-- The length left behind the offset, as an `int`. -/
def xbeeLeft (len : ℤ) (iOffset : BitVec 32) : ℤ := (len - iOffset.toInt).bmod (2 ^ 32)

/-- `iLen >= sizeof (value)`: both sides are unsigned. -/
def atLeastSize (iLen : ℤ) (width : ℕ) : Bool := width ≤ iLen % 2 ^ 64

/-- What a getter of `width` bytes returns, and the value of its destination. -/
def xbeeParamGet (width dest : ℕ) (pkt : List UInt8) (iOffset : BitVec 32) :
    Except Fault (ℤ × ℕ) := do
  let len ← iXBeePktParamLen pkt
  if atLeastSize (xbeeLeft len iOffset) width then do
    let param ← pucXBeePktParam pkt
    let place ← param.elim (.error .nullPointer) .ok
    let bytes ← bytesFrom pkt (place + iOffset.toInt) width
    return (0, bigEndian bytes)
  else return (-1, dest)

/-- `iXBeePktParamGetULong`, four bytes. -/
def iXBeePktParamGetULong : ℕ → List UInt8 → BitVec 32 → Except Fault (ℤ × ℕ) := xbeeParamGet 4

/-- `iXBeePktParamGetULongLong`, eight bytes. -/
def iXBeePktParamGetULongLong : ℕ → List UInt8 → BitVec 32 → Except Fault (ℤ × ℕ) :=
  xbeeParamGet 8

/-- `iXBeePktParamGetUShort`, two bytes. -/
def iXBeePktParamGetUShort : ℕ → List UInt8 → BitVec 32 → Except Fault (ℤ × ℕ) := xbeeParamGet 2

/-- `iXBeePktParamGetUByte`, one byte. -/
def iXBeePktParamGetUByte : ℕ → List UInt8 → BitVec 32 → Except Fault (ℤ × ℕ) := xbeeParamGet 1

/-- `width` bytes at the offset are parameters, of a packet with parameters from `param` on. -/
def InParams (width : ℕ) (len : ℤ) (param : Option ℕ) (iOffset : BitVec 32) : Prop :=
  param ≠ none ∧ 0 ≤ iOffset.toInt ∧ iOffset.toInt + width ≤ len

instance (width : ℕ) (len : ℤ) (param : Option ℕ) (iOffset : BitVec 32) :
    Decidable (InParams width len param iOffset) := inferInstanceAs (Decidable (_ ∧ _))

/-- What a getter is for. -/
def paramMeant (width dest : ℕ) (pkt : List UInt8) (iOffset : BitVec 32) :
    Except Fault (ℤ × ℕ) := do
  let len ← iXBeePktParamLen pkt
  let param ← pucXBeePktParam pkt
  if InParams width len param iOffset then
    return (0, bigEndian ((pkt.drop (param.getD 0 + iOffset.toInt.toNat)).take width))
  else return (-1, dest)

/-- The offset is in the parameters, or it leaves too few of them, but not less than none. -/
def ParamSeen (width : ℕ) (pkt : List UInt8) (iOffset : BitVec 32) : Prop :=
  ∃ len param, iXBeePktParamLen pkt = .ok len ∧ pucXBeePktParam pkt = .ok param ∧
    (InParams width len param iOffset ∨
      (0 ≤ len - iOffset.toInt ∧ len - iOffset.toInt < width))

/-! ### The length left -/

section

variable {width : ℕ} {len : ℤ} {iOffset : BitVec 32}

/-- A length that is left passes unless it is at least 0 and less than the size. -/
theorem atLeastSize_xbeeLeft (low : -2 ^ 20 ≤ len) (high : len ≤ 2 ^ 20) (size : width ≤ 2 ^ 20) :
    atLeastSize (xbeeLeft len iOffset) width = true ↔
      ¬ (0 ≤ len - iOffset.toInt ∧ len - iOffset.toInt < width) := by
  have lower := BitVec.le_toInt iOffset
  have upper := BitVec.toInt_lt (x := iOffset)
  rw [atLeastSize, decide_eq_true_eq, xbeeLeft, Int.bmod_def]
  split <;> omega

end

/-! ### The layouts -/

/-- The structure and the type of a packet that has parameters. -/
theorem param_last : ∀ entry ∈ xbeeParamCases, entry.2.2 = .param ∧
    offset entry.2.1 .param = size entry.2.1 ∧ size entry.2.1 ≤ 2 ^ 10 := by
  decide

section

variable {frame : XBeeFrame} {width dest : ℕ} {iOffset : BitVec 32}

theorem usXBeePktLength_bytes :
    usXBeePktLength frame.bytes = .ok (xbeeAnnounced frame.high frame.low) := rfl

theorem exists_type_bytes (frame : XBeeFrame) : ∃ type, ucXBeePktType frame.bytes = .ok type := by
  cases payload : frame.payload with
  | nil =>
      refine ⟨frame.checksum, ?_⟩
      rw [XBeeFrame.bytes, payload]
      rfl
  | cons type rest =>
      refine ⟨type, ?_⟩
      rw [XBeeFrame.bytes, payload]
      rfl

/-- The parameters reach up to the checksum; a packet without them has the length -1. -/
theorem param_cases (frame : XBeeFrame) :
    (iXBeePktParamLen frame.bytes = .ok (-1) ∧ pucXBeePktParam frame.bytes = .ok none) ∨
      ∃ place : ℕ, place ≤ 2 ^ 10 ∧ pucXBeePktParam frame.bytes = .ok (some place) ∧
        iXBeePktParamLen frame.bytes =
          .ok (xbeeAnnounced frame.high frame.low + 3 - place : ℤ) := by
  rcases exists_type_bytes frame with ⟨type, isType⟩
  cases found : xbeeParamCases.lookup type with
  | none =>
      left
      simp only [iXBeePktParamLen, xbeeLengthBehind, pucXBeePktParam, xbeePointer,
        usXBeePktLength_bytes, isType, bind, Except.bind, found]
      exact ⟨rfl, rfl⟩
  | some entry =>
      right
      rcases List.lookup_eq_some_iff.mp found with ⟨before, after, split, -⟩
      have member : (type, entry) ∈ xbeeParamCases := by
        rw [split]
        exact List.mem_append_right _ List.mem_cons_self
      rcases param_last _ member with ⟨isParam, last, small⟩
      have found_param : xbeeParamCases.lookup type = some (entry.1, .param) := by
        rw [found, ← isParam]
      refine ⟨offset entry.1 .param, ?_, ?_, ?_⟩
      · rw [last]
        exact small
      · exact xbeePointer_eq isType found_param
      · rw [last]
        exact xbeeLengthBehind_eq isType found_param usXBeePktLength_bytes

theorem announced_lt (high low : UInt8) : xbeeAnnounced high low < 2 ^ 16 := by
  have high_lt := high.toNat_lt
  have low_lt := low.toNat_lt
  rw [xbeeAnnounced]
  omega

theorem paramSeen_iff {pkt : List UInt8} {len : ℤ} {param : Option ℕ}
    (isLen : iXBeePktParamLen pkt = .ok len) (isParam : pucXBeePktParam pkt = .ok param) :
    ParamSeen width pkt iOffset ↔
      InParams width len param iOffset ∨
        (0 ≤ len - iOffset.toInt ∧ len - iOffset.toInt < width) := by
  constructor
  · rintro ⟨len', param', isLen', isParam', seen⟩
    cases isLen.symm.trans isLen'
    cases isParam.symm.trans isParam'
    exact seen
  · exact fun seen => ⟨len, param, isLen, isParam, seen⟩

/-- A getter does what it is for exactly when its comparison sees the offset as it is. -/
theorem xbeeParamGet_iff (announced : frame.payload.length = xbeeAnnounced frame.high frame.low)
    (wide : 1 ≤ width) (small : width ≤ 8) :
    xbeeParamGet width dest frame.bytes iOffset = paramMeant width dest frame.bytes iOffset ↔
      ParamSeen width frame.bytes iOffset := by
  have bound := announced_lt frame.high frame.low
  have length : frame.bytes.length = xbeeAnnounced frame.high frame.low + 4 := by
    rw [XBeeFrame.bytes, ← announced]
    simp
  rcases param_cases frame with ⟨len, param⟩ | ⟨place, near, param, len⟩
  · have seen : ParamSeen width frame.bytes iOffset ↔
        (0 ≤ -1 - iOffset.toInt ∧ -1 - iOffset.toInt < width) :=
      (paramSeen_iff len param).trans (or_iff_right fun inParams => inParams.1 rfl)
    have meant : paramMeant width dest frame.bytes iOffset = .ok (-1, dest) := by
      simp only [paramMeant, len, param, bind, Except.bind]
      rw [if_neg fun inParams => inParams.1 rfl]
      rfl
    rw [seen, meant]
    simp only [xbeeParamGet, len, param, bind, Except.bind]
    by_cases few : 0 ≤ -1 - iOffset.toInt ∧ -1 - iOffset.toInt < width
    · rw [if_neg fun passes =>
        (atLeastSize_xbeeLeft (by omega) (by omega) (by omega)).mp passes few]
      exact iff_of_true rfl few
    · rw [if_pos ((atLeastSize_xbeeLeft (by omega) (by omega) (by omega)).mpr few)]
      exact iff_of_false (fun same => by cases same) few
  · rw [paramSeen_iff len param]
    simp only [xbeeParamGet, paramMeant, len, param, bind, Except.bind, Option.elim_some]
    by_cases few : 0 ≤ (xbeeAnnounced frame.high frame.low + 3 - place : ℤ) - iOffset.toInt ∧
        (xbeeAnnounced frame.high frame.low + 3 - place : ℤ) - iOffset.toInt < width
    · have outside : ¬ InParams width (xbeeAnnounced frame.high frame.low + 3 - place : ℤ)
          (some place) iOffset := by
        rintro ⟨-, -, reaches⟩
        omega
      rw [if_neg fun passes =>
        (atLeastSize_xbeeLeft (by omega) (by omega) (by omega)).mp passes few, if_neg outside]
      exact iff_of_true rfl (.inr few)
    · rw [if_pos ((atLeastSize_xbeeLeft (by omega) (by omega) (by omega)).mpr few)]
      by_cases inside : InParams width (xbeeAnnounced frame.high frame.low + 3 - place : ℤ)
          (some place) iOffset
      · rw [if_pos inside]
        rcases inside with ⟨some_param, positive, reaches⟩
        have start : ((place : ℤ) + iOffset.toInt).toNat = place + iOffset.toInt.toNat := by omega
        have read : bytesFrom frame.bytes (place + iOffset.toInt) width =
            .ok ((frame.bytes.drop (place + iOffset.toInt.toNat)).take width) := by
          rw [bytesFrom, if_pos (by omega), start, bytesAt, if_pos]
          rw [length]
          omega
        rw [read]
        exact iff_of_true rfl (.inl ⟨some_param, positive, reaches⟩)
      · rw [if_neg inside]
        refine iff_of_false ?_ fun seen => seen.elim inside few
        cases read : bytesFrom frame.bytes (place + iOffset.toInt) width with
        | error fault => exact fun same => by cases same
        | ok bytes =>
            intro same
            have code := congrArg Prod.fst (Except.ok.inj same)
            exact absurd code (show (0 : ℤ) ≠ -1 by decide)

/-- The four getters do what they are for exactly at the offsets that are seen as they are. -/
theorem xbeeParamGetters_iff
    (announced : frame.payload.length = xbeeAnnounced frame.high frame.low) (dest : ℕ)
    (iOffset : BitVec 32) :
    (iXBeePktParamGetUByte dest frame.bytes iOffset = paramMeant 1 dest frame.bytes iOffset ↔
        ParamSeen 1 frame.bytes iOffset) ∧
      (iXBeePktParamGetUShort dest frame.bytes iOffset = paramMeant 2 dest frame.bytes iOffset ↔
        ParamSeen 2 frame.bytes iOffset) ∧
      (iXBeePktParamGetULong dest frame.bytes iOffset = paramMeant 4 dest frame.bytes iOffset ↔
        ParamSeen 4 frame.bytes iOffset) ∧
      (iXBeePktParamGetULongLong dest frame.bytes iOffset =
          paramMeant 8 dest frame.bytes iOffset ↔
        ParamSeen 8 frame.bytes iOffset) :=
  ⟨xbeeParamGet_iff announced (by decide) (by decide),
    xbeeParamGet_iff announced (by decide) (by decide),
    xbeeParamGet_iff announced (by decide) (by decide),
    xbeeParamGet_iff announced (by decide) (by decide)⟩

end

/-- The response to a command whose value is one byte. -/
def oneByteResponse : XBeeFrame := ⟨0, 6, [0x88, 1, 0x44, 0x42, 0, 0x2A], 0xC6⟩

theorem xbeeParamGetters_oneByte :
    iXBeePktParamGetUByte 0 oneByteResponse.bytes 0 = .ok (0, 0x2A) := by
  have announced : oneByteResponse.payload.length =
      xbeeAnnounced oneByteResponse.high oneByteResponse.low := rfl
  have seen : ParamSeen 1 oneByteResponse.bytes 0 :=
    ⟨1, some 8, by decide, by decide, .inl (by decide)⟩
  exact (xbeeParamGetters_iff announced 0 0).1.mpr seen

/-- Behind the only byte the length left is -1, which passes: the byte read is not there. -/
theorem not_paramMeant_behind :
    iXBeePktParamGetUByte 0 oneByteResponse.bytes 2 ≠ paramMeant 1 0 oneByteResponse.bytes 2 := by
  decide

end Sysio.XBee
