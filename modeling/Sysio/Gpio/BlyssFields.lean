import Sysio.Lib.Bits
import Sysio.Gpio.Blyss

/-!
# The fields of a Blyss frame

A frame is a row of 56 bits, most significant bit of each byte first, and a field is a window of
it. Both loops agree on the windows that are used: what is written in one is read back there, and
nothing else changes.
-/

namespace Sysio.Gpio

namespace XBlyssFrame

/-- A bit of the frame, the most significant one of the first byte being 0. -/
def bit (f : XBlyssFrame) (m : ℕ) : Bool := (f.byte (m / 8)).getLsbD (7 - m % 8)

variable {f : XBlyssFrame} {i other : ℕ} {byte : BitVec 8}

theorem byte_setByte_self (inside : i < 7) : (f.setByte i byte).byte i = byte := by
  simp [XBlyssFrame.byte, setByte, inside]

theorem byte_setByte_of_ne (differs : other ≠ i) :
    (f.setByte i byte).byte other = f.byte other := by
  simp [XBlyssFrame.byte, setByte, Ne.symm differs]

end XBlyssFrame

/-! ### Windows -/

/-- `len` bits of the frame have become those of `value`, and the others are as they were. -/
def Written (f after : XBlyssFrame) (index len : ℕ) (value : BitVec 16) : Prop :=
  ∀ m, after.bit m =
    if index ≤ m ∧ m < index + len then value.getLsbD (index + len - 1 - m) else f.bit m

/-- `value` is the `len` bits of the frame. -/
def IsRead (f : XBlyssFrame) (index len : ℕ) (value : BitVec 16) : Prop :=
  ∀ j, value.getLsbD j = (decide (j < len) && f.bit (index + len - 1 - j))

section Windows

variable {f middle after : XBlyssFrame} {i s index len first second : ℕ}
  {value high low : BitVec 16}

theorem written_setByte {byte : BitVec 8} (inside : i < 7)
    (window : 8 * i ≤ index ∧ index + len ≤ 8 * i + 8)
    (bits : ∀ j, j < 8 → byte.getLsbD j =
      if index ≤ 8 * i + 7 - j ∧ 8 * i + 7 - j < index + len then
        value.getLsbD (index + len - 1 - (8 * i + 7 - j))
      else (f.byte i).getLsbD j) :
    Written f (f.setByte i byte) index len value := by
  intro m
  rw [XBlyssFrame.bit, XBlyssFrame.bit]
  by_cases here : m / 8 = i
  · have place : 8 * i + 7 - (7 - m % 8) = m := by omega
    rw [here, XBlyssFrame.byte_setByte_self inside, bits (7 - m % 8) (by omega), place]
  · rw [XBlyssFrame.byte_setByte_of_ne here, if_neg]
    omega

theorem Written.append (front : Written f middle index first (value >>> second))
    (back : Written middle after (index + first) second value) :
    Written f after index (first + second) value := by
  intro m
  rw [back m, front m]
  by_cases in_back : index + first ≤ m ∧ m < index + first + second
  · rw [if_pos in_back, if_pos (by omega), Nat.add_assoc]
  · rw [if_neg in_back]
    by_cases in_front : index ≤ m ∧ m < index + first
    · have place : second + (index + first - 1 - m) = index + (first + second) - 1 - m := by omega
      rw [if_pos in_front, if_pos (by omega), BitVec.getLsbD_ushiftRight, place]
    · rw [if_neg in_front, if_neg (by omega)]

theorem lowMask_bit : ∀ j < 8, (0x0F#32).getLsbD j = decide (j < 4) := by decide

theorem highMask_bit : ∀ j < 8, (0xF0#32).getLsbD j = decide (4 ≤ j) := by decide

/-- A byte whose lower nibble is made of the value; the value is not masked. -/
def lowNibble (f : XBlyssFrame) (i s : ℕ) (value : BitVec 16) : BitVec 8 :=
  ((f.byte i).setWidth 32 &&& 0xF0#32 ||| (value.setWidth 32 >>> s) <<< 0).setWidth 8

/-- A byte whose upper nibble is made of the value. -/
def highNibble (f : XBlyssFrame) (i s : ℕ) (value : BitVec 16) : BitVec 8 :=
  ((f.byte i).setWidth 32 &&& 0x0F#32 ||| (value.setWidth 32 >>> s) <<< 4).setWidth 8

theorem written_high (inside : i < 7) :
    Written f (f.setByte i (highNibble f i s value)) (8 * i) 4 (value >>> s) := by
  apply written_setByte inside (by omega)
  intro j below
  rw [highNibble]
  simp only [BitVec.getLsbD_setWidth, BitVec.getLsbD_or, BitVec.getLsbD_and,
    BitVec.getLsbD_shiftLeft, BitVec.getLsbD_ushiftRight, lowMask_bit j below]
  by_cases upper : 4 ≤ j
  · have place : 8 * i + 4 - 1 - (8 * i + 7 - j) = j - 4 := by omega
    rw [if_pos (by omega), place]
    have outside : 16 ≤ s + (j - 4) ∨ s + (j - 4) < 32 := by omega
    rcases outside with beyond | within
    · simp [below, upper, beyond]
    · simp [below, within, Nat.not_lt.mpr upper, show j < 32 by omega]
  · rw [if_neg (by omega)]
    simp [below, show j < 32 by omega, show j < 4 by omega]

/-- The value is not masked, so it must have no more than the four bits. -/
theorem written_low (inside : i < 7) (fits : ∀ j, 4 ≤ j → value.getLsbD (s + j) = false) :
    Written f (f.setByte i (lowNibble f i s value)) (8 * i + 4) 4 (value >>> s) := by
  apply written_setByte inside (by omega)
  intro j below
  rw [lowNibble]
  simp only [BitVec.getLsbD_setWidth, BitVec.getLsbD_or, BitVec.getLsbD_and, BitVec.shiftLeft_zero,
    BitVec.getLsbD_ushiftRight, highMask_bit j below]
  by_cases upper : 4 ≤ j
  · rw [if_neg (by omega), fits j upper]
    simp [below, upper, show j < 32 by omega]
  · have place : 8 * i + 4 + 4 - 1 - (8 * i + 7 - j) = j := by omega
    rw [if_pos (by omega), place]
    have outside : 16 ≤ s + j ∨ s + j < 32 := by omega
    rcases outside with beyond | within
    · simp [below, upper, beyond]
    · simp [below, upper, within]

theorem written_byte (inside : i < 7) :
    Written f (f.setByte i ((value >>> s).setWidth 8)) (8 * i) 8 (value >>> s) := by
  apply written_setByte inside (by omega)
  intro j below
  have place : 8 * i + 8 - 1 - (8 * i + 7 - j) = j := by omega
  rw [if_pos (by omega), place, BitVec.getLsbD_setWidth, decide_eq_true below, Bool.true_and]

theorem IsRead.append (front : IsRead f index first high)
    (back : IsRead f (index + first) second low) (fits : first + second ≤ 16) :
    IsRead f index (first + second) (high <<< second ||| low) := by
  intro j
  rw [BitVec.getLsbD_or, BitVec.getLsbD_shiftLeft, front, back]
  by_cases in_back : j < second
  · have place : index + first + second - 1 - j = index + (first + second) - 1 - j := by omega
    rw [place]
    simp [in_back, show j < first + second by omega]
  · have place : index + first - 1 - (j - second) = index + (first + second) - 1 - j := by omega
    rw [place]
    by_cases in_front : j < first + second
    · simp [in_back, in_front, show j < 16 by omega, show j - second < first by omega]
    · simp [in_back, in_front, show ¬ j - second < first by omega]

theorem nibble_bit : ∀ j < 8, (0x0F : BitVec 8).getLsbD j = decide (j < 4) := by decide

theorem isRead_high : IsRead f (8 * i) 4 ((f.byte i >>> 4).setWidth 16) := by
  intro j
  rw [BitVec.getLsbD_setWidth, BitVec.getLsbD_ushiftRight, XBlyssFrame.bit]
  by_cases below : j < 4
  · have byte : (8 * i + 4 - 1 - j) / 8 = i := by omega
    have place : 7 - (8 * i + 4 - 1 - j) % 8 = 4 + j := by omega
    rw [byte, place]
    simp [below, show j < 16 by omega]
  · rw [BitVec.getLsbD_of_ge (f.byte i) (4 + j) (by omega)]
    simp [below]

theorem isRead_low : IsRead f (8 * i + 4) 4 ((f.byte i &&& 0x0F).setWidth 16) := by
  intro j
  rw [BitVec.getLsbD_setWidth, BitVec.getLsbD_and, XBlyssFrame.bit]
  by_cases below : j < 4
  · have byte : (8 * i + 4 + 4 - 1 - j) / 8 = i := by omega
    have place : 7 - (8 * i + 4 + 4 - 1 - j) % 8 = j := by omega
    rw [byte, place, nibble_bit j (by omega)]
    simp [below, show j < 16 by omega]
  · by_cases within : j < 8
    · rw [nibble_bit j within]
      simp [below]
    · rw [BitVec.getLsbD_of_ge (f.byte i) j (by omega)]
      simp [below]

theorem isRead_byte : IsRead f (8 * i) 8 ((f.byte i).setWidth 16) := by
  intro j
  rw [BitVec.getLsbD_setWidth, XBlyssFrame.bit]
  by_cases below : j < 8
  · have byte : (8 * i + 8 - 1 - j) / 8 = i := by omega
    have place : 7 - (8 * i + 8 - 1 - j) % 8 = j := by omega
    rw [byte, place]
    simp [below, show j < 16 by omega]
  · rw [BitVec.getLsbD_of_ge (f.byte i) j (by omega)]
    simp [below]

end Windows

/-! ### The fields -/

/-- The fields of a frame. -/
inductive BlyssField where
  | flag
  | globalChannel
  | address
  | channel
  | state
  | rollingCode
  | token
deriving DecidableEq, Repr

namespace BlyssField

/-- The first bit of a field. -/
def index : BlyssField → ℕ
  | flag => blyssIdxFlag
  | globalChannel => blyssIdxGchan
  | address => blyssIdxAddr
  | channel => blyssIdxChan
  | state => blyssIdxState
  | rollingCode => blyssIdxRoll
  | token => blyssIdxToken

/-- The bits of a field. -/
def len : BlyssField → ℕ
  | flag => 8
  | globalChannel => 4
  | address => 16
  | channel => 4
  | state => 4
  | rollingCode => 8
  | token => 8

/-- The field is read. -/
def get (field : BlyssField) (f : XBlyssFrame) : BitVec 16 := usGetBits field.index field.len f

/-- The field is written. -/
def set (field : BlyssField) (value : BitVec 16) (f : XBlyssFrame) : XBlyssFrame :=
  vSetBits field.index field.len value f

/-- The value has the bits of the field. The global channel is masked by its place. -/
def Fits (field : BlyssField) (value : BitVec 16) : Prop :=
  field = globalChannel ∨ ∀ j, field.len ≤ j → value.getLsbD j = false

variable {field other : BlyssField} {value : BitVec 16} {f : XBlyssFrame}

/-- What the loop writes in each field, byte by byte. -/
theorem set_flag : flag.set value f = f.setByte 0 ((value >>> 0).setWidth 8) := rfl

theorem set_globalChannel :
    globalChannel.set value f = f.setByte 1 (highNibble f 1 0 value) := rfl

theorem set_address : address.set value f =
    ((f.setByte 1 (lowNibble f 1 12 value)).setByte 2 ((value >>> 4).setWidth 8)).setByte 3
      (highNibble ((f.setByte 1 (lowNibble f 1 12 value)).setByte 2 ((value >>> 4).setWidth 8))
        3 0 value) := rfl

theorem set_channel : channel.set value f = f.setByte 3 (lowNibble f 3 0 value) := rfl

theorem set_state : state.set value f = f.setByte 4 (highNibble f 4 0 value) := rfl

theorem set_rollingCode : rollingCode.set value f =
    (f.setByte 4 (lowNibble f 4 4 value)).setByte 5
      (highNibble (f.setByte 4 (lowNibble f 4 4 value)) 5 0 value) := rfl

theorem set_token : token.set value f =
    (f.setByte 5 (lowNibble f 5 4 value)).setByte 6
      (highNibble (f.setByte 5 (lowNibble f 5 4 value)) 6 0 value) := rfl

/-- Two nibbles, the second of which begins a byte. -/
theorem written_split {i : ℕ} (inside : i + 1 < 7) (fits : ∀ j, 8 ≤ j → value.getLsbD j = false) :
    Written f ((f.setByte i (lowNibble f i 4 value)).setByte (i + 1)
      (highNibble (f.setByte i (lowNibble f i 4 value)) (i + 1) 0 value)) (8 * i + 4) 8 value := by
  have front : Written f (f.setByte i (lowNibble f i 4 value)) (8 * i + 4) 4 (value >>> 4) :=
    written_low (by omega) fun j upper => fits (4 + j) (by omega)
  have back : Written (f.setByte i (lowNibble f i 4 value)) _ (8 * (i + 1)) 4 (value >>> 0) :=
    written_high inside
  rw [BitVec.ushiftRight_zero] at back
  exact front.append back

theorem written_address : Written f (address.set value f) 12 16 value := by
  have front : Written f (f.setByte 1 (lowNibble f 1 12 value)) 12 4 (value >>> 4 >>> 8) := by
    rw [← BitVec.shiftRight_add]
    exact written_low (by decide) fun j upper => BitVec.getLsbD_of_ge value (12 + j) (by omega)
  have middle : Written (f.setByte 1 (lowNibble f 1 12 value)) _ 16 8 (value >>> 4) :=
    written_byte (i := 2) (by decide)
  have back : Written ((f.setByte 1 (lowNibble f 1 12 value)).setByte 2
      ((value >>> 4).setWidth 8)) _ 24 4 (value >>> 0) := written_high (i := 3) (by decide)
  rw [BitVec.ushiftRight_zero] at back
  rw [set_address]
  exact (front.append middle).append back

theorem written_set (fits : field.Fits value) :
    Written f (field.set value f) field.index field.len value := by
  have shift : value >>> 0 = value := BitVec.ushiftRight_zero value
  have narrow : field ≠ globalChannel → ∀ j, field.len ≤ j → value.getLsbD j = false :=
    fun differs => fits.resolve_left differs
  cases field with
  | flag =>
      have written : Written f _ (8 * 0) 8 (value >>> 0) := written_byte (i := 0) (by decide)
      rw [shift] at written
      rw [set_flag, shift]
      exact written
  | globalChannel =>
      have written : Written f _ (8 * 1) 4 (value >>> 0) := written_high (i := 1) (by decide)
      rw [shift] at written
      rw [set_globalChannel]
      exact written
  | address => exact written_address
  | channel =>
      have written : Written f _ (8 * 3 + 4) 4 (value >>> 0) :=
        written_low (i := 3) (by decide) fun j upper => by
          rw [Nat.zero_add]
          exact narrow (by decide) j upper
      rw [shift] at written
      rw [set_channel]
      exact written
  | state =>
      have written : Written f _ (8 * 4) 4 (value >>> 0) := written_high (i := 4) (by decide)
      rw [shift] at written
      rw [set_state]
      exact written
  | rollingCode =>
      rw [set_rollingCode]
      exact written_split (i := 4) (by decide) (narrow (by decide))
  | token =>
      rw [set_token]
      exact written_split (i := 5) (by decide) (narrow (by decide))

/-- What the loop reads of two nibbles, and of the address. -/
theorem isRead_split {i : ℕ} : IsRead f (8 * i + 4) 8
    (0#16 ||| (f.byte i &&& 0x0F).setWidth 16 <<< 4 |||
      (f.byte (i + 1) >>> 4).setWidth 16 <<< 0) := by
  rw [BitVec.zero_or, BitVec.shiftLeft_zero]
  exact (isRead_low (i := i)).append (isRead_high (i := i + 1)) (by decide)

theorem isRead_address : IsRead f 12 16
    (0#16 ||| (f.byte 1 &&& 0x0F).setWidth 16 <<< 12 ||| (f.byte 2).setWidth 16 <<< 4 |||
      (f.byte 3 >>> 4).setWidth 16 <<< 0) := by
  have front : IsRead f 12 4 ((f.byte 1 &&& 0x0F).setWidth 16) := isRead_low (i := 1)
  have middle : IsRead f 16 8 ((f.byte 2).setWidth 16) := isRead_byte (i := 2)
  have back : IsRead f 24 4 ((f.byte 3 >>> 4).setWidth 16) := isRead_high (i := 3)
  have whole := (front.append middle (by decide)).append back (by decide)
  rw [BitVec.shiftLeft_or_distrib, ← BitVec.shiftLeft_add] at whole
  rw [BitVec.zero_or, BitVec.shiftLeft_zero]
  exact whole

theorem isRead_get : IsRead f field.index field.len (field.get f) := by
  have start : ∀ value : BitVec 16, 0#16 ||| value <<< 0 = value := by
    intro value
    rw [BitVec.zero_or, BitVec.shiftLeft_zero]
  cases field with
  | flag =>
      have read : IsRead f 0 8 ((f.byte 0).setWidth 16) := isRead_byte (i := 0)
      rw [← start ((f.byte 0).setWidth 16)] at read
      exact read
  | globalChannel =>
      have read : IsRead f 8 4 ((f.byte 1 >>> 4).setWidth 16) := isRead_high (i := 1)
      rw [← start ((f.byte 1 >>> 4).setWidth 16)] at read
      exact read
  | address => exact isRead_address
  | channel =>
      have read : IsRead f 28 4 ((f.byte 3 &&& 0x0F).setWidth 16) := isRead_low (i := 3)
      rw [← start ((f.byte 3 &&& 0x0F).setWidth 16)] at read
      exact read
  | state =>
      have read : IsRead f 32 4 ((f.byte 4 >>> 4).setWidth 16) := isRead_high (i := 4)
      rw [← start ((f.byte 4 >>> 4).setWidth 16)] at read
      exact read
  | rollingCode => exact isRead_split (i := 4)
  | token => exact isRead_split (i := 5)

/-- A field is read as it was written. -/
theorem get_set_self (fits : field.Fits value) (j : ℕ) :
    (field.get (field.set value f)).getLsbD j = (decide (j < field.len) && value.getLsbD j) := by
  rw [isRead_get j]
  by_cases below : j < field.len
  · have place : field.index + field.len - 1 - (field.index + field.len - 1 - j) = j := by omega
    rw [written_set fits, if_pos (by omega), place]
  · simp [below]

theorem windows_disjoint (differs : other ≠ field) :
    other.index + other.len ≤ field.index ∨ field.index + field.len ≤ other.index := by
  revert differs
  cases other <;> cases field <;> decide

/-- A field does not change when another one is written. -/
theorem get_set_of_ne (fits : field.Fits value) (differs : other ≠ field) :
    other.get (field.set value f) = other.get f := by
  apply BitVec.eq_of_getLsbD_eq
  intro j _
  rw [isRead_get j, isRead_get j]
  by_cases below : j < other.len
  · have apart := windows_disjoint differs
    rw [written_set fits, if_neg (by omega)]
  · simp [below]

end BlyssField

end Sysio.Gpio
