import Sysio.Gpio.Board.Device
import Sysio.Gpio.Release
import Sysio.Lib.Bits

/-!
# The device of `arch/arm/nanopi/gpiodevice_nanopi.cpp`

The registers of a bank are its memory: the mode of a pin is a field of 4 bits of a CFG register, of
which 3 are read, its pull resistor a field of 2 bits of a PUL register, and its level a bit of DAT.
The pins are found in the banks as by `arch/arm/nanopi/gpio.c`.
-/

namespace Sysio.Board

/-- The registers of a bank. -/
structure PioBank where
  CFG : ℕ → BitVec 32
  DAT : BitVec 32
  DRV : ℕ → BitVec 32
  PUL : ℕ → BitVec 32

/-- The registers, as they are mapped. -/
structure DeviceNanoPi where
  isopen : Bool
  bank : ℕ → PioBank

namespace DeviceNanoPi

/-- The pins of each bank. -/
def portSize : List ℕ := [22, 0, 17, 18, 16, 7, 14, 12]

/-- The loop of `pinBank`, whose inner loop goes over port B. -/
def pinBankLoop : List ℕ → ℕ → ℕ → ℕ × ℕ
  | [], bkindex, ng => (bkindex, ng)
  | [size], bkindex, ng => if size ≤ ng then (bkindex + 1, ng - size) else (bkindex, ng)
  | size :: portB :: list, bkindex, ng =>
      if size ≤ ng then
        if bkindex + 1 = 1 then pinBankLoop list (bkindex + 2) (ng - size)
        else pinBankLoop (portB :: list) (bkindex + 1) (ng - size)
      else (bkindex, ng)

/-- The bank of a pin, and its number in the bank. -/
def pinBank (g : ℕ) (io : DeviceNanoPi) : Except GpioThrow (ℕ × ℕ) :=
  let found := pinBankLoop portSize 0 g
  if found.1 < 8 then if io.isopen then .ok found else .error .systemError
  else .error .outOfRange

/-- The mode of a field. -/
def int2mode : ℕ → Except GpioThrow PinMode
  | 0 => .ok .modeInput
  | 1 => .ok .modeOutput
  | 2 => .ok .modeAlt2
  | 3 => .ok .modeAlt3
  | 4 => .ok .modeAlt4
  | 5 => .ok .modeAlt5
  | 6 => .ok .modeAlt6
  | 7 => .ok .modeDisabled
  | _ => .error .outOfRange

/-- The field of a mode. -/
def mode2int : PinMode → Except GpioThrow (BitVec 32)
  | .modeInput => .ok 0
  | .modeOutput => .ok 1
  | .modeAlt2 => .ok 2
  | .modeAlt3 => .ok 3
  | .modeAlt4 => .ok 4
  | .modeAlt5 => .ok 5
  | .modeAlt6 => .ok 6
  | .modeDisabled => .ok 7
  | _ => .error .outOfRange

/-- A register of the modes is written. -/
def setCFG (b r : ℕ) (word : BitVec 32) (io : DeviceNanoPi) : DeviceNanoPi :=
  { io with
    bank := Function.update io.bank b
      { io.bank b with CFG := Function.update (io.bank b).CFG r word } }

/-- A register of the pull resistors is written. -/
def setPUL (b r : ℕ) (word : BitVec 32) (io : DeviceNanoPi) : DeviceNanoPi :=
  { io with
    bank := Function.update io.bank b
      { io.bank b with PUL := Function.update (io.bank b).PUL r word } }

/-- The register of the levels is written. -/
def setDAT (b : ℕ) (word : BitVec 32) (io : DeviceNanoPi) : DeviceNanoPi :=
  { io with bank := Function.update io.bank b { io.bank b with DAT := word } }

/-- The registers are mapped, or this throws. -/
def openDevice (maps : Bool) (io : DeviceNanoPi) : Except GpioThrow DeviceNanoPi :=
  if io.isopen then .ok io
  else if maps then .ok { io with isopen := true }
  else .error .systemError

/-- The registers are unmapped. -/
def close (io : DeviceNanoPi) : DeviceNanoPi := { io with isopen := false }

/-- The mode of a pin; two fields are the PWM of some pins. -/
def mode (g : ℕ) (io : DeviceNanoPi) : Except GpioThrow PinMode := do
  let (b, f) ← pinBank g io
  let r := f / 8
  let i := (f - r * 8) * 4
  let m := (io.bank b).CFG r >>> i &&& 7
  let ret ← int2mode m.toNat
  pure (if ret = .modeAlt3 ∧ (g = 5 ∨ g = 6) ∨ ret = .modeAlt2 ∧ g = 104 then .modePwm else ret)

/-- The mode that is set for `ModePwm`. -/
def pwmMode (g : ℕ) (m : PinMode) : Except GpioThrow PinMode :=
  if m = .modePwm then
    if g = 5 ∨ g = 6 then .ok .modeAlt3
    else if g = 104 then .ok .modeAlt2
    else .error .invalidArgument
  else .ok m

/-- The field of a pin is cleared, then set. -/
def setMode (g : ℕ) (m : PinMode) (io : DeviceNanoPi) : Except GpioThrow DeviceNanoPi := do
  let (b, f) ← pinBank g io
  let r := f / 8
  let i := (f - r * 8) * 4
  let m ← pwmMode g m
  let v ← mode2int m
  let cleared := io.setCFG b r ((io.bank b).CFG r &&& ~~~(0b1111#32 <<< i))
  pure (cleared.setCFG b r ((cleared.bank b).CFG r ||| v <<< i))

/-- The pull resistor of a pin. -/
def pull (g : ℕ) (io : DeviceNanoPi) : Except GpioThrow PinPull := do
  let (b, f) ← pinBank g io
  let r := f / 16
  let i := (f - r * 16) * 2
  let v := (io.bank b).PUL r >>> i &&& 3
  pure (if v = 0 then .pullOff
    else if v = 2 then .pullDown
    else if v = 1 then .pullUp
    else .pullUnknown)

/-- The value that is written for a pull resistor. -/
def pullCode : PinPull → Option (BitVec 32)
  | .pullOff => some 0
  | .pullDown => some 2
  | .pullUp => some 1
  | .pullUnknown => none

/-- The field of a pin is cleared, then set. -/
def setPull (g : ℕ) (p : PinPull) (io : DeviceNanoPi) : Except GpioThrow DeviceNanoPi := do
  let (b, f) ← pinBank g io
  match pullCode p with
  | some v =>
      let r := f / 16
      let i := (f - r * 16) * 2
      let cleared := io.setPUL b r ((io.bank b).PUL r &&& ~~~(0b11#32 <<< i))
      pure (cleared.setPUL b r ((cleared.bank b).PUL r ||| v <<< i))
  | none => pure io

/-- The bit of the pin is set or cleared in the register read before. -/
def write (g : ℕ) (v : Bool) (io : DeviceNanoPi) : Except GpioThrow DeviceNanoPi := do
  let (b, f) ← pinBank g io
  pure (if v then io.setDAT b ((io.bank b).DAT ||| 1#32 <<< f)
    else io.setDAT b ((io.bank b).DAT &&& ~~~(1#32 <<< f)))

/-- The bit of the pin is flipped. -/
def toggle (g : ℕ) (io : DeviceNanoPi) : Except GpioThrow DeviceNanoPi := do
  let (b, f) ← pinBank g io
  pure (io.setDAT b ((io.bank b).DAT ^^^ 1#32 <<< f))

/-- The bit of the pin. -/
def read (g : ℕ) (io : DeviceNanoPi) : Except GpioThrow Bool := do
  let (b, f) ← pinBank g io
  pure (decide ((io.bank b).DAT &&& 1#32 <<< f ≠ 0))

/-- A device that reads pull resistors and toggles pins itself. -/
def device : Device DeviceNanoPi where
  hasPullRead := true
  hasToggle := true
  isOpen := DeviceNanoPi.isopen
  openDevice := openDevice
  close := close
  mode := mode
  setMode := setMode
  pull := pull
  setPull := setPull
  write := write
  read := read
  toggle := toggle

/-! ### Pins apart -/

/-- The pins of the banks. -/
def Inside (g : ℕ) : Prop := g < Gpio.NanoPi.gpioSize

/-- The bank of a pin, and its number there. -/
def place (g : ℕ) : ℕ × ℕ := (Gpio.NanoPi.pxGetPinBank g).getD (0, 0)

theorem pinBankLoop_eq (ng : ℕ) :
    pinBankLoop portSize 0 ng = Gpio.NanoPi.pinBankLoop portSize 0 ng := by
  simp only [portSize, pinBankLoop, Gpio.NanoPi.pinBankLoop]
  simp

theorem place_eq {g : ℕ} (isInside : Inside g) :
    Gpio.NanoPi.pxGetPinBank g = some (place g) ∧ (place g).1 < 8 ∧ (place g).2 < 32 := by
  have all : ∀ g < 106, (Gpio.NanoPi.pxGetPinBank g).all
      (fun place => decide (place.1 < 8 ∧ place.2 < 32)) = true := by decide +kernel
  rcases Gpio.NanoPi.exists_pinBank isInside with ⟨b, f, found⟩
  have small := all g isInside
  rw [found] at small
  rw [place, found]
  exact ⟨rfl, of_decide_eq_true small⟩

theorem place_injective {g g' : ℕ} (isInside : Inside g) (isInside' : Inside g')
    (same : place g = place g') : g = g' := by
  apply Gpio.NanoPi.pinBank_injective isInside isInside'
  rw [(place_eq isInside).1, (place_eq isInside').1, same]

theorem pinBank_eq {g : ℕ} {io : DeviceNanoPi} (isOpen : io.isopen = true) (isInside : Inside g) :
    pinBank g io = .ok (place g) := by
  rcases place_eq isInside with ⟨found, isBank, -⟩
  rw [Gpio.NanoPi.pxGetPinBank] at found
  rw [pinBank, pinBankLoop_eq]
  change (if (Gpio.NanoPi.pinBankLoop [22, 0, 17, 18, 16, 7, 14, 12] 0 g).1 < 8 then _ else _) = _
  split at found
  · case isTrue inBank =>
      rw [if_pos inBank, if_pos isOpen]
      exact congrArg Except.ok (Option.some.inj found)
  · cases found

/-! ### What is written of a pin -/

/-- The field of the mode of a pin. -/
def field (io : DeviceNanoPi) (p : ℕ × ℕ) : BitVec 4 :=
  getField ((io.bank p.1).CFG (p.2 / 8)) 4 (p.2 % 8)

/-- The field of the pull resistor of a pin. -/
def resistor (io : DeviceNanoPi) (p : ℕ × ℕ) : BitVec 2 :=
  getField ((io.bank p.1).PUL (p.2 / 16)) 2 (p.2 % 16)

/-- The level of a pin. -/
def level (io : DeviceNanoPi) (p : ℕ × ℕ) : Bool := (io.bank p.1).DAT.getLsbD p.2

/-- The registers with another mode of a pin. -/
def withField (io : DeviceNanoPi) (p : ℕ × ℕ) (f : BitVec 4) : DeviceNanoPi :=
  io.setCFG p.1 (p.2 / 8) (setField ((io.bank p.1).CFG (p.2 / 8)) 4 (p.2 % 8) f)

/-- The registers with another pull resistor of a pin. -/
def withResistor (io : DeviceNanoPi) (p : ℕ × ℕ) (v : BitVec 2) : DeviceNanoPi :=
  io.setPUL p.1 (p.2 / 16) (setField ((io.bank p.1).PUL (p.2 / 16)) 2 (p.2 % 16) v)

section Written

variable {io : DeviceNanoPi} {p q : ℕ × ℕ} {b r : ℕ} {word : BitVec 32}

theorem bank_setCFG (b' : ℕ) : (io.setCFG b r word).bank b' =
    { io.bank b' with
      CFG := if b' = b then Function.update (io.bank b').CFG r word else (io.bank b').CFG } := by
  change Function.update io.bank b _ b' = _
  by_cases here : b' = b
  · subst here
    rw [if_pos rfl, Function.update_self]
  · rw [if_neg here, Function.update_of_ne here]

theorem bank_setPUL (b' : ℕ) : (io.setPUL b r word).bank b' =
    { io.bank b' with
      PUL := if b' = b then Function.update (io.bank b').PUL r word else (io.bank b').PUL } := by
  change Function.update io.bank b _ b' = _
  by_cases here : b' = b
  · subst here
    rw [if_pos rfl, Function.update_self]
  · rw [if_neg here, Function.update_of_ne here]

theorem CFG_setCFG : ((io.setCFG b r word).bank b).CFG r = word := by
  rw [bank_setCFG, if_pos rfl]
  exact Function.update_self ..

theorem PUL_setPUL : ((io.setPUL b r word).bank b).PUL r = word := by
  rw [bank_setPUL, if_pos rfl]
  exact Function.update_self ..

theorem setCFG_setCFG {word' : BitVec 32} :
    (io.setCFG b r word).setCFG b r word' = io.setCFG b r word' := by
  rw [setCFG, bank_setCFG, if_pos rfl, Function.update_idem]
  exact congrArg (fun bank => { io with bank := bank }) (Function.update_idem ..)

theorem setPUL_setPUL {word' : BitVec 32} :
    (io.setPUL b r word).setPUL b r word' = io.setPUL b r word' := by
  rw [setPUL, bank_setPUL, if_pos rfl, Function.update_idem]
  exact congrArg (fun bank => { io with bank := bank }) (Function.update_idem ..)

theorem bank_setDAT (b' : ℕ) : (io.setDAT b word).bank b' =
    { io.bank b' with DAT := if b' = b then word else (io.bank b').DAT } := by
  change Function.update io.bank b _ b' = _
  by_cases here : b' = b
  · subst here
    rw [if_pos rfl, Function.update_self]
  · rw [if_neg here, Function.update_of_ne here]

theorem field_withField {f : BitVec 4} : (io.withField p f).field p = f := by
  rw [field, withField, bank_setCFG]
  simp only [if_true, Function.update_self]
  exact getField_setField (by omega)

theorem field_withField_of_ne {f : BitVec 4} (other : q ≠ p) :
    (io.withField p f).field q = io.field q := by
  rw [field, withField, bank_setCFG, field]
  dsimp only
  by_cases here : q.1 = p.1
  · rw [if_pos here, here]
    by_cases there : q.2 / 8 = p.2 / 8
    · rw [there, Function.update_self]
      apply getField_setField_of_ne
      intro same
      exact other (Prod.ext here (by omega))
    · rw [Function.update_of_ne there]
  · rw [if_neg here]

theorem resistor_withResistor {v : BitVec 2} : (io.withResistor p v).resistor p = v := by
  rw [resistor, withResistor, bank_setPUL]
  simp only [if_true, Function.update_self]
  exact getField_setField (by omega)

theorem resistor_withResistor_of_ne {v : BitVec 2} (other : q ≠ p) :
    (io.withResistor p v).resistor q = io.resistor q := by
  rw [resistor, withResistor, bank_setPUL, resistor]
  dsimp only
  by_cases here : q.1 = p.1
  · rw [if_pos here, here]
    by_cases there : q.2 / 16 = p.2 / 16
    · rw [there, Function.update_self]
      apply getField_setField_of_ne
      intro same
      exact other (Prod.ext here (by omega))
    · rw [Function.update_of_ne there]
  · rw [if_neg here]

theorem resistor_withField {f : BitVec 4} : (io.withField p f).resistor q = io.resistor q := by
  rw [resistor, withField, bank_setCFG, resistor]

theorem level_withField {f : BitVec 4} : (io.withField p f).level q = io.level q := by
  rw [level, withField, bank_setCFG, level]

theorem field_withResistor {v : BitVec 2} : (io.withResistor p v).field q = io.field q := by
  rw [field, withResistor, bank_setPUL, field]

theorem level_withResistor {v : BitVec 2} : (io.withResistor p v).level q = io.level q := by
  rw [level, withResistor, bank_setPUL, level]

theorem field_setDAT : (io.setDAT b word).field q = io.field q := by
  rw [field, bank_setDAT, field]

theorem resistor_setDAT : (io.setDAT b word).resistor q = io.resistor q := by
  rw [resistor, bank_setDAT, resistor]

theorem level_setDAT (same : ∀ i, i < 32 → i ≠ p.2 → word.getLsbD i = (io.bank p.1).DAT.getLsbD i)
    (small : q.2 < 32) : (io.setDAT p.1 word).level q =
      if q = p then word.getLsbD p.2 else io.level q := by
  rw [level, bank_setDAT, level]
  dsimp only
  by_cases isPin : q = p
  · rw [if_pos isPin, isPin, if_pos rfl]
  · rw [if_neg isPin]
    by_cases here : q.1 = p.1
    · rw [if_pos here, here]
      exact same q.2 small fun there => isPin (Prod.ext here there)
    · rw [if_neg here]

end Written

/-! ### The operations -/

/-- The mode that a field stands for. -/
def decode (f : BitVec 3) : PinMode :=
  if f = 0 then .modeInput
  else if f = 1 then .modeOutput
  else if f = 2 then .modeAlt2
  else if f = 3 then .modeAlt3
  else if f = 4 then .modeAlt4
  else if f = 5 then .modeAlt5
  else if f = 6 then .modeAlt6
  else .modeDisabled

/-- The mode that is shown for the lower bits of the field. -/
def shown (g : ℕ) (f : BitVec 3) : PinMode :=
  if decode f = .modeAlt3 ∧ (g = 5 ∨ g = 6) ∨ decode f = .modeAlt2 ∧ g = 104 then .modePwm
  else decode f

/-- The pull resistor that a field stands for. -/
def shownPull (v : BitVec 2) : PinPull :=
  if v = 0 then .pullOff else if v = 2 then .pullDown else if v = 1 then .pullUp else .pullUnknown

/-- What is seen of a pin. -/
def view (io : DeviceNanoPi) (g : ℕ) : PinView :=
  ⟨shown g ((io.field (place g)).setWidth 3), shownPull (io.resistor (place g)),
    io.level (place g)⟩

/-- The field that is written for a mode. -/
def code (g : ℕ) (m : PinMode) : Except GpioThrow (BitVec 4) := do
  let m ← pwmMode g m
  let v ← mode2int m
  pure (v.setWidth 4)

section Operations

variable {io : DeviceNanoPi} {g : ℕ} (isOpen : io.isopen = true) (isInside : Inside g)

include isOpen isInside

theorem mode_eq : mode g io = .ok (shown g ((io.field (place g)).setWidth 3)) := by
  have index : ∀ f, (f - f / 8 * 8) * 4 = 4 * (f % 8) := by omega
  have mask : (7 : BitVec 32) = (BitVec.allOnes 3).setWidth 32 := by decide
  have read3 : ∀ (word : BitVec 32) j, word >>> (4 * j) &&& 7 =
      ((getField word 4 j).setWidth 3).setWidth 32 := by
    intro word j
    apply BitVec.eq_of_getLsbD_eq
    intro bit inside
    rw [mask, BitVec.getLsbD_and, BitVec.getLsbD_ushiftRight, BitVec.getLsbD_setWidth,
      BitVec.getLsbD_setWidth, BitVec.getLsbD_setWidth, getLsbD_getField, BitVec.getLsbD_allOnes]
    by_cases low : bit < 3
    · have within : bit < 4 := by omega
      simp [inside, low, within]
    · simp [low]
  have decoded : ∀ f : BitVec 3, int2mode (f.setWidth 32).toNat = .ok (decode f) := by decide
  rw [mode, pinBank_eq isOpen isInside]
  change (do
    let ret ← int2mode ((io.bank (place g).1).CFG ((place g).2 / 8) >>>
      (((place g).2 - (place g).2 / 8 * 8) * 4) &&& 7).toNat
    _) = _
  rw [index, read3]
  change (do
    let ret ← int2mode (((io.field (place g)).setWidth 3).setWidth 32).toNat
    _) = _
  rw [decoded]
  rfl

theorem pull_eq : pull g io = .ok (shownPull (io.resistor (place g))) := by
  have index : ∀ f, (f - f / 16 * 16) * 2 = 2 * (f % 16) := by omega
  have mask : (3 : BitVec 32) = (BitVec.allOnes 2).setWidth 32 := by decide
  have decoded : ∀ v : BitVec 2, (if v.setWidth 32 = 0 then PinPull.pullOff
      else if v.setWidth 32 = 2 then .pullDown else if v.setWidth 32 = 1 then .pullUp
      else .pullUnknown) = shownPull v := by decide
  rw [pull, pinBank_eq isOpen isInside]
  rw [← decoded, resistor, ← shiftRight_and_eq_getField, ← mask, ← index]
  rfl

theorem read_eq : read g io = .ok (io.level (place g)) := by
  rw [read, pinBank_eq isOpen isInside]
  exact congrArg Except.ok decide_and_bit

theorem setMode_eq (m : PinMode) : setMode g m io = (code g m).map (io.withField (place g)) := by
  have index : ∀ f, (f - f / 8 * 8) * 4 = 4 * (f % 8) := by omega
  have mask : 0b1111#32 = (BitVec.allOnes 4).setWidth 32 := by decide
  have narrow : ∀ m v, mode2int m = .ok v → (v.setWidth 4).setWidth 32 = v := by
    intro m v isCode
    cases m <;> cases isCode <;> decide
  simp only [setMode, pinBank_eq isOpen isInside, code, bind, Except.bind]
  cases pwmMode g m with
  | error e => rfl
  | ok m' =>
      dsimp only
      cases isCode : mode2int m' with
      | error e => rfl
      | ok v =>
          change Except.ok (setCFG _ _ _ (setCFG _ _ _ _)) =
            Except.ok (io.withField (place g) (v.setWidth 4))
          rw [setCFG_setCFG, CFG_setCFG, index, mask, withField, setField, narrow m' v isCode]
          rfl

theorem setPull_eq (p : PinPull) : setPull g p io = .ok (match pullCode p with
    | some v => io.withResistor (place g) (v.setWidth 2)
    | none => io) := by
  have index : ∀ f, (f - f / 16 * 16) * 2 = 2 * (f % 16) := by omega
  have mask : 0b11#32 = (BitVec.allOnes 2).setWidth 32 := by decide
  have narrow : ∀ p v, pullCode p = some v → (v.setWidth 2).setWidth 32 = v := by
    intro p v isCode
    cases p <;> cases isCode <;> decide
  rw [setPull, pinBank_eq isOpen isInside]
  cases isCode : pullCode p with
  | none => rfl
  | some v =>
      change Except.ok (setPUL _ _ _ (setPUL _ _ _ _)) =
        Except.ok (io.withResistor (place g) (v.setWidth 2))
      rw [setPUL_setPUL, PUL_setPUL, index, mask, withResistor, setField, narrow p v isCode]
      rfl

omit isOpen isInside in
/-- A word for DAT in which only the bit of the pin may be another. -/
theorem view_setDAT {word : BitVec 32} {g' : ℕ} (isInside : Inside g) (isInside' : Inside g')
    (same : ∀ i, i < 32 → i ≠ (place g).2 →
      word.getLsbD i = (io.bank (place g).1).DAT.getLsbD i) :
    view (io.setDAT (place g).1 word) g' =
      { view io g' with
        level := if g' = g then word.getLsbD (place g).2 else (view io g').level } := by
  have samePlace : place g' = place g ↔ g' = g :=
    ⟨place_injective isInside' isInside, fun same => by rw [same]⟩
  rw [view, field_setDAT, resistor_setDAT, level_setDAT same (place_eq isInside').2.2,
    if_congr samePlace rfl rfl]
  rfl

end Operations

/-! ### The device refines pins apart -/

section Refines

variable {io : DeviceNanoPi} {g : ℕ}

theorem shown_known (f : BitVec 3) : shown g f ≠ .modeUnknown := by
  have known : ∀ f : BitVec 3, decode f ≠ .modeUnknown := by decide
  rw [shown]
  split
  · decide
  · exact known f

/-- A mode that is shown is written as the function that shows it. -/
theorem code_shown (f : BitVec 3) : code g (shown g f) = .ok (f.setWidth 4) := by
  have back : ∀ f : BitVec 3, (do
      let v ← mode2int (decode f)
      pure (v.setWidth 4) : Except GpioThrow (BitVec 4)) = .ok (f.setWidth 4) := by decide
  have noPwm : ∀ f : BitVec 3, decode f ≠ .modePwm := by decide
  rw [code, shown]
  split
  · case isTrue pwm =>
      have written : pwmMode g .modePwm = .ok (decode f) := by
        rcases pwm with ⟨isAlt, first⟩ | ⟨isAlt, last⟩
        · rw [pwmMode, if_pos rfl, if_pos first, isAlt]
        · have notFirst : ¬(g = 5 ∨ g = 6) := by omega
          rw [pwmMode, if_pos rfl, if_neg notFirst, if_pos last, isAlt]
      rw [written]
      exact back f
  · rw [pwmMode, if_neg (noPwm f)]
    exact back f

theorem view_withField_of_ne {f : BitVec 4} {g' : ℕ} (isInside : Inside g) (isInside' : Inside g')
    (other : g' ≠ g) : view (io.withField (place g) f) g' = view io g' := by
  have otherPlace : place g' ≠ place g := fun same =>
    other (place_injective isInside' isInside same)
  rw [view, field_withField_of_ne otherPlace, resistor_withField, level_withField, view]

theorem view_withResistor_of_ne {v : BitVec 2} {g' : ℕ} (isInside : Inside g)
    (isInside' : Inside g') (other : g' ≠ g) :
    view (io.withResistor (place g) v) g' = view io g' := by
  have otherPlace : place g' ≠ place g := fun same =>
    other (place_injective isInside' isInside same)
  rw [view, resistor_withResistor_of_ne otherPlace, field_withResistor, level_withResistor, view]

/-- What a word for DAT is to the pins in which only the bit of one pin may be another. -/
theorem setDAT_step {word : BitVec 32} (isInside : Inside g)
    (same : ∀ i, i < 32 → i ≠ (place g).2 →
      word.getLsbD i = (io.bank (place g).1).DAT.getLsbD i) :
    OthersSame Inside (view io) (view (io.setDAT (place g).1 word)) g ∧
      (view (io.setDAT (place g).1 word) g).mode = (view io g).mode ∧
      (view (io.setDAT (place g).1 word) g).pull = (view io g).pull ∧
      (view (io.setDAT (place g).1 word) g).level = word.getLsbD (place g).2 := by
  refine ⟨fun g' isInside' other => ?_, ?_⟩
  · rw [view_setDAT isInside isInside' same, if_neg other]
  · rw [view_setDAT isInside isInside same]
    exact ⟨rfl, rfl, if_pos rfl⟩

theorem device_refines : device.Refines Inside view where
  opened := by
    intro maps regs next opened
    change openDevice maps regs = .ok next at opened
    rw [openDevice] at opened
    split at opened
    · cases opened
      exact ⟨by assumption, rfl⟩
    · split at opened
      · cases opened
        exact ⟨rfl, rfl⟩
      · cases opened
  closed := fun _ => rfl
  known := fun _ _ _ => shown_known _
  unreadable := fun readable => by cases readable
  mode := mode_eq
  setMode := by
    intro regs g m next isOpen isInside told
    change setMode g m regs = .ok next at told
    rw [setMode_eq isOpen isInside] at told
    cases isCode : code g m with
    | error e =>
        rw [isCode] at told
        cases told
    | ok f =>
        rw [isCode] at told
        cases told
        refine ⟨isOpen, fun g' isInside' other => view_withField_of_ne isInside isInside' other, ?_⟩
        exact congrArg shownPull resistor_withField
  setModeBack := by
    intro regs g before isOpen isInside
    have wide : ∀ f : BitVec 3, (f.setWidth 4).setWidth 3 = f := by decide
    refine ⟨regs.withField (place g) (((before.field (place g)).setWidth 3).setWidth 4), ?_, ?_⟩
    · change setMode g (shown g ((before.field (place g)).setWidth 3)) regs = _
      rw [setMode_eq isOpen isInside, code_shown]
      rfl
    · change shown g ((DeviceNanoPi.field _ _).setWidth 3) = _
      rw [field_withField, wide]
      rfl
  pull := pull_eq
  setPull := by
    intro regs g p isOpen isInside
    refine ⟨_, setPull_eq isOpen isInside p, ?_⟩
    have back : ∀ p v, pullCode p = some v → p ≠ .pullUnknown ∧ shownPull (v.setWidth 2) = p := by
      intro p v isCode
      cases p <;> cases isCode <;> decide
    cases isCode : pullCode p with
    | none =>
        refine ⟨isOpen, fun _ _ _ => rfl, rfl, rfl, fun _ => ?_⟩
        cases p with
        | pullUnknown => rfl
        | pullOff => cases isCode
        | pullDown => cases isCode
        | pullUp => cases isCode
    | some v =>
        refine ⟨isOpen, fun g' isInside' other => view_withResistor_of_ne isInside isInside' other,
          ?_, level_withResistor, fun _ => ?_⟩
        · exact congrArg (fun f : BitVec 4 => shown g (f.setWidth 3)) field_withResistor
        · rw [if_neg (back p v isCode).1]
          exact (congrArg shownPull resistor_withResistor).trans (back p v isCode).2
  write := by
    intro regs g v isOpen isInside
    have told : write g v regs = .ok (regs.setDAT (place g).1
        (putBit (regs.bank (place g).1).DAT (place g).2 v)) := by
      rw [write, pinBank_eq isOpen isInside]
      cases v <;> rfl
    rcases setDAT_step isInside fun i inside other =>
        (getLsbD_putBit inside).trans (if_neg other) with ⟨others, sameMode, samePull, isLevel⟩
    refine ⟨_, told, isOpen, others, sameMode, samePull, fun _ => isLevel.trans ?_⟩
    rw [getLsbD_putBit (place_eq isInside).2.2, if_pos rfl]
  read := read_eq
  toggle := by
    intro regs g _ isOpen isInside
    have told : toggle g regs = .ok (regs.setDAT (place g).1
        ((regs.bank (place g).1).DAT ^^^ 1#32 <<< (place g).2)) := by
      rw [toggle, pinBank_eq isOpen isInside]
      rfl
    rcases setDAT_step isInside fun i inside other => by
        rw [getLsbD_flip inside, decide_eq_false other, Bool.xor_false] with
      ⟨others, sameMode, samePull, isLevel⟩
    refine ⟨_, told, isOpen, others, sameMode, samePull, fun _ => isLevel.trans ?_⟩
    rw [getLsbD_flip (place_eq isInside).2.2, decide_eq_true rfl, Bool.xor_true]
    rfl

end Refines

end DeviceNanoPi

end Sysio.Board
