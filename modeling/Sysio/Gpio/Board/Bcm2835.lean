import Sysio.Gpio.Board.Device
import Sysio.Lib.Bits
import Sysio.Lib.Fields

/-!
# The device of `arch/arm/rpi/gpiodevice_bcm2835.cpp`

The function of a pin is a field of 3 bits of a GFPSEL register. Its level is set and cleared by
registers of their own, and read from the GPLEV registers: of an output it is the level that has
been set, of the other pins what comes in. The pull resistors are told by a sequence of writes, and
cannot be read.
-/

namespace Sysio.Board

/-- The registers, as the peripheral behind them has them. -/
structure Bcm2835 where
  isopen : Bool
  gfpsel : ℕ → BitVec 32
  out : ℕ → BitVec 32
  pad : ℕ → BitVec 32
  pud : BitVec 32
  resistor : ℕ → BitVec 2

namespace Bcm2835

def gfpsel0 : ℕ := 0
def gfpsel5 : ℕ := 5
def gpset0 : ℕ := 7
def gpset1 : ℕ := 8
def gpclr0 : ℕ := 10
def gpclr1 : ℕ := 11
def gplev0 : ℕ := 13
def gplev1 : ℕ := 14
def gppud : ℕ := 37
def gppudclk0 : ℕ := 38
def gppudclk1 : ℕ := 39

/-! ### The peripheral -/

/-- The function of a pin. -/
def function (io : Bcm2835) (g : ℕ) : BitVec 3 := getField (io.gfpsel (g / 10)) 3 (g % 10)

/-- The level of a pin: what has been set for an output, what is at the pad for others. -/
def level (io : Bcm2835) (g : ℕ) : Bool :=
  if io.function g = 1 then (io.out (g / 32)).getLsbD (g % 32)
  else (io.pad (g / 32)).getLsbD (g % 32)

/-- What a read of a register gives. -/
def readReg (io : Bcm2835) (offset : ℕ) : BitVec 32 :=
  if offset ≤ gfpsel5 then io.gfpsel offset
  else if offset = gplev0 ∨ offset = gplev1 then
    ofBits 32 fun i => io.level (32 * (offset - gplev0) + i)
  else if offset = gppud then io.pud
  else 0

/-- Only the pins that receive a clock take over what GPPUD controls. -/
def writeReg (offset : ℕ) (value : BitVec 32) (io : Bcm2835) : Bcm2835 :=
  if offset ≤ gfpsel5 then { io with gfpsel := Function.update io.gfpsel offset value }
  else if offset = gpset0 ∨ offset = gpset1 then
    { io with
      out := Function.update io.out (offset - gpset0) (io.out (offset - gpset0) ||| value) }
  else if offset = gpclr0 ∨ offset = gpclr1 then
    { io with
      out := Function.update io.out (offset - gpclr0) (io.out (offset - gpclr0) &&& ~~~value) }
  else if offset = gppud then { io with pud := value }
  else if offset = gppudclk0 ∨ offset = gppudclk1 then
    { io with
      resistor := fun g =>
        if g / 32 = offset - gppudclk0 ∧ value.getLsbD (g % 32) = true then io.pud.setWidth 2
        else io.resistor g }
  else io

/-! ### The device -/

/-- The mode of a function. -/
def int2mode : ℕ → Except GpioThrow PinMode
  | 0 => .ok .modeInput
  | 1 => .ok .modeOutput
  | 4 => .ok .modeAlt0
  | 5 => .ok .modeAlt1
  | 6 => .ok .modeAlt2
  | 7 => .ok .modeAlt3
  | 3 => .ok .modeAlt4
  | 2 => .ok .modeAlt5
  | _ => .error .outOfRange

/-- The function of a mode. -/
def mode2int : PinMode → Except GpioThrow (BitVec 32)
  | .modeInput => .ok 0
  | .modeOutput => .ok 1
  | .modeAlt0 => .ok 4
  | .modeAlt1 => .ok 5
  | .modeAlt2 => .ok 6
  | .modeAlt3 => .ok 7
  | .modeAlt4 => .ok 3
  | .modeAlt5 => .ok 2
  | _ => .error .outOfRange

/-- An access to registers that are not mapped. -/
def mapped {α : Type} (io : Bcm2835) (value : Except GpioThrow α) : Except GpioThrow α :=
  if io.isopen then value else .error .undefined

/-- The registers are mapped, or this throws. -/
def openDevice (maps : Bool) (io : Bcm2835) : Except GpioThrow Bcm2835 :=
  if io.isopen then .ok io
  else if maps then .ok { io with isopen := true }
  else .error .systemError

/-- The registers are unmapped. -/
def close (io : Bcm2835) : Bcm2835 := { io with isopen := false }

/-- The mode of a pin; two functions are the PWM of some pins. -/
def mode (g : ℕ) (io : Bcm2835) : Except GpioThrow PinMode :=
  io.mapped do
    let r := io.readReg (gfpsel0 + g / 10) >>> (g % 10 * 3) &&& 7
    let m ← int2mode r.toNat
    pure (if m = .modeAlt0 ∧ (g = 12 ∨ g = 13) ∨ m = .modeAlt5 ∧ (g = 18 ∨ g = 19) then .modePwm
      else m)

/-- The mode that is set for `ModePwm`. -/
def pwmMode (g : ℕ) (m : PinMode) : Except GpioThrow PinMode :=
  if m = .modePwm then
    if g = 12 ∨ g = 13 then .ok .modeAlt0
    else if g = 18 ∨ g = 19 then .ok .modeAlt5
    else .error .invalidArgument
  else .ok m

/-- The function of a pin is written. -/
def setMode (g : ℕ) (m : PinMode) (io : Bcm2835) : Except GpioThrow Bcm2835 :=
  io.mapped do
    let m ← pwmMode g m
    let offset := gfpsel0 + g / 10
    let lsr := g % 10 * 3
    let rval := io.readReg offset &&& ~~~(7#32 <<< lsr)
    let mval ← mode2int m
    pure (io.writeReg offset (rval ||| mval <<< lsr))

/-- GPPUD is set, the pin gets a clock, and both are taken back. -/
def setPull (g : ℕ) (p : PinPull) (io : Bcm2835) : Except GpioThrow Bcm2835 :=
  let pclk := if 31 < g then gppudclk0 + 1 else gppudclk0
  let bit := if 31 < g then g - 32 else g
  let told (pval : BitVec 32) : Except GpioThrow Bcm2835 :=
    let controlled := (io.writeReg gppud pval).writeReg pclk (1#32 <<< bit)
    io.mapped (.ok ((controlled.writeReg gppud 0).writeReg pclk 0))
  match p with
  | .pullOff => told 0
  | .pullDown => told 1
  | .pullUp => told 2
  | .pullUnknown => .ok io

/-- A bit is written to the register that sets the pins, or to the one that clears them. -/
def write (g : ℕ) (v : Bool) (io : Bcm2835) : Except GpioThrow Bcm2835 :=
  let offset := if v then gpset0 else gpclr0
  io.mapped (.ok (if 31 < g then io.writeReg (offset + 1) (1#32 <<< (g - 32))
    else io.writeReg offset (1#32 <<< g)))

/-- The bit of the pin in the register of the levels. -/
def read (g : ℕ) (io : Bcm2835) : Except GpioThrow Bool :=
  io.mapped (.ok (if 31 < g then decide (io.readReg (gplev0 + 1) &&& 1#32 <<< (g - 32) ≠ 0)
    else decide (io.readReg gplev0 &&& 1#32 <<< g ≠ 0)))

/-- `pull` and `toggle` are those of the class `Device`. -/
def device : Device Bcm2835 where
  hasPullRead := false
  hasToggle := false
  isOpen := Bcm2835.isopen
  openDevice := openDevice
  close := close
  mode := mode
  setMode := setMode
  pull := fun _ _ => .ok .pullUnknown
  setPull := setPull
  write := write
  read := read
  toggle := fun _ io => .ok io

/-! ### Pins apart -/

/-- The pins of the peripheral. -/
def Inside (g : ℕ) : Prop := g < 54

/-- The mode that a function stands for. -/
def decode (f : BitVec 3) : PinMode :=
  if f = 0 then .modeInput
  else if f = 1 then .modeOutput
  else if f = 2 then .modeAlt5
  else if f = 3 then .modeAlt4
  else if f = 4 then .modeAlt0
  else if f = 5 then .modeAlt1
  else if f = 6 then .modeAlt2
  else .modeAlt3

/-- The mode that is shown for a function of the pin. -/
def shown (g : ℕ) (f : BitVec 3) : PinMode :=
  if decode f = .modeAlt0 ∧ (g = 12 ∨ g = 13) ∨ decode f = .modeAlt5 ∧ (g = 18 ∨ g = 19) then
    .modePwm
  else decode f

/-- What is seen of a pin. -/
def view (io : Bcm2835) (g : ℕ) : PinView := ⟨shown g (io.function g), .pullUnknown, io.level g⟩

/-- The peripheral with another function of a pin. -/
def withFunction (io : Bcm2835) (g : ℕ) (f : BitVec 3) : Bcm2835 :=
  { io with
    gfpsel := Function.update io.gfpsel (g / 10) (setField (io.gfpsel (g / 10)) 3 (g % 10) f) }

/-- The peripheral with another level set for a pin. -/
def withOut (io : Bcm2835) (g : ℕ) (v : Bool) : Bcm2835 :=
  { io with out := Function.update io.out (g / 32) (putBit (io.out (g / 32)) (g % 32) v) }

section Fields

variable {io : Bcm2835} {g g' : ℕ} {f : BitVec 3} {v : Bool}

theorem function_withFunction : (io.withFunction g f).function g = f := by
  rw [function, withFunction]
  dsimp only
  rw [Function.update_self]
  exact getField_setField (by omega)

theorem function_withFunction_of_ne (other : g' ≠ g) :
    (io.withFunction g f).function g' = io.function g' := by
  rw [function, withFunction, function]
  dsimp only
  by_cases same : g' / 10 = g / 10
  · rw [same, Function.update_self]
    apply getField_setField_of_ne
    omega
  · rw [Function.update_of_ne same]

theorem level_withFunction_of_ne (other : g' ≠ g) :
    (io.withFunction g f).level g' = io.level g' := by
  rw [level, function_withFunction_of_ne other, level]
  rfl

theorem getLsbD_withOut : ((io.withOut g v).out (g' / 32)).getLsbD (g' % 32) =
    if g' = g then v else (io.out (g' / 32)).getLsbD (g' % 32) := by
  have small : g' % 32 < 32 := Nat.mod_lt _ (by decide)
  rw [withOut]
  dsimp only
  by_cases sameWord : g' / 32 = g / 32
  · have samePin : g' % 32 = g % 32 ↔ g' = g := by omega
    rw [sameWord, Function.update_self, getLsbD_putBit small]
    exact if_congr samePin rfl rfl
  · have other : g' ≠ g := fun same => sameWord (by rw [same])
    rw [Function.update_of_ne sameWord, if_neg other]

theorem level_withOut (isOutput : io.function g = 1) : (io.withOut g v).level g = v := by
  change (if io.function g = 1 then _ else _) = v
  rw [if_pos isOutput, getLsbD_withOut, if_pos rfl]

theorem level_withOut_of_ne (other : g' ≠ g) : (io.withOut g v).level g' = io.level g' := by
  change (if io.function g' = 1 then _ else _) = _
  rw [getLsbD_withOut, if_neg other]
  rfl

end Fields

/-! ### The operations -/

section Operations

variable {io : Bcm2835} {g : ℕ}

theorem mapped_of_isopen {α : Type} (isOpen : io.isopen = true) (value : Except GpioThrow α) :
    io.mapped value = value :=
  if_pos isOpen

theorem readReg_gfpsel (isInside : Inside g) :
    io.readReg (gfpsel0 + g / 10) = io.gfpsel (g / 10) := by
  have place : gfpsel0 + g / 10 = g / 10 := Nat.zero_add _
  have inside : g / 10 ≤ gfpsel5 := by
    rw [Inside] at isInside
    rw [gfpsel5]
    omega
  rw [place, readReg, if_pos inside]

theorem writeReg_gfpsel (isInside : Inside g) {word : BitVec 32} :
    io.writeReg (gfpsel0 + g / 10) word =
      { io with gfpsel := Function.update io.gfpsel (g / 10) word } := by
  have place : gfpsel0 + g / 10 = g / 10 := Nat.zero_add _
  have inside : g / 10 ≤ gfpsel5 := by
    rw [Inside] at isInside
    rw [gfpsel5]
    omega
  rw [place, writeReg, if_pos inside]

theorem int2mode_toNat (f : BitVec 3) : int2mode f.toNat = .ok (decode f) := by
  revert f
  decide

theorem mode_eq (isOpen : io.isopen = true) (isInside : Inside g) :
    mode g io = .ok (shown g (io.function g)) := by
  have isField : io.gfpsel (g / 10) >>> (g % 10 * 3) &&& 7 = (io.function g).setWidth 32 := by
    have mask : (7 : BitVec 32) = (BitVec.allOnes 3).setWidth 32 := by decide
    rw [Nat.mul_comm, mask, shiftRight_and_eq_getField]
    rfl
  have isNat : ((io.function g).setWidth 32).toNat = (io.function g).toNat :=
    BitVec.toNat_setWidth_of_le (by decide)
  rw [mode, mapped_of_isopen isOpen, readReg_gfpsel isInside]
  dsimp only
  rw [isField, isNat, int2mode_toNat]
  rfl

/-- The function that is written for a mode. -/
def code (g : ℕ) (m : PinMode) : Except GpioThrow (BitVec 3) := do
  let m ← pwmMode g m
  let mval ← mode2int m
  pure (mval.setWidth 3)

theorem setMode_eq (isOpen : io.isopen = true) (isInside : Inside g) (m : PinMode) :
    setMode g m io = (code g m).map (io.withFunction g) := by
  have mask : 7#32 = (BitVec.allOnes 3).setWidth 32 := by decide
  have narrow : ∀ m mval, mode2int m = .ok mval → (mval.setWidth 3).setWidth 32 = mval := by
    intro m mval isCode
    cases m <;> cases isCode <;> decide
  rw [setMode, mapped_of_isopen isOpen, code]
  cases isMode : pwmMode g m with
  | error e => rfl
  | ok m' =>
      cases isCode : mode2int m' with
      | error e =>
          change (do let mval ← mode2int m'; _) = (do let mval ← mode2int m'; _ : Except _ _).map _
          rw [isCode]
          rfl
      | ok mval =>
          change (do let mval ← mode2int m'; _) = (do let mval ← mode2int m'; _ : Except _ _).map _
          rw [isCode]
          change Except.ok (io.writeReg _ _) = Except.ok (io.withFunction g (mval.setWidth 3))
          rw [readReg_gfpsel isInside, writeReg_gfpsel isInside, mask, Nat.mul_comm, withFunction,
            setField, narrow m' mval isCode]
          rfl

/-- The bank and the bit of a pin in the registers with a bit for each pin. -/
theorem bank_eq (isInside : Inside g) :
    (31 < g ∧ g / 32 = 1 ∧ g % 32 = g - 32) ∨ (¬31 < g ∧ g / 32 = 0 ∧ g % 32 = g) := by
  rw [Inside] at isInside
  omega

theorem write_eq (isOpen : io.isopen = true) (isInside : Inside g) (v : Bool) :
    write g v io = .ok (io.withOut g v) := by
  rw [write, mapped_of_isopen isOpen, withOut]
  rcases bank_eq isInside with ⟨high, isBank, isBit⟩ | ⟨low, isBank, isBit⟩
  · rw [if_pos high, isBank, isBit]
    cases v <;> rfl
  · rw [if_neg low, isBank, isBit]
    cases v <;> rfl

theorem read_eq (isOpen : io.isopen = true) (isInside : Inside g) :
    read g io = .ok (io.level g) := by
  have isLevel : ∀ bank bit, bank < 2 → bit < 32 → 32 * bank + bit = g →
      decide (io.readReg (gplev0 + bank) &&& 1#32 <<< bit ≠ 0) = io.level g := by
    intro bank bit isBank small isPin
    have isWord : io.readReg (gplev0 + bank) = ofBits 32 fun i => io.level (32 * bank + i) := by
      have cases_ : bank = 0 ∨ bank = 1 := by omega
      rcases cases_ with rfl | rfl <;> rfl
    rw [isWord, decide_and_bit, getLsbD_ofBits small, isPin]
  rw [read, mapped_of_isopen isOpen]
  rcases bank_eq isInside with ⟨high, isBank, isBit⟩ | ⟨low, isBank, isBit⟩
  · rw [if_pos high, isLevel 1 (g - 32) (by decide) (by omega) (by omega)]
  · have isLevel0 := isLevel 0 g (by decide) (by omega) (by omega)
    rw [if_neg low]
    exact congrArg Except.ok isLevel0

theorem writeReg_gppud {value : BitVec 32} : io.writeReg gppud value = { io with pud := value } :=
  rfl

theorem writeReg_gppudclk {bank : ℕ} (isBank : bank < 2) {value : BitVec 32} :
    io.writeReg (gppudclk0 + bank) value =
      { io with
        resistor := fun g =>
          if g / 32 = bank ∧ value.getLsbD (g % 32) = true then io.pud.setWidth 2
          else io.resistor g } := by
  have cases_ : bank = 0 ∨ bank = 1 := by omega
  rcases cases_ with rfl | rfl <;> rfl

/-- The sequence of `setPull` takes the control signal to the resistor of one pin, and away. -/
theorem pull_sequence (bank bit : ℕ) (isBank : bank < 2) (small : bit < 32)
    (isPin : 32 * bank + bit = g) (pval : BitVec 32) :
    (((io.writeReg gppud pval).writeReg (gppudclk0 + bank) (1#32 <<< bit)).writeReg gppud
        0).writeReg (gppudclk0 + bank) 0 =
      { io with pud := 0, resistor := Function.update io.resistor g (pval.setWidth 2) } := by
  have zero : ∀ i, (0 : BitVec 32).getLsbD i = false := fun i => BitVec.getLsbD_zero
  have clocked : ∀ g', (g' / 32 = bank ∧ (1#32 <<< bit).getLsbD (g' % 32) = true) ↔ g' = g := by
    intro g'
    have inside : g' % 32 < 32 := Nat.mod_lt _ (by decide)
    rw [← BitVec.twoPow_eq, BitVec.getLsbD_twoPow, Bool.and_eq_true, decide_eq_true_iff,
      decide_eq_true_iff]
    omega
  rw [writeReg_gppud, writeReg_gppudclk isBank, writeReg_gppud, writeReg_gppudclk isBank]
  have isResistor : (fun g' => if g' / 32 = bank ∧ (0 : BitVec 32).getLsbD (g' % 32) = true then
      (0 : BitVec 32).setWidth 2 else if g' / 32 = bank ∧ (1#32 <<< bit).getLsbD (g' % 32) = true
        then pval.setWidth 2 else io.resistor g') =
      Function.update io.resistor g (pval.setWidth 2) := by
    funext g'
    rw [if_neg fun clock => Bool.false_ne_true ((zero _).symm.trans clock.2),
      Function.update_apply]
    exact if_congr (clocked g') rfl rfl
  exact congrArg (fun resistor => { io with pud := 0, resistor := resistor }) isResistor

/-- The code of a pull resistor. -/
def control : PinPull → BitVec 2
  | .pullDown => 1
  | .pullUp => 2
  | _ => 0

theorem setPull_eq (isOpen : io.isopen = true) (isInside : Inside g) {p : PinPull}
    (known : p ≠ .pullUnknown) : setPull g p io = .ok
      { io with pud := 0, resistor := Function.update io.resistor g (control p) } := by
  have told : ∀ pval : BitVec 32, io.mapped (.ok ((((io.writeReg gppud pval).writeReg
      (if 31 < g then gppudclk0 + 1 else gppudclk0)
      (1#32 <<< (if 31 < g then g - 32 else g))).writeReg gppud 0).writeReg
      (if 31 < g then gppudclk0 + 1 else gppudclk0) 0)) = .ok
        { io with pud := 0, resistor := Function.update io.resistor g (pval.setWidth 2) } := by
    intro pval
    rw [mapped_of_isopen isOpen]
    rcases bank_eq isInside with ⟨high, isBank, isBit⟩ | ⟨low, isBank, isBit⟩
    · have isPin : 32 * 1 + (g - 32) = g := by omega
      rw [if_pos high, if_pos high]
      exact congrArg Except.ok (pull_sequence 1 (g - 32) (by decide) (by omega) isPin pval)
    · have isPin : 32 * 0 + g = g := by omega
      rw [if_neg low, if_neg low]
      exact congrArg Except.ok (pull_sequence 0 g (by decide) (by omega) isPin pval)
  cases p with
  | pullOff => exact told 0
  | pullDown => exact told 1
  | pullUp => exact told 2
  | pullUnknown => exact absurd rfl known

end Operations

/-! ### The device refines pins apart -/

section Refines

variable {io next : Bcm2835} {g : ℕ}

theorem shown_known (f : BitVec 3) : shown g f ≠ .modeUnknown := by
  have known : ∀ f : BitVec 3, decode f ≠ .modeUnknown := by decide
  rw [shown]
  split
  · decide
  · exact known f

/-- Only an output is shown as one. -/
theorem shown_output {f : BitVec 3} (isOutput : shown g f = .modeOutput) : f = 1 := by
  have only : ∀ f : BitVec 3, decode f = .modeOutput → f = 1 := by decide
  rw [shown] at isOutput
  split at isOutput
  · cases isOutput
  · exact only f isOutput

/-- A mode that is shown is written as the function that shows it. -/
theorem code_shown (f : BitVec 3) : code g (shown g f) = .ok f := by
  have back : ∀ f : BitVec 3, (do
      let mval ← mode2int (decode f)
      pure (mval.setWidth 3) : Except GpioThrow (BitVec 3)) = .ok f := by decide
  have noPwm : ∀ f : BitVec 3, decode f ≠ .modePwm := by decide
  rw [code, shown]
  split
  · case isTrue pwm =>
      have written : pwmMode g .modePwm = .ok (decode f) := by
        rcases pwm with ⟨isAlt, first⟩ | ⟨isAlt, second⟩
        · rw [pwmMode, if_pos rfl, if_pos first, isAlt]
        · have notFirst : ¬(g = 12 ∨ g = 13) := by omega
          rw [pwmMode, if_pos rfl, if_neg notFirst, if_pos second, isAlt]
      rw [written]
      exact back f
  · rw [pwmMode, if_neg (noPwm f)]
    exact back f

theorem device_refines : device.Refines Inside view where
  opened := by
    intro maps regs next opened
    change openDevice maps regs = .ok next at opened
    rw [openDevice] at opened
    split at opened
    · cases opened
      exact ⟨by assumption, rfl⟩
    · split at opened
      · cases opened
        exact ⟨rfl, rfl⟩
      · cases opened
  closed := fun _ => rfl
  known := fun _ _ _ => shown_known _
  unreadable := fun _ _ _ => rfl
  mode := mode_eq
  setMode := by
    intro regs g m next isOpen isInside told
    change setMode g m regs = .ok next at told
    rw [setMode_eq isOpen isInside] at told
    cases isCode : code g m with
    | error e =>
        rw [isCode] at told
        cases told
    | ok f =>
        rw [isCode] at told
        cases told
        refine ⟨isOpen, fun g' _ other => ?_, rfl⟩
        rw [view, function_withFunction_of_ne other, level_withFunction_of_ne other, view]
  setModeBack := by
    intro regs g before isOpen isInside
    refine ⟨regs.withFunction g (before.function g), ?_, ?_⟩
    · change setMode g (shown g (before.function g)) regs = _
      rw [setMode_eq isOpen isInside, code_shown]
      rfl
    · exact congrArg (shown g) function_withFunction
  pull := fun _ _ => rfl
  setPull := by
    intro regs g p isOpen isInside
    by_cases known : p = .pullUnknown
    · subst known
      exact ⟨regs, rfl, isOpen, fun _ _ _ => rfl, rfl, rfl, fun readable => by cases readable⟩
    · exact ⟨_, setPull_eq isOpen isInside known, isOpen, fun _ _ _ => rfl, rfl, rfl,
        fun readable => by cases readable⟩
  write := by
    intro regs g v isOpen isInside
    refine ⟨_, write_eq isOpen isInside v, isOpen, fun g' _ other => ?_, rfl, rfl, ?_⟩
    · rw [view, level_withOut_of_ne other]
      rfl
    · intro isOutput
      exact level_withOut (shown_output isOutput)
  read := read_eq
  toggle := fun hasToggle => by cases hasToggle

end Refines

end Bcm2835

end Sysio.Board
