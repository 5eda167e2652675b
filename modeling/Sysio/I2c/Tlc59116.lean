import Mathlib.Algebra.Order.Ring.Int
import Mathlib.Logic.Function.Basic

/-!
# The controllers of `i2c/tlc59116.c`

A chip has registers of a byte. The driver keeps a copy of those of each controller, changes the
copy and writes from it. The chips stand beside the driver, by the bus and the address they answer
to; a transfer fails as `faults` says.
-/

namespace Sysio.I2c

namespace Tlc59116

def addrSub1 : BitVec 8 := 0x69

def mode1 : ℕ := 0x00
def mode2 : ℕ := 0x01
def pwm0 : ℕ := 0x02
def grppwm : ℕ := 0x12
def grpfreq : ℕ := 0x13
def ledout0 : ℕ := 0x14
def subadr1 : ℕ := 0x18
def iref : ℕ := 0x1C
def eflag1 : ℕ := 0x1D
def eflag2 : ℕ := 0x1E
/-- The registers of a chip. -/
def regBlockSize : ℕ := eflag2 - mode1 + 1

/-- The flag of the control byte with which a block goes on to the next register. -/
def aiAll : BitVec 8 := 1 <<< 7

/-- The bit that stops the oscillator. -/
def osc : BitVec 8 := 1 <<< 4
/-- The bit that clears the error flags. -/
def efclr : BitVec 8 := 1 <<< 7
/-- The bit that makes dimming blinking. -/
def dmblnk : BitVec 8 := 1 <<< 5

/-- The modes of an output. -/
inductive ELedRgbMode where
  | off
  | on
  | pwm
  | full

/-- The two bits of a mode. -/
def ELedRgbMode.code : ELedRgbMode → BitVec 8
  | off => 0
  | on => 1
  | pwm => 2
  | full => 3

/-- The PWM of the three pins. -/
structure XRgbColor where
  ucRed : BitVec 8
  ucGreen : BitVec 8
  ucBlue : BitVec 8

/-- An output, from 0 on, of a controller, from 0 on. -/
structure XTlc59116Pin where
  out : ℕ
  ctrl : ℕ
  deriving DecidableEq

/-- The three pins of a LED. -/
structure XTlc59116Led where
  red : XTlc59116Pin
  green : XTlc59116Pin
  blue : XTlc59116Pin
  deriving DecidableEq

/-- Where a chip is. -/
structure XTlc59116Config where
  i2cBus : String
  i2cAddr : ℕ
  deriving DecidableEq

/-- The bytes of the registers by their number. -/
abbrev Registers := ℕ → BitVec 8

/-- A controller, with what the driver has of its registers. -/
structure XTlc59116Ctrl where
  config : XTlc59116Config
  regs : Registers

/-! ### The chips -/

/-- The register after `reg` in a block. -/
def nextRegister (control : BitVec 8) (reg : ℕ) : ℕ :=
  if control.getLsbD 7 then reg + 1 else reg

/-- The error flags are not written. -/
def storeBlock (control : BitVec 8) : ℕ → List (BitVec 8) → Registers → Registers
  | _, [], chip => chip
  | reg, value :: values, chip =>
      storeBlock control (nextRegister control reg) values
        (if reg = eflag1 ∨ reg = eflag2 then chip else Function.update chip reg value)

/-- The bytes of a block. -/
def loadBlock (control : BitVec 8) (chip : Registers) : ℕ → ℕ → List (BitVec 8)
  | _, 0 => []
  | reg, len + 1 => chip reg :: loadBlock control chip (nextRegister control reg) len

/-- The register that a control byte selects. -/
def firstRegister (control : BitVec 8) : ℕ := (control &&& 0x1F).toNat

end Tlc59116

open Tlc59116

/-- The data of the driver, and the chips. A reset leaves a chip with the registers `powerUp`. -/
structure Tlc59116 where
  ctrl : ℕ → XTlc59116Ctrl
  nofCtrl : ℕ
  leds : List XTlc59116Led
  chips : String → ℕ → Registers
  powerUp : Registers
  faults : ℕ → Bool
  transfers : ℕ

namespace Tlc59116

variable (d : Tlc59116)

/-- The registers of the chip of a controller. -/
def chip (i : ℕ) : Registers := d.chips (d.ctrl i).config.i2cBus (d.ctrl i).config.i2cAddr

/-- The next transfer fails; a bus without a name is not opened. -/
def Fails (bus : String) : Prop := bus = "" ∨ d.faults d.transfers = true

instance (bus : String) : Decidable (d.Fails bus) := inferInstanceAs (Decidable (_ ∨ _))

/-- A transfer has been made. -/
def tick : Tlc59116 := { d with transfers := d.transfers + 1 }

/-- The controller with other registers in the driver. -/
def setRegs (i : ℕ) (regs : Registers) : Tlc59116 :=
  { d with ctrl := Function.update d.ctrl i { d.ctrl i with regs := regs } }

/-- `ctrl->regs[reg] = value`. -/
def setReg (i reg : ℕ) (value : BitVec 8) : Tlc59116 :=
  d.setRegs i (Function.update (d.ctrl i).regs reg value)

/-- The chip with other registers. -/
def setChip (config : XTlc59116Config) (chip : Registers) : Tlc59116 :=
  { d with
    chips := Function.update d.chips config.i2cBus
      (Function.update (d.chips config.i2cBus) config.i2cAddr chip) }

/-! ### Transfers -/

/-- The first byte of a transfer of a block. -/
def controlByte (firstReg lastReg : ℕ) : BitVec 8 :=
  BitVec.ofNat 8 firstReg ||| (if lastReg > firstReg then aiAll else 0)

/-- The registers from the first to the last, as the driver has them, to the chip. -/
def iWriteRegBlock (i firstReg lastReg : ℕ) (d : Tlc59116) : ℤ × Tlc59116 :=
  let config := (d.ctrl i).config
  if d.Fails config.i2cBus then (-1, d.tick)
  else
    let len := lastReg - firstReg + 1
    let reg := controlByte firstReg lastReg
    let values := (List.range len).map fun k => (d.ctrl i).regs (firstReg + k)
    (0, (d.setChip config (storeBlock reg (firstRegister reg) values (d.chip i))).tick)

/-- The bytes that have been read, from `reg` on. -/
def fillRegs : ℕ → List (BitVec 8) → Registers → Registers
  | _, [], regs => regs
  | reg, value :: values, regs => fillRegs (reg + 1) values (Function.update regs reg value)

/-- The registers from the first to the last, from the chip. -/
def iReadRegBlock (i firstReg lastReg : ℕ) (d : Tlc59116) : ℤ × Tlc59116 :=
  if d.Fails (d.ctrl i).config.i2cBus then (-1, d.tick)
  else
    let len := lastReg - firstReg + 1
    let reg := controlByte firstReg lastReg
    let values := loadBlock reg (d.chip i) (firstRegister reg) len
    (0, (d.setRegs i (fillRegs firstReg values (d.ctrl i).regs)).tick)

/-- The chip answers as one of its kind. -/
def iCheckCtrlPresence (config : XTlc59116Config) (d : Tlc59116) : ℤ × Tlc59116 :=
  if d.Fails config.i2cBus then (-1, d.tick)
  else if d.chips config.i2cBus config.i2cAddr subadr1 = addrSub1 <<< 1 then (0, d.tick)
  else (-1, d.tick)

/-- All chips of the bus are reset. -/
def iSwReset (bus : String) (d : Tlc59116) : ℤ × Tlc59116 :=
  if d.Fails bus then (-1, d.tick)
  else (0, { d with chips := Function.update d.chips bus fun _ => d.powerUp }.tick)

/-- The field of the pin is written, with those it shares its register with. -/
def iSetPinMode (i out : ℕ) (mode : ELedRgbMode) (d : Tlc59116) : ℤ × Tlc59116 :=
  let reg := ledout0 + out / 4
  let ls := (out % 4) * 2
  let cleared := (d.ctrl i).regs reg &&& ~~~(3#8 <<< ls)
  iWriteRegBlock i reg reg (d.setReg i reg (cleared ||| mode.code <<< ls))

/-- The PWM of a pin. -/
def iSetPinPwm (i out : ℕ) (dcycle : BitVec 8) (d : Tlc59116) : ℤ × Tlc59116 :=
  let reg := pwm0 + out
  iWriteRegBlock i reg reg (d.setReg i reg dcycle)

/-! ### Opening -/

/-- What is written by `iClose`; the memory of the driver is freed then. -/
def iClose (d : Tlc59116) : Tlc59116 :=
  (List.range d.nofCtrl).foldl
    (fun d i => (iWriteRegBlock i mode1 mode1 (d.setReg i mode1 osc)).2) d

/-- The loop of `iOpen` over the controllers. What is compared with the name of the bus is `""`,
every time. -/
def openLoop : List XTlc59116Config → Tlc59116 → ℤ × Tlc59116
  | [], d => (0, d)
  | config :: configs, d =>
      let reset := if config.i2cBus ≠ "" then iSwReset config.i2cBus d else (0, d)
      if reset.1 ≠ 0 then (-1, reset.2)
      else
        let present := iCheckCtrlPresence config reset.2
        if present.1 ≠ 0 then (-1, iClose present.2)
        else
          let i := d.nofCtrl
          let copied := { present.2 with
            ctrl := Function.update present.2.ctrl i { present.2.ctrl i with config := config } }
          let read := iReadRegBlock i mode1 eflag2 copied
          if read.1 ≠ 0 then (-1, iClose read.2)
          else
            let written := iWriteRegBlock i mode1 mode1
              (read.2.setReg i mode1 ((read.2.ctrl i).regs mode1 &&& ~~~osc))
            if written.1 ≠ 0 then (-1, iClose written.2)
            else openLoop configs { written.2 with nofCtrl := i + 1 }

/-- `setup` is the list of the controllers up to the one without a bus. -/
def iOpen (setup : List XTlc59116Config) (d : Tlc59116) : ℤ × Tlc59116 :=
  if 0 < setup.length then
    openLoop setup { d with ctrl := fun _ => ⟨⟨"", 0⟩, fun _ => 0⟩, nofCtrl := 0, leds := [] }
  else (-1, d)

/-! ### The operations -/

/-- `iSetMode` of the LED that has been found. -/
def setLedMode (led : XTlc59116Led) (mode : ELedRgbMode) (d : Tlc59116) : ℤ × Tlc59116 :=
  let red := iSetPinMode led.red.ctrl led.red.out mode d
  if red.1 = 0 then
    let green := iSetPinMode led.green.ctrl led.green.out mode red.2
    if green.1 = 0 then iSetPinMode led.blue.ctrl led.blue.out mode green.2
    else green
  else red

/-- The assertion fails when there is no such LED, here and below. -/
def iSetMode (index : ℕ) (mode : ELedRgbMode) (d : Tlc59116) : Option (ℤ × Tlc59116) :=
  d.leds[index]?.map fun led => setLedMode led mode d

/-- The index of the new LED, or -1. -/
def iAddLed (mode : ELedRgbMode) (s : XTlc59116Led) (d : Tlc59116) : Option (ℤ × Tlc59116) :=
  if (s.red.ctrl < d.nofCtrl ∧ s.green.ctrl < d.nofCtrl ∧ s.blue.ctrl < d.nofCtrl) ∧
      s.red.out < 16 ∧ s.green.out < 16 ∧ s.blue.out < 16 then
    let appended := { d with leds := d.leds ++ [s] }
    let index := appended.leds.length - 1
    (iSetMode index mode appended).map fun set =>
      if set.1 = 0 then ((index : ℤ), set.2)
      else (-1, { set.2 with leds := set.2.leds.eraseIdx index })
  else some (-1, d)

/-- `iSetColor` of the LED that has been found. -/
def setLedColor (led : XTlc59116Led) (color : XRgbColor) (d : Tlc59116) : ℤ × Tlc59116 :=
  let red := iSetPinPwm led.red.ctrl led.red.out color.ucRed d
  if red.1 = 0 then
    let green := iSetPinPwm led.green.ctrl led.green.out color.ucGreen red.2
    if green.1 = 0 then iSetPinPwm led.blue.ctrl led.blue.out color.ucBlue green.2
    else green
  else red

/-- The color of a LED. -/
def iSetColor (index : ℕ) (color : XRgbColor) (d : Tlc59116) : Option (ℤ × Tlc59116) :=
  d.leds[index]?.map fun led => setLedColor led color d

/-- `while (value > 255) value >>= 1`. -/
def halveToByte (value : ℕ) : ℕ := if value > 255 then halveToByte (value / 2) else value

/-- The loop of `iSetDimmer` and `iSetBlinker` over the pins of a LED: `c` has the controllers that
have been written. -/
def ctrlLoop (write : ℕ → Tlc59116 → ℤ × Tlc59116) :
    List XTlc59116Pin → ℕ → (ℕ → ℤ) → ℤ → Tlc59116 → ℤ × Tlc59116
  | [], _, _, ret, d => (ret, d)
  | pin :: pins, i, c, ret, d =>
      if (pin.ctrl : ℤ) ≠ c 0 ∧ (pin.ctrl : ℤ) ≠ c 1 then
        let written := write pin.ctrl d
        if written.1 ≠ 0 then written
        else ctrlLoop write pins (i + 1) (Function.update c i pin.ctrl) written.1 written.2
      else ctrlLoop write pins (i + 1) c ret d

/-- The pins in the order of the code. -/
def XTlc59116Led.pins (led : XTlc59116Led) : List XTlc59116Pin := [led.red, led.green, led.blue]

/-- The dimming of the outputs of a controller. -/
def dimCtrl (dimming : ℕ) (ctl : ℕ) (d : Tlc59116) : ℤ × Tlc59116 :=
  let dimmed := iWriteRegBlock ctl grppwm grppwm (d.setReg ctl grppwm (BitVec.ofNat 8 dimming))
  if dimmed.1 ≠ 0 then dimmed
  else
    iWriteRegBlock ctl mode2 mode2
      (dimmed.2.setReg ctl mode2 ((dimmed.2.ctrl ctl).regs mode2 &&& ~~~dmblnk))

/-- The dimming of the controllers of a LED. -/
def iSetDimmer (index : ℕ) (dimming : ℤ) (d : Tlc59116) : Option (ℤ × Tlc59116) :=
  if 0 ≤ dimming then
    d.leds[index]?.map fun led =>
      ctrlLoop (dimCtrl (halveToByte dimming.toNat)) led.pins 0 (fun _ => -1) (-1) d
  else some (-1, d)

/-- The blinking of the outputs of a controller, in milliseconds. -/
def blinkCtrl (period : ℤ) (dcycle : ℕ) (ctl : ℕ) (d : Tlc59116) : ℤ × Tlc59116 :=
  let period := if period < 42 then 42 else period
  let freq := BitVec.ofInt 8 (min (period * 3 / 125 - 1) 255)
  let blinking := iWriteRegBlock ctl grppwm grpfreq
    ((d.setReg ctl grppwm (BitVec.ofNat 8 dcycle)).setReg ctl grpfreq freq)
  if blinking.1 ≠ 0 then blinking
  else
    iWriteRegBlock ctl mode2 mode2
      (blinking.2.setReg ctl mode2 ((blinking.2.ctrl ctl).regs mode2 ||| dmblnk))

/-- The blinking of the controllers of a LED. -/
def iSetBlinker (index : ℕ) (period dcycle : ℤ) (d : Tlc59116) : Option (ℤ × Tlc59116) :=
  if 0 ≤ period ∧ 0 ≤ dcycle then
    d.leds[index]?.map fun led =>
      ctrlLoop (blinkCtrl period (halveToByte dcycle.toNat)) led.pins 0 (fun _ => -1) (-1) d
  else some (-1, d)

/-- The loop of `iGetError` over the pins. -/
def errorLoop : List XTlc59116Pin → ℤ → Tlc59116 → ℤ × Tlc59116
  | [], ret, d => (ret, d)
  | pin :: pins, ret, d =>
      let reg := eflag1 + pin.out / 8
      let bit := pin.out % 8
      let read := iReadRegBlock pin.ctrl reg reg d
      if read.1 ≠ 0 then read
      else if (read.2.ctrl pin.ctrl).regs reg &&& 1 <<< bit = 0 then errorLoop pins 1 read.2
      else errorLoop pins ret read.2

/-- 1 if one of the pins reports an error. -/
def iGetError (index : ℕ) (d : Tlc59116) : Option (ℤ × Tlc59116) :=
  d.leds[index]?.map fun led => errorLoop led.pins 0 d

/-- The loop of `iClrError` over the controllers. -/
def clearLoop : List ℕ → ℤ → Tlc59116 → ℤ × Tlc59116
  | [], ret, d => (ret, d)
  | i :: rest, _, d =>
      let clearing := iWriteRegBlock i mode2 mode2
        (d.setReg i mode2 ((d.ctrl i).regs mode2 ||| efclr))
      if clearing.1 ≠ 0 then clearing
      else
        let cleared := iWriteRegBlock i mode2 mode2
          (clearing.2.setReg i mode2 ((clearing.2.ctrl i).regs mode2 &&& ~~~efclr))
        clearLoop rest cleared.1 cleared.2

/-- The error flags of all controllers are cleared. -/
def iClrError (d : Tlc59116) : ℤ × Tlc59116 := clearLoop (List.range d.nofCtrl) (-1) d

/-- The gain of a controller. -/
def iSetGain (ctl gain : ℤ) (d : Tlc59116) : ℤ × Tlc59116 :=
  if 0 ≤ ctl ∧ ctl < d.nofCtrl then
    iWriteRegBlock ctl.toNat iref iref (d.setReg ctl.toNat iref (BitVec.ofInt 8 gain))
  else (-1, d)

/-! ### Runs -/

/-- What is done with an open device; a chip reports its errors at any time. -/
inductive LedCall where
  | addLed (mode : ELedRgbMode) (led : XTlc59116Led)
  | setMode (index : ℕ) (mode : ELedRgbMode)
  | setColor (index : ℕ) (color : XRgbColor)
  | setDimmer (index : ℕ) (dimming : ℤ)
  | setBlinker (index : ℕ) (period dcycle : ℤ)
  | getError (index : ℕ)
  | clrError
  | setGain (ctl gain : ℤ)
  | flags (bus : String) (addr : ℕ) (errors1 errors2 : BitVec 8)

/-- The device after a call; none if an assertion fails. -/
def LedCall.run (call : LedCall) (d : Tlc59116) : Option Tlc59116 :=
  match call with
  | addLed mode led => (iAddLed mode led d).map Prod.snd
  | setMode index mode => (iSetMode index mode d).map Prod.snd
  | setColor index color => (iSetColor index color d).map Prod.snd
  | setDimmer index dimming => (iSetDimmer index dimming d).map Prod.snd
  | setBlinker index period dcycle => (iSetBlinker index period dcycle d).map Prod.snd
  | getError index => (iGetError index d).map Prod.snd
  | clrError => some (iClrError d).2
  | setGain ctl gain => some (iSetGain ctl gain d).2
  | flags bus addr errors1 errors2 =>
      some (d.setChip ⟨bus, addr⟩
        (Function.update (Function.update (d.chips bus addr) eflag1 errors1) eflag2 errors2))

/-- The device after a sequence of calls. -/
def run : List LedCall → Tlc59116 → Option Tlc59116
  | [], d => some d
  | call :: calls, d => (call.run d).bind fun d => run calls d

end Tlc59116

end Sysio.I2c
