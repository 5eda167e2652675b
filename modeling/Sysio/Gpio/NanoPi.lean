import Sysio.Lib.Fields
import Mathlib.Algebra.Order.Ring.Int

/-!
# The registers of `arch/arm/nanopi/gpio.c`

The mode of a pin is a field of 4 bits of a CFG register of its bank, its pull resistor a field of
2 bits of a PUL register. What a pin had when the GPIO was opened is kept when it is first
changed, and `iArchGpioRelease` writes it back.
-/

namespace Sysio.Gpio

namespace NanoPi

/-- The registers of a bank: the modes, the levels, the drive strengths and the pull resistors. -/
structure XBank where
  cfg : ℕ → BitVec 32
  dat : BitVec 32
  drv : ℕ → BitVec 32
  pul : ℕ → BitVec 32

def gpioSize : ℕ := 106

def eModeInput : ℤ := 0
def eModeFunc3 : ℤ := 3
def eModeDisabled : ℤ := 7
def eModePwm : ℤ := 0x8002

/-- The banks are what `pxGetBank` points to, by their index. -/
structure XGpio where
  bank : ℕ → XBank
  isOpen : Bool
  pinmode : ℕ → ℤ
  pinmodeRelease : ℕ → ℤ
  pinpull : ℕ → ℤ
  pinpullRelease : ℕ → ℤ
  link : ℤ
  roc : Bool

/-! ### Banks -/

/-- The loop of `pxGetPinBank` over the sizes of the banks; port B is skipped. -/
def pinBankLoop : List ℕ → ℕ → ℕ → ℕ × ℕ
  | [], bkindex, ng => (bkindex, ng)
  | size :: list, bkindex, ng =>
      if bkindex = 1 then pinBankLoop list (bkindex + 1) ng
      else if size ≤ ng then pinBankLoop list (bkindex + 1) (ng - size)
      else (bkindex, ng)

/-- The bank of a pin, and its number in the bank. -/
def pxGetPinBank (mcupin : ℕ) : Option (ℕ × ℕ) :=
  let found := pinBankLoop [22, 0, 17, 18, 16, 7, 14, 12] 0 mcupin
  if found.1 < 8 then some found else none

/-- The pin has a PWM. -/
def bIsPwmPin (g : ℕ) : Bool := decide (g = 6)

/-! ### Modes and pull resistors -/

/-- The mode of a pin, from the lower three bits of its field. -/
def eArchGpioGetMode (g : ℕ) (gp : XGpio) : ℤ :=
  match pxGetPinBank g with
  | some (b, f) =>
      let r := f / 8
      let i := (f - r * 8) * 4
      ((gp.bank b).cfg r >>> i &&& 7).toNat
  | none => -1

/-- The pull resistor of a pin; the code has up and down the other way. -/
def eArchGpioGetPull (g : ℕ) (gp : XGpio) : ℤ :=
  match pxGetPinBank g with
  | some (b, f) =>
      let r := f / 16
      let i := (f - r * 16) * 2
      let p := (gp.bank b).pul r >>> i &&& 3
      (if p ≠ 0 then p ^^^ 3 else p).toNat
  | none => -1

/-- A register of the modes is written. -/
def XGpio.setCfg (gp : XGpio) (b r : ℕ) (word : BitVec 32) : XGpio :=
  { gp with
    bank := Function.update gp.bank b
      { gp.bank b with cfg := Function.update (gp.bank b).cfg r word } }

/-- A register of the pull resistors is written. -/
def XGpio.setPul (gp : XGpio) (b r : ℕ) (word : BitVec 32) : XGpio :=
  { gp with
    bank := Function.update gp.bank b
      { gp.bank b with pul := Function.update (gp.bank b).pul r word } }

/-- The end of `iArchGpioSetMode`. -/
def XGpio.keepMode (gp : XGpio) (g : ℕ) (eMode : ℤ) : XGpio :=
  { gp with
    pinmodeRelease :=
      if gp.pinmodeRelease g = -1 then Function.update gp.pinmodeRelease g (gp.pinmode g)
      else gp.pinmodeRelease
    pinmode := Function.update gp.pinmode g eMode }

/-- The mode of a pin, and the one to come back to. -/
def iArchGpioSetMode (g : ℕ) (eMode : ℤ) (gp : XGpio) : ℤ × XGpio :=
  match pxGetPinBank g with
  | some (b, f) =>
      let r := f / 8
      let i := (f - r * 8) * 4
      let cleared := (gp.bank b).cfg r &&& ~~~(0b1111#32 <<< i)
      if eMode = eModeInput then (0, (gp.setCfg b r cleared).keepMode g eMode)
      else if 1 ≤ eMode ∧ eMode ≤ eModeDisabled then
        (0, (gp.setCfg b r (cleared ||| BitVec.ofInt 32 eMode <<< i)).keepMode g eMode)
      else if eMode = eModePwm then
        if bIsPwmPin g then
          (0, (gp.setCfg b r (cleared ||| BitVec.ofInt 32 eModeFunc3 <<< i)).keepMode g eModeFunc3)
        else (-1, gp)
      else (-1, gp)
  | none => (-1, gp)

/-- The pull resistor of a pin, and the one to come back to. -/
def iArchGpioSetPull (g : ℕ) (ePull : ℤ) (gp : XGpio) : ℤ × XGpio :=
  match pxGetPinBank g with
  | some (b, f) =>
      let kept := { gp with
        pinpullRelease :=
          if gp.pinpullRelease g = -1 then Function.update gp.pinpullRelease g (gp.pinpull g)
          else gp.pinpullRelease
        pinpull := Function.update gp.pinpull g ePull }
      let code := if ePull ≠ 0 then BitVec.ofInt 32 ePull ^^^ 3 else BitVec.ofInt 32 ePull
      let r := f / 16
      let i := (f - r * 16) * 2
      let cleared := (gp.bank b).pul r &&& ~~~(0b11#32 <<< i)
      (0, kept.setPul b r (cleared ||| code <<< i))
  | none => (-1, gp)

/-- A pin gets its mode and its pull resistor back. -/
def iArchGpioRelease (g : ℕ) (gp : XGpio) : ℤ × XGpio :=
  let released : ℤ × XGpio :=
    if gp.pinmodeRelease g ≠ -1 then
      let set := iArchGpioSetMode g (gp.pinmodeRelease g) gp
      (set.1, { set.2 with pinmodeRelease := Function.update set.2.pinmodeRelease g (-1) })
    else (0, gp)
  if released.1 = 0 ∧ released.2.pinpullRelease g ≠ -1 then
    let set := iArchGpioSetPull g (released.2.pinpullRelease g) released.2
    (set.1, { set.2 with pinpullRelease := Function.update set.2.pinpullRelease g (-1) })
  else released

/-! ### Opening and closing -/

/-- The first time the modes and the pull resistors are read. -/
def xGpioOpen (gp : XGpio) : XGpio :=
  if gp.isOpen then { gp with link := gp.link + 1 }
  else
    { gp with
      isOpen := true
      pinmodeRelease := fun g => if g < gpioSize then -1 else gp.pinmodeRelease g
      pinmode := fun g => if g < gpioSize then eArchGpioGetMode g gp else gp.pinmode g
      pinpullRelease := fun g => if g < gpioSize then -1 else gp.pinpullRelease g
      pinpull := fun g => if g < gpioSize then eArchGpioGetPull g gp else gp.pinpull g
      link := 1
      roc := true }

/-- The last time the pins are released. -/
def iGpioClose (gp : XGpio) : XGpio :=
  if gp.isOpen then
    if gp.link - 1 ≤ 0 then
      let released :=
        if gp.roc then (List.range gpioSize).foldl (fun gp g => (iArchGpioRelease g gp).2) gp
        else gp
      { released with isOpen := false, link := 0, roc := false }
    else { gp with link := gp.link - 1 }
  else gp

/-- What is done with the pins of an open GPIO. -/
inductive GpioCall where
  | setMode (g : ℕ) (eMode : ℤ)
  | setPull (g : ℕ) (ePull : ℤ)
  | release (g : ℕ)

/-- The pin of a call. -/
def GpioCall.pin : GpioCall → ℕ
  | setMode g _ => g
  | setPull g _ => g
  | release g => g

/-- The pins are those of the board, the pull resistors are off, down or up. -/
def GpioCall.Fits : GpioCall → Prop
  | setMode g _ => g < gpioSize
  | setPull g ePull => g < gpioSize ∧ 0 ≤ ePull ∧ ePull ≤ 2
  | release g => g < gpioSize

/-- The state after a call. -/
def GpioCall.run (call : GpioCall) (gp : XGpio) : XGpio :=
  match call with
  | setMode g eMode => (iArchGpioSetMode g eMode gp).2
  | setPull g ePull => (iArchGpioSetPull g ePull gp).2
  | release g => (iArchGpioRelease g gp).2

/-- The state after a sequence of calls. -/
def XGpio.run (gp : XGpio) (calls : List GpioCall) : XGpio :=
  calls.foldl (fun gp call => call.run gp) gp

end NanoPi

end Sysio.Gpio
