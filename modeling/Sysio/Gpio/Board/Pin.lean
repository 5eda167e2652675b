import Sysio.Gpio.Board.Device
import Sysio.Lib.Throwing
import Mathlib.Algebra.Order.Ring.Int

/-!
# The pins of `gpio/gpiopin.cpp`

Pins, connectors and the GPIO, where the pins are accessed by the registers of the device: the
access by files of the system, and with it the interrupts, is left out. The first mode and the
first pull resistor of a pin are kept when they are changed, for `Pin.release`. Each call of the
program may throw, and what it has changed stays.
-/

namespace Sysio.Board

open Throwing

/-- What a pin is. -/
inductive PinType where
  | typeGpio
  | typePower
  | typeUsb
  | typeSound
  | typeVideo
  | typeNotConnected
  | typeUnknown
deriving DecidableEq, Repr

/-- How the pins are numbered. -/
inductive Numbering where
  | numberingLogical
  | numberingMcu
  | numberingSystem
  | numberingUnknown
deriving DecidableEq, Repr

/-- The numbers of a pin, and its place on the connector. -/
structure PinNumber where
  logical : ℤ
  mcu : ℤ
  system : ℤ
  row : ℤ
  column : ℤ
deriving DecidableEq, Repr

/-- What is known of a pin of the board. -/
structure PinDescriptor where
  type : PinType
  num : PinNumber
deriving DecidableEq, Repr

/-- What never changes of a pin: the number of its connector, its own number there, and its
descriptor. -/
structure Pin where
  connector : ℤ
  physicalNumber : ℤ
  descriptor : PinDescriptor
deriving DecidableEq, Repr

/-- A connector with its pins in the order of their numbers. -/
structure Connector where
  number : ℤ
  pin : List Pin
deriving DecidableEq, Repr

/-- The members of a pin that change. -/
structure PinState where
  isopen : Bool
  holdMode : PinMode
  holdPull : PinPull
  holdState : Bool
  mode : PinMode
  pull : PinPull
deriving DecidableEq, Repr

/-- Nothing has been asked for. -/
def PinState.new : PinState :=
  ⟨false, .modeUnknown, .pullUnknown, false, .modeUnknown, .pullUnknown⟩

/-- The members of a GPIO, of its connectors and pins, and the registers of its device. -/
structure GpioState (Regs : Type) where
  regs : Regs
  pin : Pin → PinState
  connectorIsOpen : ℤ → Bool
  isopen : Bool
  roc : Bool
  numbering : Numbering
  pinMap : List (ℤ × Pin)

/-- A function of the classes. -/
abbrev GpioM (Regs : Type) := EStateM GpioThrow (GpioState Regs)

section Access

variable {Regs α : Type}

/-- The state with another pin. -/
def GpioState.setPin (gpio : GpioState Regs) (pin : Pin) (state : PinState) : GpioState Regs :=
  { gpio with pin := Function.update gpio.pin pin state }

/-- The state with other registers. -/
def GpioState.setRegs (gpio : GpioState Regs) (regs : Regs) : GpioState Regs :=
  { gpio with regs := regs }

/-- The members of a pin. -/
def getState (pin : Pin) : GpioM Regs PinState := fun gpio => .ok (gpio.pin pin) gpio

/-- The members of a pin are changed. -/
def change (pin : Pin) (next : PinState → PinState) : GpioM Regs Unit := fun gpio =>
  .ok () (gpio.setPin pin (next (gpio.pin pin)))

/-- A function of the device that returns a value. -/
def ask (value : Regs → Except GpioThrow α) : GpioM Regs α := reads fun gpio => value gpio.regs

/-- A function of the device that changes its registers. -/
def tell (next : Regs → Except GpioThrow Regs) : GpioM Regs Unit :=
  writes fun gpio => (next gpio.regs).map gpio.setRegs

end Access

/-! ### Pins -/

namespace Pin

/-- The pin is not power, ground or the like. -/
def isGpio (pin : Pin) : Bool := decide (pin.descriptor.type = .typeGpio)

/-- A pin of the type GPIO has no negative number. -/
def mcuNumber (pin : Pin) : ℕ := pin.descriptor.num.mcu.toNat

/-- The number of a pin, where pins are numbered. -/
def number (pin : Pin) : Numbering → Except GpioThrow ℤ
  | .numberingLogical => .ok pin.descriptor.num.logical
  | .numberingMcu => .ok pin.descriptor.num.mcu
  | .numberingSystem => .ok pin.descriptor.num.system
  | .numberingUnknown => .error .invalidArgument

variable {Regs : Type} (dev : Device Regs) (pin : Pin)

/-- The mode to come back to is kept, and the level of an output. -/
def holdMode : GpioM Regs Unit := do
  let state ← getState pin
  whenever (decide (state.holdMode = .modeUnknown)) do
    let m ← ask (dev.mode pin.mcuNumber)
    change pin fun state => { state with holdMode := m }
    whenever (decide (m = .modeOutput)) do
      let v ← ask (dev.read pin.mcuNumber)
      change pin fun state => { state with holdState := v }

/-- The pull resistor to come back to is kept. -/
def holdPull : GpioM Regs Unit := do
  let state ← getState pin
  whenever (decide (state.holdPull = .pullUnknown)) do
    let p ← ask (dev.pull pin.mcuNumber)
    change pin fun state => { state with holdPull := p }

/-- The pull resistor that has been asked for is set. -/
def writePull : GpioM Regs Unit := do
  holdPull dev pin
  let state ← getState pin
  tell (dev.setPull pin.mcuNumber state.pull)

/-- The pull resistor that there is becomes that of the pin. -/
def readPull : GpioM Regs Unit :=
  if dev.hasPullRead then do
    let p ← ask (dev.pull pin.mcuNumber)
    change pin fun state => { state with pull := p }
  else change pin fun state => { state with pull := .pullUnknown }

/-- The mode that there is becomes that of the pin. -/
def readMode : GpioM Regs Unit := do
  let m ← ask (dev.mode pin.mcuNumber)
  change pin fun state => { state with mode := m }

/-- The mode that has been asked for is set. -/
def writeMode : GpioM Regs Unit := do
  holdMode dev pin
  let state ← getState pin
  tell (dev.setMode pin.mcuNumber state.mode)

/-- The mode of a pin, read if it is open. -/
def mode : GpioM Regs PinMode := do
  let state ← getState pin
  whenever (state.isopen && pin.isGpio) (readMode dev pin)
  let state ← getState pin
  pure state.mode

/-- The mode of a pin, set if it is open. -/
def setMode (m : PinMode) : GpioM Regs Unit :=
  whenever pin.isGpio do
    change pin fun state => { state with mode := m }
    let state ← getState pin
    whenever state.isopen (writeMode dev pin)

/-- The pull resistor of a pin, read if it is open. -/
def pull : GpioM Regs PinPull := do
  let state ← getState pin
  whenever (state.isopen && pin.isGpio) (readPull dev pin)
  let state ← getState pin
  pure state.pull

/-- The pull resistor of a pin, set if it is open. -/
def setPull (p : PinPull) : GpioM Regs Unit :=
  whenever pin.isGpio do
    change pin fun state => { state with pull := p }
    let state ← getState pin
    whenever state.isopen (writePull dev pin)

/-- The level of a pin; nothing happens if it is not open. -/
def write (value : Bool) : GpioM Regs Unit := do
  let state ← getState pin
  whenever (state.isopen && pin.isGpio) (tell (dev.write pin.mcuNumber value))

/-- The level of a pin that is open; for another there is no result. -/
def read : GpioM Regs Bool := do
  let state ← getState pin
  if state.isopen && pin.isGpio then ask (dev.read pin.mcuNumber) else throw .undefined

/-- By the device, or by a read and a write. -/
def toggle : GpioM Regs Unit := do
  let state ← getState pin
  whenever (state.isopen && pin.isGpio)
    (if dev.hasToggle then tell (dev.toggle pin.mcuNumber)
    else do
      let v ← read dev pin
      write dev pin !v)

/-- What has been kept is set again. -/
def release : GpioM Regs Unit := do
  let state ← getState pin
  whenever (state.isopen && pin.isGpio) do
    whenever (decide (state.holdMode ≠ .modeUnknown)) do
      setMode dev pin state.holdMode
      whenever (decide (state.holdMode = .modeOutput)) (write dev pin state.holdState)
      change pin fun state => { state with holdMode := .modeUnknown }
    whenever (decide (state.holdPull ≠ .pullUnknown)) do
      setPull dev pin state.holdPull
      change pin fun state => { state with holdPull := .pullUnknown }

/-- What has been asked for is set, the rest is read. -/
def openPin : GpioM Regs Bool := do
  let state ← getState pin
  whenever (!state.isopen) do
    change pin fun state => { state with isopen := true }
    whenever pin.isGpio do
      (if state.mode ≠ .modeUnknown then writeMode dev pin else readMode dev pin)
      (if state.pull ≠ .pullUnknown then writePull dev pin else readPull dev pin)
  let state ← getState pin
  pure state.isopen

/-- A pin is released if this has been asked for. -/
def close : GpioM Regs Unit := do
  let state ← getState pin
  whenever state.isopen do
    whenever pin.isGpio do
      let gpio ← get
      whenever gpio.roc (release dev pin)
    change pin fun state => { state with isopen := false }

end Pin

/-! ### Connectors -/

namespace Connector

variable {Regs : Type} (dev : Device Regs) (connector : Connector)

/-- Whether the connector is open. -/
def setOpen (isopen : Bool) : GpioM Regs Unit :=
  modify fun gpio => { gpio with
    connectorIsOpen := Function.update gpio.connectorIsOpen connector.number isopen }

/-- All pins are opened. -/
def openConnector : GpioM Regs Bool := do
  let gpio ← get
  if gpio.connectorIsOpen connector.number then pure true
  else do
    let went ← allOf (Pin.openPin dev) connector.pin
    whenever went (connector.setOpen true)
    pure went

/-- All pins are closed. -/
def close : GpioM Regs Unit := do
  let gpio ← get
  whenever (gpio.connectorIsOpen connector.number) do
    forEach (Pin.close dev) connector.pin
    connector.setOpen false

end Connector

/-! ### The GPIO -/

namespace Gpio

variable {Regs : Type} (dev : Device Regs) (connector : List Connector)

/-- The device is opened, then all connectors. -/
def openGpio (maps : Bool) : GpioM Regs Bool := do
  let gpio ← get
  if gpio.isopen then pure true
  else do
    tell (dev.openDevice maps)
    let went ← allOf (Connector.openConnector dev) connector
    whenever went (modify fun gpio => { gpio with isopen := true })
    pure went

/-- All connectors are closed, then the device. -/
def close : GpioM Regs Unit := do
  let gpio ← get
  whenever gpio.isopen do
    forEach (Connector.close dev) connector
    tell fun regs => .ok (dev.close regs)
    modify fun gpio => { gpio with isopen := false }

/-- Whether closing releases the pins. -/
def setReleaseOnClose (enable : Bool) : GpioM Regs Unit :=
  modify fun gpio => { gpio with roc := enable }

/-- The pins as the maps of the connectors are gone through. -/
def pins : List Pin := connector.flatMap (·.pin)

/-- `_pin[num] = p`. -/
def assign (map : List (ℤ × Pin)) (num : ℤ) (p : Pin) : List (ℤ × Pin) :=
  (num, p) :: map.filter (·.1 ≠ num)

/-- A GPIO is entered in the map under its number. -/
def addPin (nb : Numbering) (p : Pin) : GpioM Regs Unit :=
  whenever p.isGpio do
    let num ← reads fun _ => p.number nb
    modify fun gpio => { gpio with pinMap := assign gpio.pinMap num p }

/-- The map is made anew for another numbering. -/
def setNumbering (nb : Numbering) : GpioM Regs Unit := do
  let gpio ← get
  whenever (decide (nb ≠ gpio.numbering)) do
    modify fun gpio => { gpio with pinMap := [] }
    forEach (addPin nb) (pins connector)
    modify fun gpio => { gpio with numbering := nb }

/-- `Gpio::pin`, which throws for a number that no pin has. -/
def pin (number : ℤ) (gpio : GpioState Regs) : Except GpioThrow Pin :=
  match gpio.pinMap.lookup number with
  | some p => .ok p
  | none => .error .outOfRange

/-- What the constructor makes of the device, before it sets the numbering. -/
def initial (regs : Regs) : GpioState Regs :=
  ⟨regs, fun _ => .new, fun _ => false, false, true, .numberingUnknown, []⟩

/-- The constructor. -/
def new (regs : Regs) : GpioState Regs :=
  endOf (setNumbering connector .numberingLogical) (initial regs)

end Gpio

/-! ### Calls -/

/-- What is done with a pin. -/
inductive PinCall where
  | mode
  | setMode (m : PinMode)
  | pull
  | setPull (p : PinPull)
  | write (value : Bool)
  | toggle
  | read
  | release
deriving DecidableEq, Repr

/-- What is done with a GPIO whose pins are accessed by the registers (`forceUseSysFs`, `setEdge`,
`waitForInterrupt` and `attachInterrupt` are left to the kernel). A pin is taken from its connector,
or found by its number. -/
inductive GpioCall where
  | openGpio (maps : Bool)
  | close
  | setReleaseOnClose (enable : Bool)
  | setNumbering (nb : Numbering)
  | onPin (pin : Pin) (call : PinCall)
  | onNumber (number : ℤ) (call : PinCall)
deriving DecidableEq, Repr

section Calls

variable {Regs : Type} (dev : Device Regs) (connector : List Connector)

/-- The call on a pin. -/
def PinCall.run (pin : Pin) : PinCall → GpioM Regs Unit
  | .mode => do
      let _ ← pin.mode dev
      pure ()
  | .setMode m => pin.setMode dev m
  | .pull => do
      let _ ← pin.pull dev
      pure ()
  | .setPull p => pin.setPull dev p
  | .write value => pin.write dev value
  | .toggle => pin.toggle dev
  | .read => do
      let _ ← pin.read dev
      pure ()
  | .release => pin.release dev

/-- The call; a pin that is not there makes it throw. -/
def GpioCall.run : GpioCall → GpioM Regs Unit
  | .openGpio maps => do
      let _ ← Gpio.openGpio dev connector maps
      pure ()
  | .close => Gpio.close dev connector
  | .setReleaseOnClose enable => Gpio.setReleaseOnClose enable
  | .setNumbering nb => Gpio.setNumbering connector nb
  | .onPin pin call => whenever (decide (pin ∈ Gpio.pins connector)) (call.run dev pin)
  | .onNumber number call => do
      let pin ← reads (Gpio.pin number)
      call.run dev pin

/-- The state after the calls, each of which may have thrown. -/
def GpioState.run (gpio : GpioState Regs) (calls : List GpioCall) : GpioState Regs :=
  calls.foldl (fun gpio call => endOf (call.run dev connector) gpio) gpio

/-- The state of a program that has constructed a GPIO and made the calls. -/
def Gpio.session (regs : Regs) (calls : List GpioCall) : GpioState Regs :=
  (Gpio.new connector regs).run dev connector calls

end Calls

end Sysio.Board
