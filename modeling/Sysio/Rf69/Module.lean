import Sysio.Lib.Script
import Sysio.Lib.Memory

/-!
# The radio module of `spi/rf69.c`

What the driver of an RFM69 sees: its own structure `xRf69`, and a module that it reaches by SPI
transfers. Of the module's registers the operating mode and the FIFO are kept; what the others
hold when they are read is up to the environment, as are the transfers that fail, the level of the
interrupt pin, the time that passes before a timer expires, and how the poll thread gets on.
Whatever the driver asks of its environment takes the next of its answers, and is recorded with it.

The transfers are recorded, and what is sent and received by radio. A transfer that fails is
*muted* when the code does not look at the result as an `int`: it ignores it, or stores it into a
`uint8_t` or a `bool` before it tests its sign.
-/

namespace Sysio.Rf69

open Routine

/-- The bytes of the FIFO. -/
def rfFifoSize : ℕ := 66
/-- The bytes of a header, its length included. -/
def rf69HeaderSize : ℕ := 4
/-- The most data bytes of a frame. -/
def rf69MaxDataLen : ℕ := rfFifoSize - 5
/-- The address of all nodes. -/
def rf69BroadcastAddr : UInt8 := 255
/-- The frame is an ACK. -/
def rf69Ack : UInt8 := 0x80
/-- The frame asks for an ACK. -/
def rf69AckReq : UInt8 := 0x40

/-- The register of the FIFO. -/
def regFifo : UInt8 := 0x00
/-- The register of the operating mode. -/
def regOpmode : UInt8 := 0x01

/-- The mode bits of `REG_OPMODE`. -/
def rfOpmodeMask : UInt8 := 0x1C
def rfOpmodeSleep : UInt8 := 0x00
def rfOpmodeStandby : UInt8 := 0x04
def rfOpmodeSynthesizer : UInt8 := 0x08
def rfOpmodeTransmitter : UInt8 := 0x0C
def rfOpmodeReceiver : UInt8 := 0x10

/-- The operating modes. -/
inductive ERf69Mode where
  | sleep
  | standby
  | synth
  | rx
  | tx
deriving DecidableEq, Repr

/-- The mode bits of a mode. -/
def ERf69Mode.opmode : ERf69Mode → UInt8
  | sleep => rfOpmodeSleep
  | standby => rfOpmodeStandby
  | synth => rfOpmodeSynthesizer
  | rx => rfOpmodeReceiver
  | tx => rfOpmodeTransmitter

/-- The header of the frame that was received last. -/
structure XRf69Header where
  payloadLen : UInt8
  dest : UInt8
  sender : UInt8
  ctl : UInt8
deriving DecidableEq, Repr

/-- The driver's structure, as far as its functions use it. -/
structure XRf69 where
  data : Vector UInt8 rfFifoSize
  dataLen : UInt8
  hdr : XRf69Header
  rssi : ℤ
  mode : ERf69Mode
  promiscuous : Bool
  isRfm69hw : Bool
  isOpen : Bool
  nodeId : UInt8
  powerLevel : UInt8

/-- An SPI transfer: of one register, or of a block. -/
inductive Rf69Transfer where
  | readReg (reg : UInt8)
  | writeReg (reg data : UInt8)
  | readBlock (reg : UInt8) (len : ℕ)
  | writeBlock (reg : UInt8) (data : List UInt8)
deriving DecidableEq, Repr

/-- A transfer that was made, whether it failed, and whether it was not muted. -/
structure Rf69Entry where
  transfer : Rf69Transfer
  failed : Bool
  heard : Bool
deriving DecidableEq, Repr

/-- What goes by radio, and how a wait for a free channel ended. -/
inductive Rf69Event where
  | waited (free : Bool)
  | sent (packet : List UInt8)
  | received (hdr : XRf69Header)
deriving DecidableEq, Repr

/-- What the environment answers. A transfer fails if `fault` is negative, and then returns it. -/
structure Rf69Answer where
  fault : ℤ
  value : UInt8
  frame : List UInt8
  pin : ℤ
  patience : ℕ
  steps : ℕ

/-- What the environment is asked for. -/
inductive Rf69Ask where
  | transfer (transfer : Rf69Transfer)
  | pin
  | timer
  | patience
  | steps
  | frame
deriving DecidableEq, Repr

/-- What the interrupt routine does at a time. -/
inductive Rf69Op where
  | access
  | update (write : XRf69 → XRf69)
  | transact (transfer : Rf69Transfer)
  | nextAnswer (ask : Rf69Ask)
  | note (event : Rf69Event)
  | noteMode (newMode : ERf69Mode)

/-- What it gets from such an operation. -/
def Rf69Op.Reply : Rf69Op → Type
  | access => XRf69
  | update _ => Unit
  | transact _ => ℤ × List UInt8
  | nextAnswer _ => Rf69Answer
  | note _ => Unit
  | noteMode _ => Unit

/-- The state of the module. -/
structure Rf69Module where
  opmode : UInt8
  rxFifo : List UInt8
  txFifo : List UInt8

/-- What the functions of `spi.c` return for a transfer that succeeds, and the bytes it reads. -/
def Rf69Module.reply (chip : Rf69Module) (value : UInt8) : Rf69Transfer → ℤ × List UInt8
  | .readReg reg =>
      if reg = regFifo then ((chip.rxFifo.headD 0).toNat, [])
      else if reg = regOpmode then (chip.opmode.toNat, [])
      else (value.toNat, [])
  | .writeReg _ _ => (1, [])
  | .readBlock _ len => (len, (chip.rxFifo ++ List.replicate len 0).take len)
  | .writeBlock _ data => (data.length, [])

/-- The module after a transfer that succeeds. -/
def Rf69Module.after (chip : Rf69Module) : Rf69Transfer → Rf69Module
  | .readReg reg =>
      if reg = regFifo then { chip with rxFifo := chip.rxFifo.tail } else chip
  | .writeReg reg data => if reg = regOpmode then { chip with opmode := data } else chip
  | .readBlock reg len =>
      if reg = regFifo then { chip with rxFifo := chip.rxFifo.drop len } else chip
  | .writeBlock reg data => if reg = regFifo then { chip with txFifo := data } else chip

/-- The module sends the packet in its FIFO when the transmitter is switched on. -/
def Rf69Module.transmits (chip : Rf69Module) : Rf69Transfer → List Rf69Event
  | .writeReg reg data =>
      if reg = regOpmode ∧ data &&& rfOpmodeMask = rfOpmodeTransmitter then [.sent chip.txFifo]
      else []
  | _ => []

/-- The driver, its module and its environment, with what has been done. -/
structure Rf69World where
  rf : XRf69
  chip : Rf69Module
  env : ℕ → Rf69Answer
  clock : ℕ
  muted : Bool
  spi : List Rf69Entry
  events : List Rf69Event
  /-- The modes for which `iRf69SetMode` has returned 0, with the register and the cache then. -/
  modes : List (ERf69Mode × UInt8 × ERf69Mode)
  /-- The driver and the transfers made so far, each time `iRf69SetMode` has returned 0. -/
  changes : List (XRf69 × List Rf69Entry)
  asks : List (Rf69Ask × Rf69Answer) := []
  /-- What the poll thread still has to do of the interrupt routine. -/
  isr : Script Rf69Op Rf69Op.Reply Unit := .ended (.ok ())
  /-- `iRf69SetMode` has returned 0 while the interrupt routine was under way in the poll thread. -/
  collided : Bool := false

/-- A function of the driver. -/
abbrev Driver (α : Type) : Type := Routine Rf69World α

variable {α : Type}

/-- The next answer has been given. -/
def Rf69World.answered (w : Rf69World) (ask : Rf69Ask) : Rf69World :=
  { w with
    clock := w.clock + 1
    asks := w.asks ++ [(ask, w.env w.clock)] }

/-- Ask the environment. -/
def nextAnswer (ask : Rf69Ask) : Driver Rf69Answer := fun w =>
  (.ok (w.env w.clock), w.answered ask)

/-- A transfer has been asked for, and recorded. -/
def Rf69World.asked (w : Rf69World) (transfer : Rf69Transfer) : Rf69World :=
  { w.answered (.transfer transfer) with
    spi := w.spi ++ [⟨transfer, decide ((w.env w.clock).fault < 0), !w.muted⟩] }

/-- A transfer has been made. -/
def Rf69World.served (w : Rf69World) (transfer : Rf69Transfer) : Rf69World :=
  { w.asked transfer with
    chip := w.chip.after transfer
    events := w.events ++ w.chip.transmits transfer }

/-- One transfer. If it fails, the module has not seen it. -/
def transact (transfer : Rf69Transfer) : Driver (ℤ × List UInt8) := fun w =>
  if (w.env w.clock).fault < 0 then (.ok ((w.env w.clock).fault, []), w.asked transfer)
  else (.ok (w.chip.reply (w.env w.clock).value transfer), w.served transfer)

/-- The result is not looked at as an `int`. -/
def muted (m : Driver α) : Driver α := fun w =>
  let ran := m { w with muted := true }
  (ran.1, { ran.2 with muted := w.muted })

/-- `TRY_INT (b = call)`, for a `uint8_t b`: never negative. -/
def tryByte (call : Driver ℤ) : Driver UInt8 := do
  let r ← muted call
  pure (UInt8.ofInt r)

/-- `TRY_INT (b = call)`, for a `bool b`: never negative. -/
def tryBool (call : Driver ℤ) : Driver Bool := do
  let r ← muted call
  pure (decide (r ≠ 0))

/-- The result is not looked at. -/
def ignored (call : Driver ℤ) : Driver Unit := do
  let _ ← muted call
  pure ()

/-! ### What may be interrupted

`irq` is what may come in before the driver touches its structure or the module. -/

/-- Nothing comes in. -/
def quiet : Driver Unit := pure ()

/-- Read the structure. -/
def access (irq : Driver Unit) (read : XRf69 → α) : Driver α := do
  irq
  (fun w => (.ok (read w.rf), w) : Driver α)

/-- Write to the structure. -/
def update (irq : Driver Unit) (write : XRf69 → XRf69) : Driver Unit := do
  irq
  (fun w => (.ok (), { w with rf := write w.rf }) : Driver Unit)

/-- Record an event. -/
def note (event : Rf69Event) : Driver Unit := fun w =>
  (.ok (), { w with events := w.events ++ [event] })

/-- `iRf69SetMode` has returned 0. -/
def Rf69World.noted (w : Rf69World) (newMode : ERf69Mode) : Rf69World :=
  { w with
    modes := w.modes ++ [(newMode, w.chip.opmode, w.rf.mode)]
    changes := w.changes ++ [(w.rf, w.spi)]
    collided := w.collided || !w.isr.isEnded }

/-- Record that `iRf69SetMode` returns 0. -/
def noteMode (newMode : ERf69Mode) : Driver Unit := fun w => (.ok (), w.noted newMode)

/-- The register's value, or a negative number. -/
def iRf69ReadReg (irq : Driver Unit) (reg : UInt8) : Driver ℤ := do
  irq
  let reply ← transact (.readReg reg)
  pure reply.1

/-- A negative number if the transfer fails. -/
def iRf69WriteReg (irq : Driver Unit) (reg data : UInt8) : Driver ℤ := do
  irq
  let reply ← transact (.writeReg reg data)
  pure reply.1

/-- A negative number if the transfer fails. -/
def iRf69WriteBlock (irq : Driver Unit) (reg : UInt8) (data : List UInt8) : Driver ℤ := do
  irq
  let reply ← transact (.writeBlock reg data)
  pure reply.1

/-- The bytes that are read go where `write` puts them. -/
def iRf69ReadBlock (irq : Driver Unit) (reg : UInt8) (len : ℕ)
    (write : List UInt8 → XRf69 → XRf69) : Driver ℤ := do
  irq
  let reply ← transact (.readBlock reg len)
  whenever (0 ≤ reply.1) (update quiet (write reply.2))
  pure reply.1

/-- The level of the interrupt pin, or a negative number. -/
def iRf69ReadIrqPin (irq : Driver Unit) : Driver ℤ := do
  irq
  let answer ← nextAnswer .pin
  pure answer.pin

/-- How often the timer will be found running. -/
def vRf69TimerStart (_timeout : ℤ) : Driver ℕ := do
  let answer ← nextAnswer .timer
  pure answer.patience

/-- How many turns a loop without a timer may take. -/
def patience : Driver ℕ := do
  let answer ← nextAnswer .patience
  pure answer.patience

end Sysio.Rf69
