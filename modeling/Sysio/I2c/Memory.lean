import Mathlib.Algebra.Order.Ring.Int
import Mathlib.Data.UInt
import Mathlib.Logic.Function.Basic

/-!
# The memories of `i2c/i2c.c`

A memory on an I2C bus is written a page at a time and read at once. The lower bits of an offset
are sent in one or two bytes, the bits above them in the address of the device.

The device is modelled beside the code: it stores what follows the offset of a write, from the
address on and round the page, and a read starts at the last offset.
-/

namespace Sysio.I2c

def i2cmemTryMax : ℕ := 10

/-- The structure of a memory, with its buffer in two parts. -/
structure XI2cMem where
  i2caddr : BitVec 32
  memSize : BitVec 32
  pageSize : ℕ
  /-- `flags & I2CMEM_FLAG_ADDR16`. -/
  addr16 : Bool
  /-- The start of the buffer, `data` is the rest of it. -/
  offset : List UInt8
  data : List UInt8
deriving DecidableEq, Repr

/-- A message of a transfer. -/
inductive I2cMsg where
  | write (addr : BitVec 16) (buf : List UInt8)
  | read (addr : BitVec 16) (len : ℕ)
deriving DecidableEq, Repr

/-! ### The device -/

/-- A memory with so many bytes of offset, and pages. -/
structure Eeprom where
  base : BitVec 16
  /-- The bits of its address that belong to the offset. -/
  blockMask : BitVec 16
  offsetBytes : ℕ
  pageSize : ℕ
  content : ℕ → UInt8
  /-- The last offset. -/
  place : ℕ

namespace Eeprom

/-- The device answers to the address. -/
def Selected (eeprom : Eeprom) (addr : BitVec 16) : Prop :=
  addr &&& ~~~eeprom.blockMask = eeprom.base

instance (eeprom : Eeprom) (addr : BitVec 16) : Decidable (eeprom.Selected addr) :=
  inferInstanceAs (Decidable (_ = _))

/-- The address in the memory of a write to `addr` that begins with these bytes. -/
def start (eeprom : Eeprom) (addr : BitVec 16) (buf : List UInt8) : ℕ :=
  (addr &&& eeprom.blockMask).toNat * 256 ^ eeprom.offsetBytes +
    (buf.take eeprom.offsetBytes).foldl (fun value byte => value * 256 + byte.toNat) 0

/-- The address of the byte `i` of a write, in the page of `start`. -/
def pageAddress (eeprom : Eeprom) (start i : ℕ) : ℕ :=
  start / eeprom.pageSize * eeprom.pageSize +
    (start % eeprom.pageSize + i) % eeprom.pageSize

/-- The content after a write, which stays in its page. -/
def store (eeprom : Eeprom) (start : ℕ) (bytes : List UInt8) : ℕ → UInt8 :=
  bytes.zipIdx.foldl (fun content entry =>
    Function.update content (eeprom.pageAddress start entry.2) entry.1) eeprom.content

/-- What a message reads, and the device after it; none if it does not answer. -/
def message (eeprom : Eeprom) : I2cMsg → Option (List UInt8 × Eeprom)
  | .write addr buf =>
      if eeprom.Selected addr ∧ eeprom.offsetBytes ≤ buf.length then
        some ([], { eeprom with
          content := eeprom.store (eeprom.start addr buf) (buf.drop eeprom.offsetBytes)
          place := eeprom.start addr buf })
      else none
  | .read addr len =>
      if eeprom.Selected addr then
        some ((List.range len).map fun i => eeprom.content (eeprom.place + i), eeprom)
      else none

/-- The messages of one transfer, and what is read by them. -/
def transfer : List I2cMsg → Eeprom → Option (List UInt8 × Eeprom)
  | [], eeprom => some ([], eeprom)
  | msg :: rest, eeprom =>
      (eeprom.message msg).bind fun first =>
        (transfer rest first.2).map fun second => (first.1 ++ second.1, second.2)

end Eeprom

/-- The memory on the bus, and how often it is not ready, transfer by transfer. -/
structure I2cBus where
  eeprom : Eeprom
  notReady : ℕ → ℕ
  transfers : ℕ

/-! ### The code -/

/-- The loop on `ioctl`: `none` where `ret` is negative. -/
def rdwrTries (msgs : List I2cMsg) (eeprom : Eeprom) : ℕ → ℕ → Option (List UInt8 × Eeprom)
  | 0, _ => eeprom.transfer msgs
  | notReady + 1, ioTry =>
      if i2cmemTryMax < ioTry + 1 then none else rdwrTries msgs eeprom notReady (ioTry + 1)

/-- A transfer, tried as often as the code does. -/
def I2cBus.rdwr (msgs : List I2cMsg) (bus : I2cBus) : Option (List UInt8) × I2cBus :=
  let done := rdwrTries msgs bus.eeprom (bus.notReady bus.transfers) 0
  (done.map Prod.fst,
    { bus with eeprom := done.elim bus.eeprom Prod.snd, transfers := bus.transfers + 1 })

/-- The address for the offset; its lower bits are put in the buffer. -/
def prviSetOffset (m : XI2cMem) (offset : BitVec 32) : BitVec 32 × XI2cMem :=
  let fullMask := m.memSize - 1
  let offsetSize := if m.addr16 then 16 else 8
  let lsbMask : BitVec 32 := if m.addr16 then 0xFFFF else 0xFF
  let offsetMsb : BitVec 8 := ((offset &&& fullMask) >>> offsetSize).setWidth 8
  let offset := offset &&& lsbMask
  let high : UInt8 := .ofBitVec ((offset >>> 8).setWidth 8)
  let low : UInt8 := .ofBitVec (offset.setWidth 8)
  (if offsetMsb ≠ 0 then
      m.i2caddr &&& ~~~(fullMask >>> offsetSize) ||| offsetMsb.setWidth 32
    else m.i2caddr,
    { m with offset := if m.addr16 then [high, low] else [low] })

/-- The loop over the bytes that remain, with at most so many turns. `beyond` is the byte behind
the buffer: a message of a page and two bytes is longer than a buffer with one offset byte. -/
def memWriteLoop (addr : BitVec 16) (beyond : UInt8) :
    ℕ → List UInt8 → XI2cMem → I2cBus → Option (ℤ × XI2cMem × I2cBus)
  | 0, remaining, m, bus => if remaining = [] then some (0, m, bus) else none
  | turns + 1, remaining, m, bus =>
      if remaining = [] then some (0, m, bus)
      else
        let count := min m.pageSize remaining.length
        let m := { m with data := remaining.take count ++ m.data.drop count }
        let (got, bus) :=
          bus.rdwr [.write addr ((m.offset ++ m.data ++ [beyond]).take (count + 2))]
        if got = none then some (-1, m, bus)
        else memWriteLoop addr beyond turns (remaining.drop count) m bus

/-- The offset is set once, before the loop. -/
def iI2cMemWrite (m : XI2cMem) (offset : BitVec 32) (buffer : List UInt8) (beyond : UInt8)
    (bus : I2cBus) : Option (ℤ × XI2cMem × I2cBus) :=
  let (addr, m) := prviSetOffset m offset
  memWriteLoop (addr.setWidth 16) beyond buffer.length buffer m bus

/-- What a read returns, and the bytes that are put in its buffer. -/
structure I2cMemRead where
  ret : ℤ
  buffer : List UInt8
  m : XI2cMem
  bus : I2cBus

/-- The message with the offset has two bytes, whatever the size of the offset. -/
def iI2cMemRead (m : XI2cMem) (offset : BitVec 32) (size : ℕ) (bus : I2cBus) : I2cMemRead :=
  let (addr, m) := prviSetOffset m offset
  let addr := addr.setWidth 16
  let (got, bus) := bus.rdwr [.write addr ((m.offset ++ m.data).take 2), .read addr size]
  ⟨got.elim (-1) fun _ => size, got.getD [], m, bus⟩

end Sysio.I2c
