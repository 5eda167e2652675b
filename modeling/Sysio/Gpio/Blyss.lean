import Mathlib.Data.Vector.Basic
import Mathlib.Algebra.Order.Ring.Int

/-!
# The transmitter of `gpio/blyss.c`

A frame is 7 bytes, of which 52 bits are sent. The fields are nibbles of it, written and read by
two loops that take a whole byte at once where they can.

The output is a line: a write that succeeds gives it a level, and a delay makes an interval of it.
-/

namespace Sysio.Gpio

def blyssFlag : BitVec 16 := 0xFE

def blyssNofBits : ℕ := 52

def blyssIdxFlag : ℕ := 0

def blyssIdxGchan : ℕ := 8

def blyssIdxAddr : ℕ := 12

def blyssIdxChan : ℕ := 28

def blyssIdxState : ℕ := 32

def blyssIdxRoll : ℕ := 36

def blyssIdxToken : ℕ := 44

/-- The times are in microseconds. -/
def headerTime : ℕ := 2400

def t1 : ℕ := 400

def t2 : ℕ := 800

def footerTime : ℕ := 24000

/-- The rolling codes, in the order in which they are used. -/
def barrel : List (BitVec 8) := [0x98, 0xDA, 0x1E, 0xE6, 0x67]

/-- The nibble of each channel. -/
def channels : List (BitVec 8) := [0, 8, 4, 2, 1, 3, 5, 6, 7]

/-- The seven bytes of a frame. -/
structure XBlyssFrame where
  raw : Vector (BitVec 8) 7
deriving DecidableEq, Repr

/-- A level of the output, and how long it lasts. -/
structure Interval where
  level : Bool
  micros : ℕ
deriving DecidableEq, Repr

/-- What the port answers to each write, and what the output has been so far. -/
structure Line where
  answers : ℕ → ℤ
  writes : ℕ
  level : Bool
  emitted : List Interval

/-- The controller, with what it needs for the next frame. -/
structure XBlyss where
  /-- There is an output port. -/
  out : Bool
  lastToken : BitVec 8
  rollIdx : ℕ
deriving DecidableEq, Repr

/-! ### The output -/

/-- `iDoutSet` or `iDoutClear` on the only pin of the port, which is active high. -/
def Line.write (level : Bool) (line : Line) : ℤ × Line :=
  (line.answers line.writes,
    { line with
      writes := line.writes + 1
      level := if line.answers line.writes = 0 then level else line.level })

/-- The output stays at its level. -/
def Line.delay (micros : ℕ) (line : Line) : Line :=
  { line with emitted := line.emitted ++ [⟨line.level, micros⟩] }

/-- The output goes high. -/
def iSetOut (line : Line) : ℤ × Line := line.write true

/-- The output goes low. -/
def iClearOut (line : Line) : ℤ × Line := line.write false

/-- A low interval and a high one. -/
def iSendBit (bit : Bool) (line : Line) : ℤ × Line :=
  let (ret, line) := iClearOut line
  if ret = 0 then
    let line := line.delay (if bit then t1 else t2)
    let (ret, line) := iSetOut line
    if ret = 0 then (0, line.delay (if bit then t2 else t1))
    else (-1, line)
  else (-1, line)

/-- A long high interval. -/
def iSendHeader (line : Line) : ℤ × Line :=
  let (ret, line) := iSetOut line
  if ret = 0 then (0, line.delay headerTime) else (-1, line)

/-- A long low interval. -/
def iSendFooter (line : Line) : ℤ × Line :=
  let (ret, line) := iClearOut line
  if ret = 0 then (0, line.delay footerTime) else (-1, line)

/-- A byte of the frame. -/
def XBlyssFrame.byte (f : XBlyssFrame) (i : ℕ) : BitVec 8 := f.raw[i]?.getD 0

/-- The frame with another byte. -/
def XBlyssFrame.setByte (f : XBlyssFrame) (i : ℕ) (byte : BitVec 8) : XBlyssFrame :=
  ⟨f.raw.setIfInBounds i byte⟩

/-- The turns that are left of the loop over the bits, and the footer. -/
def sendBits (f : XBlyssFrame) : ℕ → BitVec 8 → BitVec 8 → Line → ℤ × Line
  | 0, _, _, line => iSendFooter line
  | left + 1, byte, mask, line =>
      let i := blyssNofBits - (left + 1)
      let byte := if mask = 0 then f.byte (i / 8) else byte
      let mask := if mask = 0 then 0x80 else mask
      let (ret, line) := iSendBit (byte &&& mask ≠ 0) line
      if ret ≠ 0 then (-1, line) else sendBits f left byte (mask >>> 1) line

/-- `byte` is not set before the first turn, and not read in it. -/
def iSendFrame (f : XBlyssFrame) (line : Line) : ℤ × Line :=
  let (ret, line) := iSendHeader line
  if ret ≠ 0 then (-1, line) else sendBits f blyssNofBits 0 0 line

/-! ### The fields -/

/-- The loop of `vSetBits`, with at most so many turns. -/
def setBitsFrom (len : ℕ) (value : BitVec 16) : ℕ → ℕ → ℕ → ℕ → XBlyssFrame → XBlyssFrame
  | 0, _, _, _, f => f
  | turns + 1, c, index, i, f =>
      if c < len then
        if index % 8 = 0 ∧ 8 ≤ len - c then
          setBitsFrom len value turns (c + 8) (index + 8) (i + 1)
            (f.setByte i ((value >>> c).setWidth 8))
        else
          let mask : BitVec 32 := if index % 8 = 0 then 0x0F else 0xF0
          let ls := if index % 8 = 0 then 4 else 0
          setBitsFrom len value turns (c + 4) (index + 4) (i + 1)
            (f.setByte i (((f.byte i).setWidth 32 &&& mask |||
              (value.setWidth 32 >>> (len - c - 4)) <<< ls).setWidth 8))
      else f

/-- Write a field of so many bits from a bit on. -/
def vSetBits (index len : ℕ) (value : BitVec 16) (f : XBlyssFrame) : XBlyssFrame :=
  setBitsFrom len value len 0 index (index / 8) f

/-- The loop of `usGetBits`, with at most so many turns. -/
def getBitsFrom (f : XBlyssFrame) (len : ℕ) : ℕ → ℕ → ℕ → ℕ → BitVec 16 → BitVec 16
  | 0, _, _, _, value => value
  | turns + 1, c, index, i, value =>
      if c < len then
        let rest := len - c
        if (index ≠ 4 ∧ index % 8 = 0) ∧ 8 ≤ rest then
          getBitsFrom f len turns (c + 8) (index + 8) (i + 1)
            (value ||| (f.byte i).setWidth 16 <<< (rest - 8))
        else
          let nibble := if index ≠ 4 ∧ index % 8 = 0 then f.byte i >>> 4 else f.byte i &&& 0x0F
          getBitsFrom f len turns (c + 4) (index + 4) (i + 1)
            (value ||| nibble.setWidth 16 <<< (rest - 4))
      else value

/-- Read such a field. -/
def usGetBits (index len : ℕ) (f : XBlyssFrame) : BitVec 16 :=
  getBitsFrom f len len 0 index (index / 8) 0

/-- The first byte. -/
def vSetFlag (f : XBlyssFrame) : XBlyssFrame := vSetBits blyssIdxFlag 8 blyssFlag f

/-- The token of a frame. -/
def ucToken (f : XBlyssFrame) : BitVec 8 := (usGetBits blyssIdxToken 8 f).setWidth 8

/-- The token of the frame is the last one, which then grows by 10. -/
def vSetToken (b : XBlyss) (f : XBlyssFrame) : XBlyss × XBlyssFrame :=
  ({ b with lastToken := b.lastToken + 10 },
    vSetBits blyssIdxToken 8 (b.lastToken.setWidth 16) f)

/-- The rolling code of a frame. -/
def ucRollingCode (f : XBlyssFrame) : BitVec 8 := (usGetBits blyssIdxRoll 8 f).setWidth 8

/-- The rolling code of the frame is the next one, the first after the last. -/
def vSetRollingCode (b : XBlyss) (f : XBlyssFrame) : XBlyss × XBlyssFrame :=
  ({ b with rollIdx := if barrel.length ≤ b.rollIdx + 1 then 0 else b.rollIdx + 1 },
    vSetBits blyssIdxRoll 8 ((barrel.getD b.rollIdx 0).setWidth 16) f)

/-- The code is one of the five. -/
def bIsValidRollingCode (code : BitVec 8) : Bool := barrel.any fun byte => byte = code

/-- The place of the field in the table, or 255. -/
def ucDecodeChannel (field : BitVec 8) : BitVec 8 :=
  (channels.findIdx? fun byte => field = byte).elim (-1) fun c => BitVec.ofNat 8 c

/-- The global channel. -/
def vBlyssFrameSetGlobalChannel (globalChannel : BitVec 8) (f : XBlyssFrame) : XBlyssFrame :=
  vSetBits blyssIdxGchan 4 (globalChannel.setWidth 16) f

/-- The address. -/
def vBlyssFrameSetAddress (addr : BitVec 16) (f : XBlyssFrame) : XBlyssFrame :=
  vSetBits blyssIdxAddr 16 addr f

/-- The identifier of a transmitter: its global channel and the two bytes of its address. -/
structure TxId where
  globalChannel : BitVec 8
  high : BitVec 8
  low : BitVec 8
deriving DecidableEq, Repr

/-- The global channel and the address, from the identifier. -/
def vBlyssFrameSetTxId (id : TxId) (f : XBlyssFrame) : XBlyssFrame :=
  vBlyssFrameSetAddress (id.high.setWidth 16 <<< 8 ||| id.low.setWidth 16)
    (vBlyssFrameSetGlobalChannel id.globalChannel f)

/-- A frame of a transmitter, with all other fields 0. -/
def xBlyssFrameNew (id : TxId) : XBlyssFrame :=
  vBlyssFrameSetTxId id (vSetFlag ⟨Vector.replicate 7 0⟩)

/-- The bound is one less than the number of channels. -/
def vBlyssFrameSetChannel (channel : BitVec 8) (f : XBlyssFrame) : XBlyssFrame :=
  if channel.toNat < channels.length - 1 then
    vSetBits blyssIdxChan 4 ((channels.getD channel.toNat 0).setWidth 16) f
  else f

/-- The state is 0 for on, and 1 for off. -/
def vBlyssFrameSetState (state : Bool) (f : XBlyssFrame) : XBlyssFrame :=
  vSetBits blyssIdxState 4 (if state then 0 else 1) f

/-- The global channel of a frame. -/
def ucBlyssFrameGlobalChannel (f : XBlyssFrame) : BitVec 8 :=
  (usGetBits blyssIdxGchan 4 f).setWidth 8

/-- The channel of a frame, or 255. -/
def ucBlyssFrameChannel (f : XBlyssFrame) : BitVec 8 :=
  ucDecodeChannel ((usGetBits blyssIdxChan 4 f).setWidth 8)

/-- The address of a frame. -/
def usBlyssFrameAddress (f : XBlyssFrame) : BitVec 16 := usGetBits blyssIdxAddr 16 f

/-- The state of a frame. -/
def bBlyssFrameState (f : XBlyssFrame) : Bool := usGetBits blyssIdxState 4 f = 0

/-- The first byte and the rolling code are those of a frame. -/
def bBlyssFrameIsValid (f : XBlyssFrame) : Bool :=
  if (f.byte 0).setWidth 16 = blyssFlag then bIsValidRollingCode (ucRollingCode f) else false

/-! ### Sending -/

/-- `while (repeat--)`. -/
def sendFrames (f : XBlyssFrame) : ℕ → Line → ℤ × Line
  | 0, line => (0, line)
  | left + 1, line =>
      let (ret, line) := iSendFrame f line
      if ret ≠ 0 then (-1, line) else sendFrames f left line

/-- What `iBlyssSend` returns, and what it leaves. -/
structure BlyssSent where
  ret : ℤ
  b : XBlyss
  f : XBlyssFrame
  line : Line

/-- The frame gets its rolling code and its token, and is sent so many times. -/
def iBlyssSend (b : XBlyss) (f : XBlyssFrame) (repeats : BitVec 8) (line : Line) : BlyssSent :=
  if b.out then
    let (b, f) := vSetRollingCode b f
    let (b, f) := vSetToken b f
    let (ret, line) := sendFrames f repeats.toNat line
    ⟨ret, b, f, line⟩
  else ⟨0, b, f, line⟩

end Sysio.Gpio
