import Sysio.Lib.Memory
import Sysio.Lib.Polling
import Sysio.Radio.Ax25.Frame
import Sysio.Radio.Crc
import Mathlib.Data.Vector.Basic

/-!
# The AX.25 link layer

The controller object of `radio/src/ax25.c`: polling the line byte by byte, sending a
frame, and decoding a received one.

The physical input is a script of reads, `some c` for a byte and `none` for a `read` that
returns nothing. The physical output is the list of the bytes given to `write`, whose
result the code does not look at. Reading the receive buffer uses addresses below
`AX25_FRAME_BUF_LEN` only, except in the final `memcpy`, which is a fault when its length
leaves the buffer.
-/

namespace Sysio.Radio

def hdlcFlag : UInt8 := 0x7E

def hdlcReset : UInt8 := 0x7F

def ax25Esc : UInt8 := 0x1B

def ax25MinFrameLen : ℕ := 18

/-- The controller, `xAx25`. -/
@[ext]
structure XAx25 where
  fin : ℤ
  fout : ℤ
  buf : Vector UInt8 ax25FrameBufLen
  len : ℕ
  crcIn : UInt16
  crcOut : UInt16
  sync : Bool
  escape : Bool
  frmRecv : Bool
  error : EAx25Error

/-- The controller that `iAx25Clear` leaves. -/
def iAx25Clear : XAx25 where
  fin := 0
  fout := 0
  buf := Vector.replicate ax25FrameBufLen 0
  len := 0
  crcIn := crcCcittInitVal
  crcOut := crcCcittInitVal
  sync := false
  escape := false
  frmRecv := false
  error := .success

/-- The error is kept in the controller, and returned. -/
def prviSetError (p : XAx25) (iError : EAx25Error) : EAx25Error × XAx25 :=
  (iError, { p with error := iError })

/-! ### Reception -/

/-- What `bAx25Poll` does with a byte it has read. -/
def ax25PollByte (p : XAx25) (c : UInt8) : XAx25 :=
  if !p.escape && c == hdlcFlag then
    if p.len ≥ ax25MinFrameLen ∧ p.crcIn = ax25CrcCorrect then
      { p with frmRecv := true }
    else
      { p with sync := true, crcIn := crcCcittInitVal, len := 0 }
  else if !p.escape && c == hdlcReset then
    { p with sync := false }
  else if !p.escape && c == ax25Esc then
    { p with escape := true }
  else if p.sync then
    if room : p.len < ax25FrameBufLen then
      { p with
        buf := p.buf.set p.len c
        len := p.len + 1
        crcIn := usCrcCcittUpdate c p.crcIn
        escape := false }
    else
      { p with sync := false, escape := false }
  else
    { p with escape := false }

/-- One turn of the reading loop of `bAx25Poll`: the loop ends when a frame is received. -/
def ax25PollStep (p : XAx25) (c : UInt8) : XAx25 × Bool :=
  (ax25PollByte p c, (ax25PollByte p c).frmRecv)

/-- `bAx25Poll`: the value returned, the controller, and the reads that were not made. -/
def bAx25Poll (p : XAx25) (script : List (Option UInt8)) :
    Bool × XAx25 × List (Option UInt8) :=
  if p.fin = 0 then (false, p, script)
  else if p.frmRecv then (true, p, script)
  else
    let read := Polling.drain ax25PollStep p script
    (read.1.frmRecv, read)

/-! ### Transmission -/

/-- A controller and the bytes it has given to its output. -/
structure Ax25Tx where
  p : XAx25
  line : List UInt8

/-- One byte is written to the output. -/
def prviPutc (c : UInt8) (tx : Ax25Tx) : Ax25Tx := { tx with line := tx.line ++ [c] }

/-- A byte of the frame, behind an escape where it needs one; it enters the CRC. -/
def prvvPutChar (tx : Ax25Tx) (c : UInt8) : Ax25Tx :=
  let tx := if c = hdlcFlag ∨ c = hdlcReset ∨ c = ax25Esc then prviPutc ax25Esc tx else tx
  prviPutc c { tx with p.crcOut := usCrcCcittUpdate c tx.p.crcOut }

/-- The characters of a callsign, up to the first that may not stand in one. -/
def ax25PutCall (tx : Ax25Tx) : List UInt8 → Bool × Ax25Tx
  | [] => (true, tx)
  | c :: rest =>
      if !(CChar.isalnum c || c == 0x20) then (false, tx)
      else ax25PutCall (prvvPutChar tx (CChar.toupper c <<< 1)) rest

/-- The byte after a callsign: bits 6 and 5 set, the flag in bit 7, the last-address bit in
bit 0. -/
def ax25SsidByte (n : XAx25Node) (last : Bool) : UInt8 :=
  let flagBit : UInt8 := if n.flag then 0x80 else 0
  let lastBit : UInt8 := if last then 0x01 else 0
  (0x60 : UInt8) ||| flagBit ||| n.ssid <<< (1 : UInt8) ||| lastBit

/-- An address: the callsign padded by blanks, and the byte behind it. -/
def prviSendCall (tx : Ax25Tx) (n : XAx25Node) (last : Bool) : EAx25Error × Ax25Tx :=
  match ax25PutCall tx n.callsign.chars with
  | (false, tx) =>
      (.illegalCallsign, { tx with p := (prviSetError tx.p .illegalCallsign).2 })
  | (true, tx) =>
      let pad := List.replicate (ax25CallLen - n.callsign.chars.length) ((0x20 : UInt8) <<< 1)
      let tx := prvvPutChar (pad.foldl prvvPutChar tx) (ax25SsidByte n last)
      (.success, { tx with p := (prviSetError tx.p .success).2 })

/-- The loop over the repeaters, left at the first that cannot be sent. -/
def ax25SendRepeaters (tx : Ax25Tx) : List XAx25Node → EAx25Error × Ax25Tx
  | [] => (.success, tx)
  | n :: rest =>
      match prviSendCall tx n rest.isEmpty with
      | (.success, tx) => ax25SendRepeaters tx rest
      | (iError, tx) => (iError, tx)

/-- `iAx25Send` from the control field on: the addresses have been sent. -/
def ax25SendBody (tx : Ax25Tx) (f : XAx25Frame) : EAx25Error × Ax25Tx :=
  let tx := f.info.foldl prvvPutChar (prvvPutChar (prvvPutChar tx f.ctrl) f.pid)
  -- both CRC bytes are taken before the first is sent
  let crcl := crcLow tx.p.crcOut
  let crch := crcHigh tx.p.crcOut
  let tx := prvvPutChar (prvvPutChar tx crcl) crch
  if tx.p.crcOut ≠ ax25CrcCorrect then
    (.crcError, { tx with p := (prviSetError tx.p .crcError).2 })
  else
    let tx := prviPutc hdlcFlag tx
    (.success, { tx with p := (prviSetError tx.p .success).2 })

/-- `iAx25Send`: the error code, the controller, and the bytes given to the output. -/
def iAx25Send (p : XAx25) (f : XAx25Frame) : EAx25Error × Ax25Tx :=
  if p.fout = 0 then (.fileNotFound, ⟨p, []⟩)
  else
    let tx := prviPutc hdlcFlag ⟨{ p with crcOut := crcCcittInitVal }, []⟩
    match prviSendCall tx f.dst false with
    | (.success, tx) =>
        match prviSendCall tx f.src f.repeaters.isEmpty with
        | (.success, tx) =>
            match ax25SendRepeaters tx f.repeaters with
            | (.success, tx) => ax25SendBody tx f
            | failed => failed
        | failed => failed
    | failed => failed

/-! ### Decoding -/

/-- The byte of the receive buffer that the pointer `buf` designates. -/
def XAx25.byteAt (p : XAx25) (buf : ℕ) : UInt8 := p.buf.toList.getD buf 0

/-- The six characters of a callsign, blanks read as NUL, and the pointer after them. -/
def prvxExtractCallsign (p : XAx25) (buf : ℕ) : List UInt8 × ℕ :=
  ((List.range ax25CallLen).map fun i =>
      let c := p.byteAt (buf + i) >>> 1
      if c = 0x20 then 0 else c,
    buf + ax25CallLen)

/-- The loop over the repeater addresses, `remaining` of `AX25_MAX_RPT` not read yet: `buf`
points to the last byte of the address before. The pointer is moved past that byte by the
test of its last-address bit, made also when the list is full. -/
def ax25DecodeRepeaters (p : XAx25) (remaining : ℕ) (buf : ℕ) (f : XAx25Frame) :
    ℕ × XAx25Frame :=
  match remaining with
  | 0 => (buf + 1, f)
  | remaining + 1 =>
      if p.byteAt buf &&& 0x01 ≠ 0 then (buf + 1, f)
      else
        let index := ax25MaxRpt - (remaining + 1)
        let (cs, buf) := prvxExtractCallsign p (buf + 1)
        let f := (iAx25FrameAddRepeater f cs ((p.byteAt buf >>> 1) &&& 0x0F)).2
        let f := (iAx25FrameSetRepeaterFlag f index (p.byteAt buf &&& 0x80 ≠ 0)).2
        ax25DecodeRepeaters p remaining buf f

/-- The addresses of the buffer: the frame that holds them and the pointer after them. -/
def ax25DecodePath (p : XAx25) : ℕ × XAx25Frame :=
  let (cs, buf) := prvxExtractCallsign p 0
  let f := iAx25FrameSetDst iAx25FrameClear cs ((p.byteAt buf >>> 1) &&& 0x0F)
  let (cs, buf) := prvxExtractCallsign p (buf + 1)
  let f := iAx25FrameSetSrc f cs ((p.byteAt buf >>> 1) &&& 0x0F)
  ax25DecodeRepeaters p ax25MaxRpt buf f

/-- The receiver at the end of a successful decoding. -/
def ax25Ready (p : XAx25) : XAx25 :=
  { p with
    sync := false, crcIn := crcCcittInitVal, len := 0, escape := false, frmRecv := false }

/-- `p->len - 2 - (buf - p->buf)`, a `size_t`. -/
def ax25InfoSize (len buf : ℕ) : ℕ := (len + 2 ^ 64 - 2 - buf) % 2 ^ 64

/-- `prviDecode`: the code returned, the controller, and the frame that `f` becomes. -/
def prviDecode (p : XAx25) : Except Fault (EAx25Error × XAx25 × XAx25Frame) :=
  let (buf, f) := ax25DecodePath p
  let f := { f with ctrl := p.byteAt buf }
  if f.ctrl ≠ ax25CtrlUi then .ok (.invalidFrame, p, f)
  else
    let f := { f with pid := p.byteAt (buf + 1) }
    if f.pid ≠ ax25PidNolayer3 then .ok (.invalidFrame, p, f)
    else
      let buf := buf + 2
      let infoLen := ax25InfoSize p.len buf
      if inside : buf + infoLen ≤ ax25FrameBufLen then
        let f := { f with
          info := (p.buf.toList.drop buf).take infoLen
          info_le := (List.length_take_le _ _).trans (by omega) }
        .ok (.success, ax25Ready p, f)
      else .error .outOfBounds

/-- `iAx25Read`: as `prviDecode`; without a received frame `f` is left as it is. -/
def iAx25Read (p : XAx25) (f : XAx25Frame) : Except Fault (EAx25Error × XAx25 × XAx25Frame) :=
  if !p.frmRecv then .ok (.noFrameReceived, p, f)
  else prviDecode { p with error := .success }

end Sysio.Radio
