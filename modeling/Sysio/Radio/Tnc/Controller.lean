import Mathlib.Data.Vector.Basic
import Sysio.Lib.CString
import Sysio.Lib.Memory
import Sysio.Lib.Polling
import Sysio.Radio.Crc

/-!
# The terminal node controller

`radio/src/tnc.c`: a message is sent as hexadecimal digits between control characters, with
the CRC of the digits behind it. `size` is the size of the receive buffer, given to
`xTncNew`; writing beyond it is a fault.

The script of reads has `some (byte c)` for a byte, `some ioError` for a failing `read` and
`none` for a `read` that returns nothing. The writer is given the results of its calls of
`write`, after which every call writes its byte.
-/

namespace Sysio.Radio

def tncSoh : ℤ := 1

def tncStx : ℤ := 2

def tncEtx : ℤ := 3

def tncEot : ℤ := 4

def tncTxt : ℤ := 5

def tncCrc : ℤ := 6

def tncCrcError : ℤ := -1

def tncIllegalMsg : ℤ := -4

def tncFileNotFound : ℤ := -5

def tncIoError : ℤ := -6

/-- The controller, `xTnc`, whose receive buffer has `size` bytes. -/
structure XTnc (size : ℕ) where
  fin : ℤ
  fout : ℤ
  rxbuf : Vector UInt8 size
  len : ℕ
  /-- Computed from what is received. -/
  crcRx : UInt16
  /-- Received from the sender. -/
  crcTx : UInt16
  /-- The last control character of a message, 0, or an error code. -/
  state : ℤ
  cnt : UInt8
  msb : UInt8

/-- What a read that does not find the line empty gives. -/
inductive TncRead where
  | byte (c : UInt8)
  | ioError
deriving DecidableEq, Repr

/-- The value of a hexadecimal digit. -/
def htoi (c : UInt8) : UInt8 :=
  let c := CChar.toupper c
  let c := if CChar.isdigit c then c else c - 7
  c - 0x30

section Poll

variable {size : ℕ}

/-- A hexadecimal digit, in the text, in the CRC, or outside any message. -/
def tncPollDigit (p : XTnc size) (c : UInt8) : Except Fault (XTnc size) :=
  if p.state = tncStx then
    let p := { p with crcRx := usCrcCcittUpdate c p.crcRx }
    if p.cnt &&& 1 ≠ 0 then
      if room : p.len < size then
        .ok { p with
          cnt := p.cnt + 1
          rxbuf := p.rxbuf.set p.len (p.msb + htoi c)
          len := p.len + 1 }
      else .error .outOfBounds
    else .ok { p with cnt := p.cnt + 1, msb := htoi c <<< 4 }
  else if p.state = tncEtx then
    if p.cnt ≤ 12 then
      .ok { p with
        crcTx := p.crcTx + (htoi c).toUInt16 <<< (12 - p.cnt).toUInt16
        cnt := p.cnt + 4 }
    else .ok { p with state := tncIllegalMsg }
  else .ok { p with state := 0 }

/-- What `iTncPoll` does with a byte, and whether it returns at once. -/
def tncPollByte (p : XTnc size) (c : UInt8) : Except Fault (XTnc size × Bool) :=
  if c.toNat = tncSoh then
    .ok ({ p with crcRx := crcCcittInitVal, state := tncSoh, len := 0 }, false)
  else if c.toNat = tncStx then
    if p.state = tncSoh then .ok ({ p with cnt := 0, state := tncStx }, false)
    else .ok ({ p with state := 0 }, false)
  else if c.toNat = tncEtx then
    if p.state = tncStx then .ok ({ p with cnt := 0, crcTx := 0, state := tncEtx }, false)
    else .ok ({ p with state := 0 }, false)
  else if c.toNat = tncEot then
    if p.state = tncEtx then
      if p.crcRx ≠ p.crcTx then .ok ({ p with state := tncCrcError }, true)
      else .ok ({ p with state := tncEot }, false)
    else .ok ({ p with state := 0 }, false)
  else if CChar.isxdigit c then (tncPollDigit p c).map fun p => (p, false)
  else .ok (p, false)

/-- One turn of the reading loop of `iTncPoll`, and whether it is the last. -/
def tncPollStep (p : Except Fault (XTnc size)) (read : TncRead) :
    Except Fault (XTnc size) × Bool :=
  match p, read with
  | .error fault, _ => (.error fault, true)
  | .ok p, .ioError => (.ok { p with state := tncIoError }, true)
  | .ok p, .byte c =>
      match tncPollByte p c with
      | .error fault => (.error fault, true)
      | .ok (p, returns) => (.ok p, returns || p.state == tncEot)

/-- A message that was reported is forgotten at the next call. -/
def tncPollEntry (p : XTnc size) : XTnc size :=
  if p.state = tncEot then { p with state := 0 } else p

/-- `iTncPoll`: the value returned is the state that the controller is left in. -/
def iTncPoll (p : XTnc size) (script : List (Option TncRead)) :
    Except Fault (ℤ × XTnc size) × List (Option TncRead) :=
  let p := tncPollEntry p
  if p.fin < 0 then (.ok (tncFileNotFound, { p with state := tncFileNotFound }), script)
  else
    let (p, script) := Polling.drain tncPollStep (.ok p) script
    (p.map fun p => (p.state, p), script)

end Poll

section Write

/-- The local variables of `iTncWrite`. -/
structure TncWriter where
  state : ℤ
  cnt : UInt8
  index : ℕ
  str : List UInt8
  crc : UInt16

/-- One turn of the loop of `iTncWrite`: the character to write, `none` for a `continue`. -/
def tncWriteStep (b : List UInt8) (w : TncWriter) : TncWriter × Option UInt8 :=
  if w.state = tncSoh then ({ w with state := tncStx }, some 1)
  else if w.state = tncStx then ({ w with state := tncTxt }, some 2)
  else if w.state = tncTxt then
    if b.length ≠ 0 then
      if w.cnt &&& 1 ≠ 0 then
        let c := w.str.getD 1 0
        ({ w with
          cnt := w.cnt + 1
          index := w.index + 1
          state := if w.index + 1 ≥ b.length then tncEtx else w.state
          crc := usCrcCcittUpdate c w.crc }, some c)
      else
        let str := CChar.print02X (b.getD w.index 0)
        let c := str.getD 0 0
        ({ w with cnt := w.cnt + 1, str, crc := usCrcCcittUpdate c w.crc }, some c)
    else ({ w with state := tncEtx }, none)
  else if w.state = tncEtx then
    ({ w with cnt := 0, state := tncCrc, str := CChar.print04X w.crc }, some 3)
  else
    if w.cnt < 4 then ({ w with cnt := w.cnt + 1 }, some (w.str.getD w.cnt.toNat 0))
    else ({ w with state := tncEot }, some 4)

/-- The loop around `write`: the results left, and `none` for an error. -/
def tncPutc (c : UInt8) (line : List UInt8) : List ℤ → List ℤ × Option (List UInt8)
  | [] => ([], some (line ++ [c]))
  | i :: writes =>
      if i < 0 then (writes, none)
      else if i = 0 then tncPutc c line writes
      else (writes, some (line ++ [c]))

/-- The loop of `iTncWrite`: `none` when it needs more than `fuel` turns, else the index, or
`none` for an error of `write`, and the bytes written. -/
def tncWriteLoop (b : List UInt8) : ℕ → TncWriter → List ℤ → List UInt8 →
    Option (Option ℕ × List UInt8)
  | 0, _, _, _ => none
  | fuel + 1, w, writes, line =>
      if w.state = tncEot then some (some w.index, line)
      else
        match tncWriteStep b w with
        | (w, none) => tncWriteLoop b fuel w writes line
        | (w, some c) =>
            match tncPutc c line writes with
            | (_, none) => some (none, line)
            | (writes, some line) => tncWriteLoop b fuel w writes line

/-- `iTncWrite`: the value returned, the controller, and the bytes written. The loop is given
the number of its turns. -/
def iTncWrite {size : ℕ} (p : XTnc size) (b : List UInt8) (writes : List ℤ) :
    Option (ℤ × XTnc size × List UInt8) :=
  if p.fout < 0 then some (tncFileNotFound, { p with state := tncFileNotFound }, [])
  else
    (tncWriteLoop b (2 * b.length + 10) ⟨tncSoh, 0, 0, [], crcCcittInitVal⟩ writes []).map
      fun written => match written with
        | (some index, line) => (index, p, line)
        | (none, line) => (tncIoError, { p with state := tncIoError }, line)

end Write

end Sysio.Radio
