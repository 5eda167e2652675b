import Mathlib.Tactic.Ring
import Sysio.Radio.Ax25.Link

/-!
# What `iAx25Send` writes

A frame is a byte string, `XAx25Frame.bytes`, closed by its complemented CRC and escaped
byte by byte between two flags. `iAx25Send_eq` says that a frame whose callsigns can be
sent is always sent, and that these are the bytes written.

The sender runs as a fold of `prvvPutChar`; `Ax25Tx.put` is the effect of such a fold and
`Ax25Tx.sent` the effect of a `prviSendCall`, which also clears the error code.
-/

namespace Sysio.Radio

/-- A byte on the line, behind an escape where it could be taken for a control byte. -/
def escapeByte (c : UInt8) : List UInt8 :=
  if c = hdlcFlag ∨ c = hdlcReset ∨ c = ax25Esc then [ax25Esc, c] else [c]

/-- The bytes as they stand on the line. -/
def escapeBytes (bytes : List UInt8) : List UInt8 := bytes.flatMap escapeByte

@[simp]
theorem escapeBytes_nil : escapeBytes [] = [] := rfl

@[simp]
theorem escapeBytes_cons (c : UInt8) (bytes : List UInt8) :
    escapeBytes (c :: bytes) = escapeByte c ++ escapeBytes bytes := by
  simp [escapeBytes]

@[simp]
theorem escapeBytes_append (before after : List UInt8) :
    escapeBytes (before ++ after) = escapeBytes before ++ escapeBytes after := by
  simp [escapeBytes]

/-- A byte string followed by its CRC, as it stands between the flags. -/
def withCrc (bytes : List UInt8) : List UInt8 :=
  bytes ++ [crcLow (usCrcCcitt crcCcittInitVal bytes), crcHigh (usCrcCcitt crcCcittInitVal bytes)]

theorem usCrcCcitt_withCrc (bytes : List UInt8) :
    usCrcCcitt crcCcittInitVal (withCrc bytes) = ax25CrcCorrect := by
  rw [withCrc, usCrcCcitt_append, usCrcCcitt_complement]

@[simp]
theorem length_withCrc (bytes : List UInt8) : (withCrc bytes).length = bytes.length + 2 := by
  simp [withCrc]

namespace XAx25Node

/-- The callsign has characters only that may stand in one. -/
def Sendable (n : XAx25Node) : Prop :=
  ∀ c ∈ n.callsign.chars, (CChar.isalnum c || c == 0x20) = true

/-- The callsign as it is sent, padded by blanks. -/
def callBytes (n : XAx25Node) : List UInt8 :=
  n.callsign.chars.map (fun c => CChar.toupper c <<< 1) ++
    List.replicate (ax25CallLen - n.callsign.chars.length) ((0x20 : UInt8) <<< 1)

/-- An address as it is sent. -/
def bytes (n : XAx25Node) (last : Bool) : List UInt8 := n.callBytes ++ [ax25SsidByte n last]

@[simp]
theorem length_callBytes (n : XAx25Node) : n.callBytes.length = ax25CallLen := by
  have := n.callsign.length_le
  simp only [callBytes, List.length_append, List.length_map, List.length_replicate]
  omega

@[simp]
theorem length_bytes (n : XAx25Node) (last : Bool) :
    (n.bytes last).length = ax25CallLen + 1 := by
  simp [bytes]

end XAx25Node

/-- The addresses of the repeaters, of which the last one is marked. -/
def repeaterBytes : List XAx25Node → List UInt8
  | [] => []
  | n :: rest => n.bytes rest.isEmpty ++ repeaterBytes rest

@[simp]
theorem length_repeaterBytes (repeaters : List XAx25Node) :
    (repeaterBytes repeaters).length = (ax25CallLen + 1) * repeaters.length := by
  induction repeaters with
  | nil => rfl
  | cons n rest ih =>
      simp only [repeaterBytes, List.length_append, XAx25Node.length_bytes, ih, List.length_cons]
      ring

namespace XAx25Frame

/-- Every address may be sent. -/
def Sendable (f : XAx25Frame) : Prop :=
  f.dst.Sendable ∧ f.src.Sendable ∧ ∀ n ∈ f.repeaters, n.Sendable

/-- The addresses as they are sent. -/
def pathBytes (f : XAx25Frame) : List UInt8 :=
  f.dst.bytes false ++ f.src.bytes f.repeaters.isEmpty ++ repeaterBytes f.repeaters

/-- The bytes of the frame, its CRC left out. -/
def bytes (f : XAx25Frame) : List UInt8 := f.pathBytes ++ f.ctrl :: f.pid :: f.info

theorem length_bytes (f : XAx25Frame) :
    f.bytes.length = (ax25CallLen + 1) * (2 + f.repeatersLen) + 2 + f.infoLen := by
  simp only [bytes, pathBytes, List.length_append, XAx25Node.length_bytes, length_repeaterBytes,
    List.length_cons, repeatersLen, infoLen]
  ring

end XAx25Frame

namespace Ax25Tx

/-- The sender after some bytes given to `prvvPutChar`. -/
def put (tx : Ax25Tx) (bytes : List UInt8) : Ax25Tx :=
  ⟨{ tx.p with crcOut := usCrcCcitt tx.p.crcOut bytes }, tx.line ++ escapeBytes bytes⟩

/-- The sender after some bytes and a `prviSetError (p, AX25_SUCCESS)`. -/
def sent (tx : Ax25Tx) (bytes : List UInt8) : Ax25Tx :=
  ⟨{ tx.p with crcOut := usCrcCcitt tx.p.crcOut bytes, error := .success },
    tx.line ++ escapeBytes bytes⟩

theorem put_put (tx : Ax25Tx) (before after : List UInt8) :
    (tx.put before).put after = tx.put (before ++ after) := by
  simp [put, usCrcCcitt_append]

theorem sent_put (tx : Ax25Tx) (before after : List UInt8) :
    (tx.sent before).put after = tx.sent (before ++ after) := by
  simp [put, sent, usCrcCcitt_append]

theorem sent_sent (tx : Ax25Tx) (before after : List UInt8) :
    (tx.sent before).sent after = tx.sent (before ++ after) := by
  simp [sent, usCrcCcitt_append]

end Ax25Tx

theorem prvvPutChar_eq (tx : Ax25Tx) (c : UInt8) : prvvPutChar tx c = tx.put [c] := by
  by_cases special : c = hdlcFlag ∨ c = hdlcReset ∨ c = ax25Esc <;>
    simp [prvvPutChar, prviPutc, Ax25Tx.put, escapeByte, special]

theorem foldl_prvvPutChar (tx : Ax25Tx) (bytes : List UInt8) :
    bytes.foldl prvvPutChar tx = tx.put bytes := by
  induction bytes generalizing tx with
  | nil => simp [Ax25Tx.put]
  | cons c rest ih => rw [List.foldl_cons, ih, prvvPutChar_eq, Ax25Tx.put_put]; rfl

theorem ax25PutCall_eq (tx : Ax25Tx) (chars : List UInt8)
    (sendable : ∀ c ∈ chars, (CChar.isalnum c || c == 0x20) = true) :
    ax25PutCall tx chars = (true, tx.put (chars.map fun c => CChar.toupper c <<< 1)) := by
  induction chars generalizing tx with
  | nil => simp [ax25PutCall, Ax25Tx.put]
  | cons c rest ih =>
      have here : (!(CChar.isalnum c || c == 0x20)) = false := by
        rw [sendable c (by simp)]
        rfl
      have later := ih (prvvPutChar tx (CChar.toupper c <<< 1)) fun d d_mem =>
        sendable d (by simp [d_mem])
      rw [ax25PutCall, here, later, prvvPutChar_eq, Ax25Tx.put_put]
      simp

theorem prviSendCall_eq (tx : Ax25Tx) {n : XAx25Node} (sendable : n.Sendable) (last : Bool) :
    prviSendCall tx n last = (.success, tx.sent (n.bytes last)) := by
  simp only [prviSendCall, ax25PutCall_eq tx _ sendable, foldl_prvvPutChar, prvvPutChar_eq,
    Ax25Tx.put_put]
  rfl

theorem ax25SendRepeaters_eq (tx : Ax25Tx) (repeaters : List XAx25Node)
    (sendable : ∀ n ∈ repeaters, n.Sendable) :
    ax25SendRepeaters (tx.sent []) repeaters = (.success, tx.sent (repeaterBytes repeaters)) := by
  induction repeaters generalizing tx with
  | nil => rfl
  | cons n rest ih =>
      have later := ih (tx.sent (n.bytes rest.isEmpty)) fun m m_mem => sendable m (by simp [m_mem])
      rw [Ax25Tx.sent_sent, Ax25Tx.sent_sent, List.append_nil] at later
      rw [ax25SendRepeaters, prviSendCall_eq _ (sendable n (by simp)), Ax25Tx.sent_sent]
      exact later

theorem ax25SendBody_eq (p : XAx25) (line path : List UInt8) (f : XAx25Frame) :
    let body := withCrc (path ++ f.ctrl :: f.pid :: f.info)
    ax25SendBody (Ax25Tx.sent ⟨{ p with crcOut := crcCcittInitVal }, line⟩ path) f =
      (.success, ⟨{ p with crcOut := ax25CrcCorrect, error := .success },
        line ++ escapeBytes body ++ [hdlcFlag]⟩) := by
  intro body
  have checked : usCrcCcitt crcCcittInitVal body = ax25CrcCorrect := usCrcCcitt_withCrc _
  simp only [body, withCrc, List.append_assoc, List.cons_append] at checked ⊢
  simp only [ax25SendBody, foldl_prvvPutChar, prvvPutChar_eq, Ax25Tx.sent_put, List.append_assoc,
    List.cons_append, List.nil_append]
  simp [Ax25Tx.sent, checked, prviSetError, prviPutc]

/-- A frame whose callsigns can be sent is sent, as its bytes and their CRC, escaped between
two flags. -/
theorem iAx25Send_eq {p : XAx25} {f : XAx25Frame} (opened : p.fout ≠ 0)
    (sendable : f.Sendable) :
    iAx25Send p f =
      (.success, ⟨{ p with crcOut := ax25CrcCorrect, error := .success },
        hdlcFlag :: escapeBytes (withCrc f.bytes) ++ [hdlcFlag]⟩) := by
  rcases sendable with ⟨dstSendable, srcSendable, repeatersSendable⟩
  have repeaters := fun tx => ax25SendRepeaters_eq tx f.repeaters repeatersSendable
  simp only [iAx25Send, opened, if_false, prviSendCall_eq _ dstSendable,
    prviSendCall_eq _ srcSendable, Ax25Tx.sent_sent]
  rw [← List.append_nil (f.dst.bytes false ++ _), ← Ax25Tx.sent_sent, repeaters, Ax25Tx.sent_sent]
  exact ax25SendBody_eq p [hdlcFlag] f.pathBytes f

end Sysio.Radio
