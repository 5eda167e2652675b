import Sysio.Lib.CString

/-!
# AX.25 nodes and frames

The objects of `radio/include/radio/ax25.h` and the functions of `radio/src/ax25.c` that
the decoder builds a frame with. A frame owns its nodes, so the node pointers are the nodes
themselves; the `char` arrays are `CString`s, and the bounds that the C arrays impose on
the repeater list and on the information field are fields of the frame.
-/

namespace Sysio.Radio

def ax25MaxRpt : ℕ := 8

def ax25CallLen : ℕ := 6

def ax25InfoLen : ℕ := 256

/-- `AX25_FRAME_BUF_LEN`. -/
def ax25FrameBufLen : ℕ := (ax25CallLen + 1) * (2 + ax25MaxRpt) + ax25InfoLen + 4

def ax25CtrlUi : UInt8 := 0x03

def ax25PidNolayer3 : UInt8 := 0xF0

/-- The error codes, `AX25_SUCCESS = 0` to `AX25_NO_FRAME_RECEIVED = -10`. -/
inductive EAx25Error where
  | success
  | fileAccessError
  | illegalCallsign
  | invalidFrame
  | crcError
  | notEnoughMemory
  | notEnoughRepeater
  | objectNotFound
  | fileNotFound
  | illegalRepeater
  | noFrameReceived
deriving DecidableEq, Repr

/-- An address: `callsign`, `ssid` and the flag, which says that a repeater has relayed. -/
@[ext]
structure XAx25Node where
  callsign : CString ax25CallLen
  ssid : UInt8
  flag : Bool
deriving DecidableEq

/-- The node that `iAx25NodeClear` leaves. -/
def iAx25NodeClear : XAx25Node := ⟨CString.empty, 0, false⟩

/-- The callsign is copied by `strncpy`. -/
def iAx25NodeSetCallsign (node : XAx25Node) (callsign : List UInt8) : XAx25Node :=
  { node with callsign := CString.strncpy ax25CallLen callsign }

/-- A frame, whose repeaters and information fit in their arrays. -/
@[ext]
structure XAx25Frame where
  dst : XAx25Node
  src : XAx25Node
  repeaters : List XAx25Node
  ctrl : UInt8
  pid : UInt8
  /-- The first `info_len` bytes of the `info` array. -/
  info : List UInt8
  repeaters_le : repeaters.length ≤ ax25MaxRpt
  info_le : info.length ≤ ax25FrameBufLen
deriving DecidableEq

namespace XAx25Frame

/-- `repeaters_len`. -/
def repeatersLen (frame : XAx25Frame) : ℕ := frame.repeaters.length

/-- `info_len`. -/
def infoLen (frame : XAx25Frame) : ℕ := frame.info.length

end XAx25Frame

/-- A UI frame without layer 3 and without contents. -/
def iAx25FrameClear : XAx25Frame where
  dst := iAx25NodeClear
  src := iAx25NodeClear
  repeaters := []
  ctrl := ax25CtrlUi
  pid := ax25PidNolayer3
  info := []
  repeaters_le := by simp
  info_le := by simp

/-- The address of the source. -/
def iAx25FrameSetSrc (frame : XAx25Frame) (callsign : List UInt8) (ssid : UInt8) : XAx25Frame :=
  { frame with src := { iAx25NodeSetCallsign frame.src callsign with ssid } }

/-- The address of the destination. -/
def iAx25FrameSetDst (frame : XAx25Frame) (callsign : List UInt8) (ssid : UInt8) : XAx25Frame :=
  { frame with dst := { iAx25NodeSetCallsign frame.dst callsign with ssid } }

/-- Adds a repeater and returns its index; the list holds `AX25_MAX_RPT` nodes at most. -/
def iAx25FrameAddRepeater (frame : XAx25Frame) (callsign : List UInt8) (ssid : UInt8) :
    Except EAx25Error ℕ × XAx25Frame :=
  if room : frame.repeaters.length < ax25MaxRpt then
    let node := { iAx25NodeSetCallsign iAx25NodeClear callsign with ssid }
    (.ok frame.repeaters.length,
      { frame with
        repeaters := frame.repeaters ++ [node]
        repeaters_le := by simpa [Nat.succ_le_iff] using room })
  else (.error .illegalRepeater, frame)

/-- Sets the flag of a repeater that exists. -/
def iAx25FrameSetRepeaterFlag (frame : XAx25Frame) (index : ℕ) (flag : Bool) :
    EAx25Error × XAx25Frame :=
  if index ≥ frame.repeaters.length then (.illegalRepeater, frame)
  else
    (.success,
      { frame with
        repeaters := frame.repeaters.modify index fun node => { node with flag }
        repeaters_le := by simpa using frame.repeaters_le })

/-- The frame that `xAx25FrameNew` returns. -/
def xAx25FrameNew : XAx25Frame := iAx25FrameClear

/-- The information is cut at the size of its array. -/
def iAx25FrameSetInfo (frame : XAx25Frame) (info : List UInt8) : XAx25Frame :=
  { frame with
    info := info.take ax25FrameBufLen
    info_le := List.length_take_le _ _ }

theorem iAx25FrameSetRepeaterFlag_addRepeater (frame : XAx25Frame) (callsign : List UInt8)
    (ssid : UInt8) (flag : Bool) (room : frame.repeaters.length < ax25MaxRpt) :
    (iAx25FrameSetRepeaterFlag (iAx25FrameAddRepeater frame callsign ssid).2
        frame.repeaters.length flag).2 =
      { frame with
        repeaters := frame.repeaters ++ [⟨CString.strncpy ax25CallLen callsign, ssid, flag⟩]
        repeaters_le := List.length_append.trans_le room } := by
  have added : (iAx25FrameAddRepeater frame callsign ssid).2.repeaters =
      frame.repeaters ++ [⟨CString.strncpy ax25CallLen callsign, ssid, false⟩] := by
    simp [iAx25FrameAddRepeater, room, iAx25NodeSetCallsign, iAx25NodeClear]
  have inRange : ¬frame.repeaters.length ≥
      (iAx25FrameAddRepeater frame callsign ssid).2.repeaters.length := by
    simp [added]
  simp only [iAx25FrameSetRepeaterFlag, inRange, if_false]
  apply XAx25Frame.ext
  case repeaters =>
    simp [added, List.modify_eq_take_cons_drop]
  all_goals simp [iAx25FrameAddRepeater, room]

end Sysio.Radio
