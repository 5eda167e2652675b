import Sysio.XBee.Packets

/-!
# Sending packets

The send functions of `src/xbee.c`, `src/xbee1.c` and `src/xbee2.c`, with `iXBeeOut`. Each
allocates a packet, fills it in and writes it. A pointer argument is the memory from that address
on. The environment decides whether the allocation succeeds and what it finds there, and how many
bytes each `write` takes; when its script is over, a `write` takes all that it is given.

The lengths given to `pvXBeeAllocPkt` and `iXBeeOut` are narrowed to a `uint8_t`. A store outside
the packet is a fault. `iXBeeOut` is only observed: its calls of `write` are recorded with the
place in the packet that each one starts from, inside the packet or not.
-/

namespace Sysio.XBee

open Layout

/-- A memory that a pointer of the caller designates. -/
abbrev Buffer := ℕ → UInt8

/-- The first `count` bytes of a memory. -/
def memcpy (source : Buffer) (count : ℕ) : List UInt8 := (List.range count).map source

@[simp]
theorem length_memcpy (source : Buffer) (count : ℕ) : (memcpy source count).length = count := by
  rw [memcpy, List.length_map, List.length_range]

/-- The outcome of a `write`: an error, or one byte and some more, as far as it was given them. -/
inductive XBeeWrite where
  | fails
  | takes (more : ℕ)
deriving DecidableEq, Repr

/-- What a send function meets: the block that `malloc` gives, and the outcomes of `write`. -/
structure XBeeSendEnv where
  malloc : Option Buffer
  writes : List XBeeWrite

/-- A call of `write`: the place it starts from, how much it is given and how much it takes. -/
structure XBeeWriteCall where
  place : ℕ
  given : ℕ
  taken : ℕ
deriving DecidableEq, Repr

/-- The places of the packet that the serial line has taken, in order. -/
def takenPlaces (calls : List XBeeWriteCall) : List ℕ :=
  calls.flatMap fun call => List.range' call.place call.taken

/-- What `iXBeeOut` returns, its calls of `write`, and how often it frees the packet. -/
structure XBeeOut where
  code : ℤ
  calls : List XBeeWriteCall
  frees : ℕ
deriving DecidableEq, Repr

/-- The loop of `iXBeeOut`. `pkt` points to structures, so that `&pkt[iDataWrite]` is as many
structures away from it. -/
def xbeeOutLoop : List XBeeWrite → ℕ → ℕ → List XBeeWriteCall × ℤ
  | [], iDataWrite, len =>
      if len = 0 then ([], 0) else ([⟨iDataWrite * size xXBeePkt, len, len⟩], 0)
  | write :: writes, iDataWrite, len =>
      if len = 0 then ([], 0)
      else
        match write with
        | .fails => ([⟨iDataWrite * size xXBeePkt, len, 0⟩], -1)
        | .takes more =>
            let taken := min (more + 1) len
            let rest := xbeeOutLoop writes taken (len - taken)
            (⟨iDataWrite * size xXBeePkt, len, taken⟩ :: rest.1, rest.2)

/-- The packet is freed where all of it was taken. -/
def iXBeeOut (writes : List XBeeWrite) (len : UInt8) : XBeeOut :=
  let loop := xbeeOutLoop writes 0 len.toNat
  { code := loop.2, calls := loop.1, frees := if loop.2 = 0 then 1 else 0 }

/-- What a send function returns and leaves: the frame id counter, the packet it has allocated,
how often it was freed, and the calls of `write`. -/
structure XBeeSent where
  code : ℤ
  frameId : UInt8
  packet : Option (List UInt8)
  frees : ℕ
  calls : List XBeeWriteCall
deriving DecidableEq, Repr

def enomem : ℤ := 12

def einval : ℤ := 22

/-- The block has the bytes that were found in it. -/
def pvXBeeAllocPkt (env : XBeeSendEnv) (len : UInt8) : Option (List UInt8) :=
  env.malloc.map fun found => memcpy found len.toNat

/-- The next frame id, which is never 0. -/
def ucXBeeNextFrameId (frameId : UInt8) : UInt8 :=
  if frameId + 1 = 0 then frameId + 1 + 1 else frameId + 1

/-- `XBEE_HDR_INIT`, with `htons`. -/
def xbeeHdrInit (dataLen : ℕ) : List (XBeeField × List UInt8) :=
  [(.start, [xbeePktStart]), (.len, [UInt8.ofNat (dataLen / 256), UInt8.ofNat dataLen])]

/-- What is particular to a send function: its constants, the fields it stores behind the header
in their order, its test of the result of `iXBeeOut`, and whether it frees the packet when the
test fails. -/
structure XBeeBuild where
  alloc : ℕ
  dataLen : ℕ
  struct : XBeeStruct
  fields : UInt8 → List (XBeeField × List UInt8)
  checksum : ℕ
  out : ℕ
  succeeds : ℤ → Bool
  freesOnError : Bool

/-- The places and bytes stored into the packet, the checksum left out. -/
def XBeeBuild.stores (build : XBeeBuild) (frameId : UInt8) : List (ℕ × List UInt8) :=
  (xbeeHdrInit build.dataLen ++ build.fields frameId).map fun entry =>
    (offset build.struct entry.1, entry.2)

/-- The packet filled in, its checksum last. -/
def xbeeFill (build : XBeeBuild) (frameId : UInt8) (found : List UInt8) :
    Except Fault (List UInt8) :=
  match storeAll found (build.stores frameId) with
  | none => .error .outOfBounds
  | some pkt => do
      let crc ← ucXBeeCrc pkt
      match store pkt build.checksum [crc] with
      | none => .error .outOfBounds
      | some pkt => return pkt

/-- The course that the send functions share. -/
def xbeeSend (env : XBeeSendEnv) (frameId : UInt8) (build : XBeeBuild) :
    Except Fault XBeeSent :=
  match pvXBeeAllocPkt env (UInt8.ofNat build.alloc) with
  | none => .ok { code := -enomem, frameId, packet := none, frees := 0, calls := [] }
  | some found => do
      let id := ucXBeeNextFrameId frameId
      let pkt ← xbeeFill build id found
      let out := iXBeeOut env.writes (UInt8.ofNat build.out)
      if build.succeeds out.code then
        return { code := id.toNat, frameId := id, packet := some pkt, frees := out.frees,
                 calls := out.calls }
      else
        return { code := out.code, frameId := id, packet := some pkt,
                 frees := out.frees + if build.freesOnError then 1 else 0, calls := out.calls }

/-- What is particular to `iXBeeSendAt`. -/
def sendAtBuild (cmd : Buffer) (params : Option Buffer) (paramLen : UInt8) : XBeeBuild where
  alloc := paramLen.toNat + 8
  dataLen := paramLen.toNat + 4
  struct := xXBeeAtCmdPkt
  fields id :=
    [(.type, [xbeePktTypeAtcmd]), (.frameId, [id]), (.command, [cmd 0, cmd 1])] ++
      (match params with
        | some params =>
            if paramLen ≠ 0 then [(.param, memcpy params paramLen.toNat)] else []
        | none => [])
  checksum := offset xXBeeAtCmdPkt .param + paramLen.toNat
  out := size xXBeeAtCmdPkt + paramLen.toNat + 1
  succeeds ret := ret ≥ 0
  freesOnError := true

/-- A local AT command is sent. -/
def iXBeeSendAt (env : XBeeSendEnv) (frameId : UInt8) (cmd : Buffer) (params : Option Buffer)
    (paramLen : UInt8) : Except Fault XBeeSent :=
  xbeeSend env frameId (sendAtBuild cmd params paramLen)

/-- What is particular to `iXBeeSendRemoteAt`; a field `apply` that is not 0 is sent as 2. -/
def sendRemoteAtBuild (cmd params : Buffer) (paramLen : UInt8) (addr64 addr16 : Buffer)
    (apply : UInt8) : XBeeBuild where
  alloc := paramLen.toNat + 19
  dataLen := paramLen.toNat + 15
  struct := xXBeeRemoteAtCmdPkt
  fields id :=
    [(.type, [xbeePktTypeRemoteAtcmd]), (.frameId, [id]), (.dest64, memcpy addr64 8),
      (.dest16, memcpy addr16 2), (.apply, [if apply ≠ 0 then 2 else 0]),
      (.command, [cmd 0, cmd 1]), (.param, memcpy params paramLen.toNat)]
  checksum := offset xXBeeRemoteAtCmdPkt .param + paramLen.toNat
  out := size xXBeeRemoteAtCmdPkt + paramLen.toNat + 1
  succeeds ret := ret = 0
  freesOnError := true

/-- A remote AT command is sent. -/
def iXBeeSendRemoteAt (env : XBeeSendEnv) (frameId : UInt8) (cmd params : Buffer)
    (paramLen : UInt8) (addr64 addr16 : Buffer) (apply : UInt8) : Except Fault XBeeSent :=
  xbeeSend env frameId (sendRemoteAtBuild cmd params paramLen addr64 addr16 apply)

/-- What is particular to `iXBeeSend64`. -/
def send64Build (data : Buffer) (len : UInt8) (addr : Buffer) (opt : UInt8) : XBeeBuild where
  alloc := len.toNat + 15
  dataLen := len.toNat + 11
  struct := xXBeeTxReq64Pkt
  fields id :=
    [(.type, [xbeePktTypeTx64]), (.dest, memcpy addr 8), (.opt, [opt]), (.frameId, [id]),
      (.data, memcpy data len.toNat)]
  checksum := offset xXBeeTxReq64Pkt .data + len.toNat
  out := len.toNat + size xXBeeTxReq64Pkt + 1
  succeeds ret := ret ≥ 0
  freesOnError := true

/-- Data are sent to a 64-bit address. -/
def iXBeeSend64 (env : XBeeSendEnv) (frameId : UInt8) (data : Buffer) (len : UInt8)
    (addr : Buffer) (opt : UInt8) : Except Fault XBeeSent :=
  xbeeSend env frameId (send64Build data len addr opt)

/-- What is particular to `iXBeeSend16`. -/
def send16Build (data : Buffer) (len : UInt8) (addr : Buffer) (opt : UInt8) : XBeeBuild where
  alloc := len.toNat + 9
  dataLen := len.toNat + 5
  struct := xXBeeTxReq16Pkt
  fields id :=
    [(.type, [xbeePktTypeTx16]), (.dest, memcpy addr 2), (.opt, [opt]), (.frameId, [id]),
      (.data, memcpy data len.toNat)]
  checksum := offset xXBeeTxReq16Pkt .data + len.toNat
  out := len.toNat + size xXBeeTxReq16Pkt + 1
  succeeds ret := ret ≥ 0
  freesOnError := true

/-- Data are sent to a 16-bit address. -/
def iXBeeSend16 (env : XBeeSendEnv) (frameId : UInt8) (data : Buffer) (len : UInt8)
    (addr : Buffer) (opt : UInt8) : Except Fault XBeeSent :=
  xbeeSend env frameId (send16Build data len addr opt)

/-- `pkt_size`. -/
def zbPktSize (len : UInt8) : ℕ := len.toNat + size xXBeeZbTxReqPkt + 1

/-- What is particular to `iXBeeZbSend`, which does not free the packet on an error. -/
def zbSendBuild (data : Buffer) (len : UInt8) (addr64 addr16 : Buffer) (opt radius : UInt8) :
    XBeeBuild where
  alloc := zbPktSize len
  dataLen := zbPktSize len - 4
  struct := xXBeeZbTxReqPkt
  fields id :=
    [(.type, [xbeePktTypeZbTxReq]), (.dest64, memcpy addr64 8), (.dest16, memcpy addr16 2),
      (.opt, [opt]), (.radius, [radius]), (.frameId, [id]), (.data, memcpy data len.toNat)]
  checksum := offset xXBeeZbTxReqPkt .data + len.toNat
  out := zbPktSize len
  succeeds ret := ret = 0
  freesOnError := false

/-- Data are sent by series 2; a null pointer is refused. -/
def iXBeeZbSend (env : XBeeSendEnv) (frameId : UInt8) (data : Option Buffer) (len : UInt8)
    (addr64 addr16 : Option Buffer) (opt radius : UInt8) : Except Fault XBeeSent :=
  match data, addr64, addr16 with
  | some data, some addr64, some addr16 =>
      xbeeSend env frameId (zbSendBuild data len addr64 addr16 opt radius)
  | _, _, _ => .ok { code := -einval, frameId, packet := none, frees := 0, calls := [] }

/-- A call of one of the send functions. -/
inductive XBeeRequest where
  | sendAt (cmd : Buffer) (params : Option Buffer) (paramLen : UInt8)
  | sendRemoteAt (cmd params : Buffer) (paramLen : UInt8) (addr64 addr16 : Buffer) (apply : UInt8)
  | send64 (data : Buffer) (len : UInt8) (addr : Buffer) (opt : UInt8)
  | send16 (data : Buffer) (len : UInt8) (addr : Buffer) (opt : UInt8)
  | zbSend (data : Option Buffer) (len : UInt8) (addr64 addr16 : Option Buffer)
      (opt radius : UInt8)

/-- The send function of a request. -/
def xbeeRequest (env : XBeeSendEnv) (frameId : UInt8) : XBeeRequest → Except Fault XBeeSent
  | .sendAt cmd params paramLen => iXBeeSendAt env frameId cmd params paramLen
  | .sendRemoteAt cmd params paramLen addr64 addr16 apply =>
      iXBeeSendRemoteAt env frameId cmd params paramLen addr64 addr16 apply
  | .send64 data len addr opt => iXBeeSend64 env frameId data len addr opt
  | .send16 data len addr opt => iXBeeSend16 env frameId data len addr opt
  | .zbSend data len addr64 addr16 opt radius =>
      iXBeeZbSend env frameId data len addr64 addr16 opt radius

end Sysio.XBee
