import Mathlib.Data.FinEnum
import Mathlib.Data.List.Basic
import Sysio.Lib.Memory

/-!
# The XBee receiver

`vXBeeIn` of `src/xbee.c`, which builds packets out of the chunks of bytes read from the serial
line, with `ucXBeeCrc`. The packets live in a heap of blocks; a block is the receiver's until it
is handed to `iXBeeRecvPktCB`, after which it is the callback's or freed. Reading or writing a
block that the receiver does not own, beyond its end, or through a null pointer is a fault, and
so is reading beyond the chunk.

The environment decides which allocations succeed and which packets a callback takes. The
`continue` that follows a refused header leaves `len` one too large, so that `len` is kept
apart from the bytes of the chunk that are left.
-/

namespace Sysio.XBee

def xbeePktStart : UInt8 := 0x7E

def xbeeMaxRfPayload : ℕ := 255

/-- `XBEE_MAX_DATA_LEN`. -/
def xbeeMaxDataLen : ℕ := xbeeMaxRfPayload - 4

/-- Who has to free a block. -/
inductive XBeeOwner where
  | receiver
  | callback
  | freed
deriving DecidableEq, Repr

/-- A block that `malloc` has given. -/
structure XBeeBlock where
  bytes : List UInt8
  owner : XBeeOwner
deriving DecidableEq, Repr

/-- What the library cannot choose: the result of each `malloc`, and whether the n-th packet
is taken by a callback. -/
structure XBeeEnv where
  alloc : ℕ → Bool
  taken : ℕ → Bool

/-- The `in` part of the context, and what happens around it. -/
structure XXBee where
  bytesLeft : UInt8
  bytesRcvd : UInt8
  /-- The block that the packet pointer designates, `none` for `NULL`. -/
  packet : Option ℕ
  hdrData : List UInt8
  heap : List XBeeBlock
  allocs : ℕ
  /-- The packets handed to `iXBeeRecvPktCB`, each with the length argument. -/
  delivered : List (List UInt8 × UInt8)

/-- The receiver of a context that was just opened. -/
def xbeeOpened : XXBee where
  bytesLeft := 0
  bytesRcvd := 0
  packet := none
  hdrData := [0, 0, 0]
  heap := []
  allocs := 0
  delivered := []

/-- The bytes given to one call of `vXBeeIn`, whose `len` is a `uint8_t`. -/
structure XBeeChunk where
  bytes : List UInt8
  length_lt : bytes.length < 256

/-- The length that the stored header announces. -/
def xbeeDataLen (hdr : List UInt8) : ℕ := (hdr.getD 1 0).toNat * 256 + (hdr.getD 2 0).toNat

namespace XXBee

/-- `hdr_data[bytes_rcvd++] = c`. -/
def storeHdr (xbee : XXBee) (c : UInt8) : XXBee :=
  { xbee with
    hdrData := xbee.hdrData.set xbee.bytesRcvd.toNat c
    bytesRcvd := xbee.bytesRcvd + 1 }

/-- The block of the packet pointer, which the receiver must own. -/
def block (xbee : XXBee) : Except Fault (ℕ × List UInt8) :=
  match xbee.packet with
  | none => .error .nullPointer
  | some index =>
      match xbee.heap[index]? with
      | some ⟨bytes, .receiver⟩ => .ok (index, bytes)
      | _ => .error .notOwned

/-- `((uint8_t *) packet)[bytes_rcvd++] = c`. -/
def storePkt (xbee : XXBee) (c : UInt8) : Except Fault XXBee :=
  match xbee.block with
  | .error fault => .error fault
  | .ok (index, bytes) =>
      if xbee.bytesRcvd.toNat < bytes.length then
        .ok { xbee with
          heap := xbee.heap.set index ⟨bytes.set xbee.bytesRcvd.toNat c, .receiver⟩
          bytesRcvd := xbee.bytesRcvd + 1 }
      else .error .outOfBounds

end XXBee

/-- `ucXBeeCrc`: the sum runs over as many bytes as the header announces. -/
def ucXBeeCrc (bytes : List UInt8) : Except Fault UInt8 :=
  if 3 + xbeeDataLen bytes ≤ bytes.length then
    .ok (~~~(((bytes.drop 3).take (xbeeDataLen bytes)).foldl (· + ·) 0))
  else .error .outOfBounds

/-- How a part of the `switch` ends: by a `return`, by a `continue`, or by falling through,
with the bytes of the chunk not read yet and the value of `len`. -/
inductive XBeeFlow where
  | returns (xbee : XXBee)
  | continues (xbee : XXBee) (data : List UInt8) (len : ℕ)
  | falls (xbee : XXBee) (data : List UInt8) (len : ℕ)

/-- The part that follows, entered by falling through. -/
def XBeeFlow.fallThru (flow : Except Fault XBeeFlow)
    (next : XXBee → List UInt8 → ℕ → Except Fault XBeeFlow) : Except Fault XBeeFlow :=
  match flow with
  | .ok (.falls xbee data len) => next xbee data len
  | other => other

/-- `case 0`: the bytes before a start delimiter are skipped. -/
def xbeeCase0 (xbee : XXBee) : List UInt8 → ℕ → Except Fault XBeeFlow
  | [], _ => .error .outOfBounds
  | c :: data, len =>
      if c ≠ xbeePktStart then
        if len - 1 = 0 then .ok (.returns xbee) else xbeeCase0 xbee data (len - 1)
      else if len - 1 = 0 then .ok (.returns (xbee.storeHdr c))
      else .ok (.falls (xbee.storeHdr c) data (len - 1))

/-- `case 1`: the first byte of the length. -/
def xbeeCase1 (xbee : XXBee) : List UInt8 → ℕ → Except Fault XBeeFlow
  | [], _ => .error .outOfBounds
  | c :: data, len =>
      if len - 1 = 0 then .ok (.returns (xbee.storeHdr c))
      else .ok (.falls (xbee.storeHdr c) data (len - 1))

/-- The header is complete: the announced length is narrowed to a `uint8_t`, and a packet is
allocated for it; `none` when the header is refused. -/
def xbeeHeader (env : XBeeEnv) (xbee : XXBee) : XXBee × Bool :=
  let bytesLeft := UInt8.ofNat (xbeeDataLen xbee.hdrData)
  if bytesLeft.toNat > xbeeMaxDataLen then ({ xbee with bytesLeft := 0 }, false)
  else if !env.alloc xbee.allocs then
    ({ xbee with bytesLeft := 0, packet := none, allocs := xbee.allocs + 1 }, false)
  else
    let bytes := xbee.hdrData ++ List.replicate (bytesLeft.toNat + 4 - 3) 0
    ({ xbee with
      bytesLeft := bytesLeft + 1
      packet := some xbee.heap.length
      heap := xbee.heap ++ [⟨bytes, .receiver⟩]
      allocs := xbee.allocs + 1 }, true)

/-- `case 2`. The refusal of a header does not count the byte it has read. -/
def xbeeCase2 (env : XBeeEnv) (xbee : XXBee) : List UInt8 → ℕ → Except Fault XBeeFlow
  | [], _ => .error .outOfBounds
  | c :: data, len =>
      match xbeeHeader env (xbee.storeHdr c) with
      | (xbee, false) => .ok (.continues xbee data len)
      | (xbee, true) =>
          if len - 1 = 0 then .ok (.returns xbee) else .ok (.falls xbee data (len - 1))

/-- `default`: the loop `while (bytes_left--)`. -/
def xbeeDefault (xbee : XXBee) : List UInt8 → ℕ → Except Fault XBeeFlow
  | [], len =>
      if xbee.bytesLeft = 0 then .ok (.falls { xbee with bytesLeft := xbee.bytesLeft - 1 } [] len)
      else .error .outOfBounds
  | c :: data, len =>
      if xbee.bytesLeft = 0 then
        .ok (.falls { xbee with bytesLeft := xbee.bytesLeft - 1 } (c :: data) len)
      else
        match { xbee with bytesLeft := xbee.bytesLeft - 1 }.storePkt c with
        | .error fault => .error fault
        | .ok xbee =>
            if len - 1 = 0 ∧ xbee.bytesLeft ≠ 0 then .ok (.returns xbee)
            else xbeeDefault xbee data (len - 1)

/-- The `switch` on `bytes_rcvd`. -/
def xbeeSwitch (env : XBeeEnv) (xbee : XXBee) (data : List UInt8) (len : ℕ) :
    Except Fault XBeeFlow :=
  if xbee.bytesRcvd = 0 then
    XBeeFlow.fallThru (XBeeFlow.fallThru (XBeeFlow.fallThru (xbeeCase0 xbee data len) xbeeCase1)
      (xbeeCase2 env)) xbeeDefault
  else if xbee.bytesRcvd = 1 then
    XBeeFlow.fallThru (XBeeFlow.fallThru (xbeeCase1 xbee data len) (xbeeCase2 env)) xbeeDefault
  else if xbee.bytesRcvd = 2 then XBeeFlow.fallThru (xbeeCase2 env xbee data len) xbeeDefault
  else xbeeDefault xbee data len

/-- What follows the `switch`: the packet is checked, and handed over when the check passes.
It is freed if no callback has taken it. -/
def xbeeCheck (env : XBeeEnv) (xbee : XXBee) : Except Fault XXBee :=
  match xbee.block with
  | .error fault => .error fault
  | .ok (index, bytes) =>
      match ucXBeeCrc bytes with
      | .error fault => .error fault
      | .ok crc =>
          if xbee.bytesRcvd.toNat - 1 < bytes.length then
            if crc ≠ bytes.getD (xbee.bytesRcvd.toNat - 1) 0 then .ok { xbee with bytesRcvd := 0 }
            else
              let owner :=
                if env.taken xbee.delivered.length then XBeeOwner.callback else XBeeOwner.freed
              .ok { xbee with
                bytesRcvd := 0
                heap := xbee.heap.set index ⟨bytes, owner⟩
                delivered := xbee.delivered ++ [(bytes, xbee.bytesRcvd)] }
          else .error .outOfBounds

/-! ### The loop over the chunk -/

/-- A part of the `switch` that goes on leaves fewer than `bound` bytes of the chunk; if `len`
exceeded the chunk, it still does, and the part does not return. -/
def XBeeFlow.Follows (bound : ℕ) (overrun : Prop) : XBeeFlow → Prop
  | .returns _ => ¬overrun
  | .continues _ data len => data.length < bound ∧ (overrun → data.length < len)
  | .falls _ data len => data.length < bound ∧ (overrun → data.length < len)

theorem follows_xbeeCase0 {xbee : XXBee} {data : List UInt8} {len : ℕ} {flow : XBeeFlow}
    (ends : xbeeCase0 xbee data len = .ok flow) :
    flow.Follows data.length (data.length < len) := by
  induction data generalizing len with
  | nil => simp [xbeeCase0] at ends
  | cons c data ih =>
      rw [List.length_cons]
      simp only [xbeeCase0] at ends
      split_ifs at ends
      · cases ends
        exact (by omega : ¬data.length + 1 < len)
      · have later := ih ends
        cases flow with
        | returns => exact fun overrun => later (by omega)
        | continues => exact ⟨later.1.trans (Nat.lt_succ_self _), fun overrun => later.2 (by omega)⟩
        | falls => exact ⟨later.1.trans (Nat.lt_succ_self _), fun overrun => later.2 (by omega)⟩
      · cases ends
        exact (by omega : ¬data.length + 1 < len)
      · cases ends
        exact ⟨Nat.lt_succ_self _, fun overrun => by omega⟩

theorem follows_xbeeCase1 {xbee : XXBee} {data : List UInt8} {len : ℕ} {flow : XBeeFlow}
    (ends : xbeeCase1 xbee data len = .ok flow) :
    flow.Follows data.length (data.length < len) := by
  cases data with
  | nil => simp [xbeeCase1] at ends
  | cons c data =>
      rw [List.length_cons]
      simp only [xbeeCase1] at ends
      split_ifs at ends <;> cases ends
      · exact (by omega : ¬data.length + 1 < len)
      · exact ⟨Nat.lt_succ_self _, fun overrun => by omega⟩

theorem follows_xbeeCase2 {env : XBeeEnv} {xbee : XXBee} {data : List UInt8} {len : ℕ}
    {flow : XBeeFlow} (ends : xbeeCase2 env xbee data len = .ok flow) :
    flow.Follows data.length (data.length < len) := by
  cases data with
  | nil => simp [xbeeCase2] at ends
  | cons c data =>
      rw [List.length_cons]
      simp only [xbeeCase2] at ends
      split at ends
      · cases ends
        exact ⟨Nat.lt_succ_self _, fun overrun => by omega⟩
      · split_ifs at ends <;> cases ends
        · exact (by omega : ¬data.length + 1 < len)
        · exact ⟨Nat.lt_succ_self _, fun overrun => by omega⟩

theorem follows_xbeeDefault {xbee : XXBee} {data : List UInt8} {len : ℕ} {flow : XBeeFlow}
    (ends : xbeeDefault xbee data len = .ok flow) :
    flow.Follows (data.length + 1) (data.length < len) ∧
      ∀ next rest left, flow ≠ .continues next rest left := by
  induction data generalizing xbee len with
  | nil =>
      simp only [xbeeDefault] at ends
      split_ifs at ends
      cases ends
      exact ⟨⟨Nat.lt_succ_self _, id⟩, by simp⟩
  | cons c data ih =>
      simp only [xbeeDefault] at ends
      split_ifs at ends
      · cases ends
        exact ⟨⟨Nat.lt_succ_self _, id⟩, by simp⟩
      · rw [List.length_cons]
        split at ends
        · cases ends
        · split_ifs at ends with last
          · cases ends
            exact ⟨(by omega : ¬data.length + 1 < len), by simp⟩
          · rcases ih ends with ⟨later, notContinues⟩
            refine ⟨?_, notContinues⟩
            cases flow with
            | returns => exact fun overrun => later (by omega)
            | continues next rest left => exact absurd rfl (notContinues next rest left)
            | falls => exact ⟨later.1.trans (Nat.lt_succ_self _), fun overrun => later.2 (by omega)⟩

theorem follows_fallThru {data : List UInt8} {len : ℕ} {first : Except Fault XBeeFlow}
    {next : XXBee → List UInt8 → ℕ → Except Fault XBeeFlow} {flow : XBeeFlow}
    (firstFollows : ∀ flow, first = .ok flow → flow.Follows data.length (data.length < len))
    (nextFollows : ∀ xbee rest left flow, next xbee rest left = .ok flow →
      flow.Follows (rest.length + 1) (rest.length < left))
    (ends : XBeeFlow.fallThru first next = .ok flow) :
    flow.Follows data.length (data.length < len) := by
  simp only [XBeeFlow.fallThru] at ends
  split at ends
  · rcases firstFollows _ rfl with ⟨shorter, overruns⟩
    have follows := nextFollows _ _ _ _ ends
    cases flow with
    | returns => exact fun overrun => follows (overruns overrun)
    | continues => exact ⟨by have := follows.1; omega, fun overrun => follows.2 (overruns overrun)⟩
    | falls => exact ⟨by have := follows.1; omega, fun overrun => follows.2 (overruns overrun)⟩
  · exact firstFollows _ ends

theorem XBeeFlow.Follows.weaken {bound : ℕ} {overrun : Prop} {flow : XBeeFlow}
    (follows : flow.Follows bound overrun) : flow.Follows (bound + 1) overrun := by
  cases flow with
  | returns => exact follows
  | continues => exact ⟨follows.1.trans (Nat.lt_succ_self _), follows.2⟩
  | falls => exact ⟨follows.1.trans (Nat.lt_succ_self _), follows.2⟩

theorem behindHeader_iff {bytesRcvd : UInt8} :
    3 ≤ bytesRcvd ↔ bytesRcvd ≠ 0 ∧ bytesRcvd ≠ 1 ∧ bytesRcvd ≠ 2 := by
  revert bytesRcvd
  decide +kernel

/-- A turn of the loop uses up some of the chunk, or checks a packet. -/
theorem follows_xbeeSwitch {env : XBeeEnv} {xbee : XXBee} {data : List UInt8} {len : ℕ}
    {flow : XBeeFlow} (ends : xbeeSwitch env xbee data len = .ok flow) :
    flow.Follows data.length (data.length < len) ∨
      3 ≤ xbee.bytesRcvd ∧ flow.Follows (data.length + 1) (data.length < len) ∧
        ∀ next rest left, flow ≠ .continues next rest left := by
  have case1 := fun xbee rest left flow (ends : xbeeCase1 xbee rest left = .ok flow) =>
    (follows_xbeeCase1 ends).weaken
  have case2 := fun xbee rest left flow (ends : xbeeCase2 env xbee rest left = .ok flow) =>
    (follows_xbeeCase2 ends).weaken
  have default := fun xbee rest left flow (ends : xbeeDefault xbee rest left = .ok flow) =>
    (follows_xbeeDefault ends).1
  simp only [xbeeSwitch] at ends
  split_ifs at ends with is0 is1 is2
  · exact Or.inl (follows_fallThru (fun flow => follows_fallThru (fun flow =>
      follows_fallThru (fun flow => follows_xbeeCase0) case1) case2) default ends)
  · exact Or.inl (follows_fallThru (fun flow =>
      follows_fallThru (fun flow => follows_xbeeCase1) case2) default ends)
  · exact Or.inl (follows_fallThru (fun flow => follows_xbeeCase2) default ends)
  · exact Or.inr ⟨behindHeader_iff.mpr ⟨is0, is1, is2⟩, follows_xbeeDefault ends⟩

theorem bytesRcvd_xbeeCheck {env : XBeeEnv} {xbee next : XXBee}
    (checked : xbeeCheck env xbee = .ok next) : next.bytesRcvd = 0 := by
  simp only [xbeeCheck] at checked
  split at checked
  · cases checked
  · split at checked
    · cases checked
    · split_ifs at checked <;> cases checked <;> rfl

/-- The loop of `vXBeeIn`. -/
def vXBeeLoop (env : XBeeEnv) (xbee : XXBee) (data : List UInt8) (len : ℕ) :
    Except Fault XXBee :=
  if len = 0 then .ok xbee
  else
    match _ends : xbeeSwitch env xbee data len with
    | .error fault => .error fault
    | .ok (.returns xbee) => .ok xbee
    | .ok (.continues xbee data len) => vXBeeLoop env xbee data len
    | .ok (.falls next data len) =>
        match _checked : xbeeCheck env next with
        | .error fault => .error fault
        | .ok xbee => vXBeeLoop env xbee data len
termination_by 2 * data.length + if 3 ≤ xbee.bytesRcvd then 1 else 0
decreasing_by
  · rcases follows_xbeeSwitch _ends with follows | ⟨_, _, notContinues⟩
    · have shorter := follows.1
      split_ifs <;> omega
    · exact absurd rfl (notContinues _ _ _)
  · have notBehind : ¬(3 : UInt8) ≤ xbee.bytesRcvd := by
      rw [bytesRcvd_xbeeCheck _checked]
      decide
    rw [if_neg notBehind]
    rcases follows_xbeeSwitch _ends with follows | ⟨behind, follows, _⟩
    · have shorter := follows.1
      omega
    · have notLonger := follows.1
      rw [if_pos behind]
      omega

/-- One call with a chunk of the stream. -/
def vXBeeIn (env : XBeeEnv) (xbee : XXBee) (chunk : XBeeChunk) : Except Fault XXBee :=
  vXBeeLoop env xbee chunk.bytes chunk.bytes.length

/-- The calls with one chunk after the other. -/
def xbeeRun (env : XBeeEnv) (xbee : XXBee) (chunks : List XBeeChunk) : Except Fault XXBee :=
  chunks.foldlM (vXBeeIn env) xbee

end Sysio.XBee
