import Sysio.XBee.Output
import Sysio.XBee.Reception

/-!
# The frames that are sent

The constants of each send function agree with the structure that it fills (`shaped_build`). So a
packet of at most 255 bytes is filled with exactly one frame (`exists_xbeeFill`). The size of a
longer one is narrowed when the packet is allocated, and its checksum is stored outside
(`exists_fault_xbeeFill`).

From this follow the exact conditions under which a send function sends the whole frame or
nothing (`sendsOrRefuses_iff`), and disposes of its packet (`disposes_iff`).
-/

namespace Sysio.XBee

open Layout

/-- What is sent of a request, in the order of its structure, behind the header. A missing
parameter is not stored, and neither is one of no bytes. -/
def XBeeRequest.contents (id : UInt8) : XBeeRequest → List (List UInt8)
  | .sendAt cmd params paramLen =>
      [[xbeePktTypeAtcmd], [id], [cmd 0, cmd 1]] ++
        if paramLen ≠ 0 then (params.map fun params => memcpy params paramLen.toNat).toList else []
  | .sendRemoteAt cmd params paramLen addr64 addr16 apply =>
      [[xbeePktTypeRemoteAtcmd], [id], memcpy addr64 8, memcpy addr16 2,
        [if apply ≠ 0 then 2 else 0], [cmd 0, cmd 1], memcpy params paramLen.toNat]
  | .send64 data len addr opt =>
      [[xbeePktTypeTx64], [id], memcpy addr 8, [opt], memcpy data len.toNat]
  | .send16 data len addr opt =>
      [[xbeePktTypeTx16], [id], memcpy addr 2, [opt], memcpy data len.toNat]
  | .zbSend (some data) len (some addr64) (some addr16) opt radius =>
      [[xbeePktTypeZbTxReq], [id], memcpy addr64 8, memcpy addr16 2, [radius], [opt],
        memcpy data len.toNat]
  | .zbSend _ _ _ _ _ _ => []

/-- The size of the frame of a request. -/
def XBeeRequest.total : XBeeRequest → ℕ
  | .sendAt _ _ paramLen => paramLen.toNat + 8
  | .sendRemoteAt _ _ paramLen _ _ _ => paramLen.toNat + 19
  | .send64 _ len _ _ => len.toNat + 15
  | .send16 _ len _ _ => len.toNat + 9
  | .zbSend _ len _ _ _ _ => len.toNat + 18

/-- `iXBeeZbSend` is given a null pointer. -/
def XBeeRequest.NullArgument : XBeeRequest → Prop
  | .zbSend data _ addr64 addr16 _ _ => data = none ∨ addr64 = none ∨ addr16 = none
  | _ => False

/-- The request is one of `iXBeeZbSend`. -/
def XBeeRequest.IsZbSend : XBeeRequest → Prop
  | .zbSend _ _ _ _ _ _ => True
  | _ => False

/-! ### Filling the packet -/

/-- The constants of a build fit its structure, for a frame of `total` bytes. -/
structure XBeeBuild.Shaped (build : XBeeBuild) (total : ℕ) (contents : UInt8 → List (List UInt8)) :
    Prop where
  alloc : build.alloc = total
  dataLen : build.dataLen + 4 = total
  checksum : build.checksum + 1 = total
  out : build.out = total
  stores : ∀ id, (build.stores id).Perm (placed 0 ([xbeePktStart] ::
    [UInt8.ofNat (build.dataLen / 256), UInt8.ofNat build.dataLen] :: contents id))
  short : ∀ id, (contents id).flatten.length + 4 ≤ total
  success : build.succeeds 0 = true
  failure : build.succeeds (-1) = false

/-- A frame of `total` bytes that checks and starts with the contents. -/
structure XBeeFrame.Holds (frame : XBeeFrame) (total : ℕ) (contents : List (List UInt8)) :
    Prop where
  checks : frame.Checks
  announced : frame.payload.length = xbeeAnnounced frame.high frame.low
  length : frame.payload.length + 4 = total
  starts : contents.flatten <+: frame.payload

theorem XBeeFrame.length_bytes (frame : XBeeFrame) :
    frame.bytes.length = frame.payload.length + 4 := by
  simp [XBeeFrame.bytes]

/-- The checksum of a packet is stored over its last byte. -/
theorem store_checksum (high low : UInt8) (payload : List UInt8) (last crc : UInt8) :
    store (XBeeFrame.bytes ⟨high, low, payload, last⟩) (payload.length + 3) [crc] =
      some (XBeeFrame.bytes ⟨high, low, payload, crc⟩) := by
  have inside : payload.length + 3 + [crc].length ≤
      (XBeeFrame.bytes ⟨high, low, payload, last⟩).length := by
    rw [XBeeFrame.length_bytes, List.length_singleton]
  rw [store_eq inside]
  simp [XBeeFrame.bytes]

section

variable {build : XBeeBuild} {total : ℕ} {contents : UInt8 → List (List UInt8)}

/-- The packet is filled with one frame: the contents, whatever was behind them, and the
checksum. -/
theorem exists_xbeeFill (shaped : build.Shaped total contents) (id : UInt8)
    {found : List UInt8} (room : found.length = total) (fits : total ≤ 255) :
    ∃ frame : XBeeFrame, xbeeFill build id found = .ok frame.bytes ∧
      frame.Holds total (contents id) := by
  have dataLen := shaped.dataLen
  have checksum := shaped.checksum
  have short := shaped.short id
  let high := UInt8.ofNat (build.dataLen / 256)
  let low := UInt8.ofNat build.dataLen
  have announced : xbeeAnnounced high low = build.dataLen := by
    simp only [xbeeAnnounced, high, low, UInt8.toNat_ofNat']
    omega
  let rest := (contents id).flatten ++ found.drop (3 + (contents id).flatten.length)
  have restLength : rest.length = build.dataLen + 1 := by
    simp only [rest, List.length_append, List.length_drop]
    omega
  have nonempty : rest ≠ [] := List.ne_nil_of_length_pos (by omega)
  let payload := rest.dropLast
  have payloadLength : payload.length = build.dataLen := by
    simp only [payload, List.length_dropLast]
    omega
  let filled : XBeeFrame := ⟨high, low, payload, rest.getLast nonempty⟩
  have stored : storeAll found (build.stores id) = some filled.bytes := by
    have fields : ([xbeePktStart] :: [high, low] :: contents id).flatten =
        xbeePktStart :: high :: low :: (contents id).flatten := rfl
    have length : ([xbeePktStart] :: [high, low] :: contents id).flatten.length =
        3 + (contents id).flatten.length := by
      rw [fields]
      simp only [List.length_cons]
      omega
    rw [storeAll_of_perm (shaped.stores id) (length.le.trans (by omega)), length, fields]
    simp only [filled, XBeeFrame.bytes, payload, List.dropLast_concat_getLast, rest,
      List.cons_append]
  have crc : ucXBeeCrc filled.bytes = .ok (0xFF - payload.sum) :=
    ucXBeeCrc_frame (payloadLength.trans announced.symm)
  have place : build.checksum = payload.length + 3 := by omega
  have complete : store filled.bytes build.checksum [0xFF - payload.sum] =
      some (XBeeFrame.bytes ⟨high, low, payload, 0xFF - payload.sum⟩) := by
    rw [place]
    exact store_checksum _ _ _ _ _
  refine ⟨⟨high, low, payload, 0xFF - payload.sum⟩, ?_, ?_⟩
  · simp only [xbeeFill, stored, crc, bind, Except.bind, complete]
    rfl
  · exact
      { checks := rfl
        announced := payloadLength.trans announced.symm
        length := by simp only [payloadLength, dataLen]
        starts := by
          refine List.prefix_of_prefix_length_le (List.prefix_append _ _)
            (List.dropLast_prefix rest) ?_
          change _ ≤ payload.length
          omega }

/-- A packet that is shorter than its frame is overrun, by the checksum at the latest. -/
theorem exists_fault_xbeeFill (shaped : build.Shaped total contents) (id : UInt8)
    {found : List UInt8} (short : found.length < total) :
    ∃ fault, xbeeFill build id found = .error fault := by
  have checksum := shaped.checksum
  cases stored : storeAll found (build.stores id) with
  | none => exact ⟨.outOfBounds, by simp only [xbeeFill, stored]⟩
  | some pkt =>
      have length := length_storeAll _ stored
      cases sum : ucXBeeCrc pkt with
      | error fault => exact ⟨fault, by simp only [xbeeFill, stored, sum, bind, Except.bind]⟩
      | ok crc =>
          have outside : store pkt build.checksum [crc] = none := by
            rw [store, if_neg (by simp only [List.length_singleton]; omega)]
          exact ⟨.outOfBounds, by simp only [xbeeFill, stored, sum, bind, Except.bind, outside]⟩

end

/-! ### The five builds -/

theorem shaped_sendAt (cmd : Buffer) (params : Option Buffer) (paramLen : UInt8) :
    (sendAtBuild cmd params paramLen).Shaped (paramLen.toNat + 8) fun id =>
      (XBeeRequest.sendAt cmd params paramLen).contents id where
  alloc := rfl
  dataLen := rfl
  checksum := by
    change 7 + paramLen.toNat + 1 = _
    omega
  out := by
    change 7 + paramLen.toNat + 1 = _
    omega
  stores id := by
    cases params with
    | none =>
        simp only [XBeeRequest.contents, Option.map_none, Option.toList_none, ite_self]
        exact .of_eq rfl
    | some params =>
        simp only [XBeeRequest.contents, sendAtBuild, XBeeBuild.stores]
        split
        · exact .of_eq rfl
        · exact .of_eq rfl
  short id := by
    cases params with
    | none => simp [XBeeRequest.contents]
    | some params =>
        simp only [XBeeRequest.contents]
        split <;> simp
  success := rfl
  failure := rfl

theorem shaped_sendRemoteAt (cmd params : Buffer) (paramLen : UInt8) (addr64 addr16 : Buffer)
    (apply : UInt8) :
    (sendRemoteAtBuild cmd params paramLen addr64 addr16 apply).Shaped (paramLen.toNat + 19)
      fun id => (XBeeRequest.sendRemoteAt cmd params paramLen addr64 addr16 apply).contents id where
  alloc := rfl
  dataLen := rfl
  checksum := by
    change 18 + paramLen.toNat + 1 = _
    omega
  out := by
    change 18 + paramLen.toNat + 1 = _
    omega
  stores id := .of_eq rfl
  short id := by
    simp [XBeeRequest.contents]
    omega
  success := rfl
  failure := rfl

/-- The frame id is stored late, behind the address and the options. -/
theorem shaped_send64 (data : Buffer) (len : UInt8) (addr : Buffer) (opt : UInt8) :
    (send64Build data len addr opt).Shaped (len.toNat + 15) fun id =>
      (XBeeRequest.send64 data len addr opt).contents id where
  alloc := rfl
  dataLen := rfl
  checksum := by
    change 14 + len.toNat + 1 = _
    omega
  out := rfl
  stores id := .cons _ (.cons _ (.cons _ (@List.perm_middle _ _ [_, _] [_])))
  short id := by
    simp [XBeeRequest.contents]
    omega
  success := rfl
  failure := rfl

theorem shaped_send16 (data : Buffer) (len : UInt8) (addr : Buffer) (opt : UInt8) :
    (send16Build data len addr opt).Shaped (len.toNat + 9) fun id =>
      (XBeeRequest.send16 data len addr opt).contents id where
  alloc := rfl
  dataLen := rfl
  checksum := by
    change 8 + len.toNat + 1 = _
    omega
  out := rfl
  stores id := .cons _ (.cons _ (.cons _ (@List.perm_middle _ _ [_, _] [_])))
  short id := by
    simp [XBeeRequest.contents]
    omega
  success := rfl
  failure := rfl

/-- The options are stored before the radius, and the frame id behind both. -/
theorem shaped_zbSend (data : Buffer) (len : UInt8) (addr64 addr16 : Buffer)
    (opt radius : UInt8) :
    (zbSendBuild data len addr64 addr16 opt radius).Shaped (len.toNat + 18) fun id =>
      (XBeeRequest.zbSend (some data) len (some addr64) (some addr16) opt radius).contents id where
  alloc := rfl
  dataLen := rfl
  checksum := by
    change 17 + len.toNat + 1 = _
    omega
  out := rfl
  stores id := .cons _ (.cons _ (.cons _ ((@List.perm_middle _ _ [_, _, _, _] [_]).trans
    (.cons _ (.cons _ (.cons _ (.swap _ _ _)))))))
  short id := by
    simp [XBeeRequest.contents]
    omega
  success := rfl
  failure := rfl

/-! ### What a call leaves -/

theorem xbeeRequest_cases (env : XBeeSendEnv) (frameId : UInt8) (request : XBeeRequest) :
    request.NullArgument ∧ xbeeRequest env frameId request =
        .ok { code := -einval, frameId, packet := none, frees := 0, calls := [] } ∨
      ¬request.NullArgument ∧ ∃ build : XBeeBuild,
        xbeeRequest env frameId request = xbeeSend env frameId build ∧
        build.Shaped request.total (fun id => request.contents id) ∧
        (build.freesOnError = true ↔ ¬request.IsZbSend) := by
  cases request with
  | sendAt cmd params paramLen =>
      exact .inr ⟨id, _, rfl, shaped_sendAt cmd params paramLen, fun _ => id, fun _ => rfl⟩
  | sendRemoteAt cmd params paramLen addr64 addr16 apply =>
      exact .inr ⟨id, _, rfl, shaped_sendRemoteAt cmd params paramLen addr64 addr16 apply,
        fun _ => id, fun _ => rfl⟩
  | send64 data len addr opt =>
      exact .inr ⟨id, _, rfl, shaped_send64 data len addr opt, fun _ => id, fun _ => rfl⟩
  | send16 data len addr opt =>
      exact .inr ⟨id, _, rfl, shaped_send16 data len addr opt, fun _ => id, fun _ => rfl⟩
  | zbSend data len addr64 addr16 opt radius =>
      rcases data with _ | data
      · exact .inl ⟨.inl rfl, rfl⟩
      · rcases addr64 with _ | addr64
        · exact .inl ⟨.inr (.inl rfl), rfl⟩
        · rcases addr16 with _ | addr16
          · exact .inl ⟨.inr (.inr rfl), rfl⟩
          · refine .inr ⟨by simp [XBeeRequest.NullArgument], _, rfl,
              shaped_zbSend data len addr64 addr16 opt radius, fun frees => ?_, fun other => ?_⟩
            · cases frees
            · exact absurd trivial other

section

variable {env : XBeeSendEnv} {build : XBeeBuild} {total : ℕ}
  {contents : UInt8 → List (List UInt8)} {memory : Buffer}

theorem xbeeSend_of_no_memory (failed : env.malloc = none) (frameId : UInt8)
    (build : XBeeBuild) :
    xbeeSend env frameId build =
      .ok { code := -enomem, frameId, packet := none, frees := 0, calls := [] } := by
  simp only [xbeeSend, pvXBeeAllocPkt, failed, Option.map_none]

/-- The size of a long packet wraps around before it is allocated. -/
theorem exists_fault_xbeeSend (shaped : build.Shaped total contents)
    (allocated : env.malloc = some memory) (long : 256 ≤ total) (frameId : UInt8) :
    ∃ fault, xbeeSend env frameId build = .error fault := by
  have found : pvXBeeAllocPkt env (UInt8.ofNat build.alloc) =
      some (memcpy memory (UInt8.ofNat total).toNat) := by
    rw [pvXBeeAllocPkt, allocated, shaped.alloc]
    rfl
  have small : (memcpy memory (UInt8.ofNat total).toNat).length < total := by
    have := (UInt8.ofNat total).toNat_lt
    rw [length_memcpy]
    omega
  rcases exists_fault_xbeeFill shaped (ucXBeeNextFrameId frameId) small with ⟨fault, filled⟩
  refine ⟨fault, ?_⟩
  simp only [xbeeSend, found, filled, bind, Except.bind]

/-- A frame that fits is written, and the result of `iXBeeOut` decides what happens then. -/
theorem exists_xbeeSend (shaped : build.Shaped total contents)
    (allocated : env.malloc = some memory) (fits : total ≤ 255) (frameId : UInt8) :
    ∃ sent frame, xbeeSend env frameId build = .ok sent ∧
      XBeeFrame.Holds frame total (contents (ucXBeeNextFrameId frameId)) ∧
      sent.packet = some frame.bytes ∧ sent.calls = (xbeeOutLoop env.writes 0 total).1 ∧
      (¬WriteFails env.writes total ∧ sent.code = (ucXBeeNextFrameId frameId).toNat ∧
          sent.frees = 1 ∨
        WriteFails env.writes total ∧ sent.code = -1 ∧
          sent.frees = if build.freesOnError then 1 else 0) := by
  have exact : (UInt8.ofNat total).toNat = total := by
    rw [UInt8.toNat_ofNat']
    omega
  have found : pvXBeeAllocPkt env (UInt8.ofNat build.alloc) = some (memcpy memory total) := by
    rw [pvXBeeAllocPkt, allocated, shaped.alloc, exact]
    rfl
  have room : (memcpy memory total).length = total := length_memcpy memory total
  rcases exists_xbeeFill shaped (ucXBeeNextFrameId frameId) room fits with ⟨frame, filled, holds⟩
  have out : iXBeeOut env.writes (UInt8.ofNat build.out) =
      { code := (xbeeOutLoop env.writes 0 total).2, calls := (xbeeOutLoop env.writes 0 total).1,
        frees := if (xbeeOutLoop env.writes 0 total).2 = 0 then 1 else 0 } := by
    rw [shaped.out, iXBeeOut, exact]
  rcases code_xbeeOutLoop env.writes 0 total with ⟨code, succeeds⟩ | ⟨code, fails⟩
  · rw [code] at out
    let sent : XBeeSent :=
      { code := (ucXBeeNextFrameId frameId).toNat, frameId := ucXBeeNextFrameId frameId,
        packet := some frame.bytes, frees := 1, calls := (xbeeOutLoop env.writes 0 total).1 }
    refine ⟨sent, frame, ?_, holds, rfl, rfl, .inl ⟨succeeds, rfl, rfl⟩⟩
    simp only [xbeeSend, found, filled, bind, Except.bind, out, shaped.success, if_true]
    rfl
  · rw [code] at out
    let sent : XBeeSent :=
      { code := -1, frameId := ucXBeeNextFrameId frameId, packet := some frame.bytes,
        frees := if build.freesOnError then 1 else 0,
        calls := (xbeeOutLoop env.writes 0 total).1 }
    refine ⟨sent, frame, ?_, holds, rfl, rfl, .inr ⟨fails, rfl, rfl⟩⟩
    simp only [xbeeSend, found, filled, bind, Except.bind, out, shaped.failure,
      Bool.false_eq_true, if_false]
    rw [if_neg (by decide), Nat.zero_add]
    rfl

end

/-! ### Everything or nothing -/

/-- The packet has room for the frame of `total` bytes that its header announces, and the line
has taken these bytes in their order. -/
def XBeeSent.Whole (sent : XBeeSent) (total : ℕ) : Prop :=
  ∃ pkt, sent.packet = some pkt ∧ xbeeDataLen pkt + 4 = total ∧ total ≤ pkt.length ∧
    takenPlaces sent.calls = List.range total

/-- A call stores nothing outside its packet. It sends the whole frame, or else nothing, and
then it returns a negative value. -/
def SendsOrRefuses (env : XBeeSendEnv) (frameId : UInt8) (request : XBeeRequest) : Prop :=
  ∃ sent, xbeeRequest env frameId request = .ok sent ∧
    (sent.Whole request.total ∨ sent.code < 0 ∧ takenPlaces sent.calls = [])

theorem XBeeFrame.Holds.xbeeDataLen {frame : XBeeFrame} {total : ℕ}
    {contents : List (List UInt8)} (holds : frame.Holds total contents) :
    xbeeDataLen frame.bytes + 4 = total := by
  have announced : XBee.xbeeDataLen frame.bytes = xbeeAnnounced frame.high frame.low := rfl
  rw [announced, ← holds.announced, holds.length]

section

variable {env : XBeeSendEnv} {request : XBeeRequest}

theorem sendsOrRefuses_of_null (isNull : request.NullArgument) (frameId : UInt8) :
    SendsOrRefuses env frameId request := by
  rcases xbeeRequest_cases env frameId request with ⟨-, refused⟩ | ⟨notNull, -⟩
  · exact ⟨_, refused, .inr ⟨by simp only [einval]; decide, rfl⟩⟩
  · exact absurd isNull notNull

theorem sendsOrRefuses_of_no_memory (failed : env.malloc = none) (frameId : UInt8)
    (request : XBeeRequest) : SendsOrRefuses env frameId request := by
  rcases xbeeRequest_cases env frameId request with ⟨isNull, -⟩ | ⟨-, build, calls, -, -⟩
  · exact sendsOrRefuses_of_null isNull frameId
  · rw [xbeeSend_of_no_memory failed] at calls
    exact ⟨_, calls, .inr ⟨by simp only [enomem]; decide, rfl⟩⟩

theorem sendsOrRefuses_of_fits (fits : request.total ≤ 255)
    (notPartial : ¬FirstPartial env.writes request.total) (frameId : UInt8) :
    SendsOrRefuses env frameId request := by
  rcases xbeeRequest_cases env frameId request with ⟨isNull, -⟩ | ⟨-, build, same, shaped, -⟩
  · exact sendsOrRefuses_of_null isNull frameId
  · cases allocated : env.malloc with
    | none => exact sendsOrRefuses_of_no_memory allocated frameId request
    | some memory =>
        rcases exists_xbeeSend shaped allocated fits frameId with
          ⟨sent, frame, sends, holds, packet, calls, code⟩
        refine ⟨sent, same.trans sends, ?_⟩
        have some : request.total ≠ 0 := by
          have := holds.length
          omega
        rcases xbeeOutLoop_of_not_firstPartial 0 some notPartial with loop | loop
        · refine .inl ⟨frame.bytes, packet, holds.xbeeDataLen, ?_, ?_⟩
          · rw [frame.length_bytes, holds.length]
          · rw [calls, loop, List.range_eq_range']
            exact List.append_nil _
        · refine .inr ⟨?_, ?_⟩
          · rcases code with ⟨succeeds, -⟩ | ⟨-, code, -⟩
            · rcases code_xbeeOutLoop env.writes 0 request.total with ⟨zero, -⟩ | ⟨-, fails⟩
              · rw [loop] at zero
                cases zero
              · exact absurd fails succeeds
            · rw [code]
              decide
          · rw [calls, loop]
            rfl

theorem not_sendsOrRefuses_of_long (notNull : ¬request.NullArgument) (allocated : env.malloc ≠ none)
    (long : 255 < request.total) (frameId : UInt8) : ¬SendsOrRefuses env frameId request := by
  rintro ⟨sent, sends, -⟩
  rcases xbeeRequest_cases env frameId request with ⟨isNull, -⟩ | ⟨-, build, same, shaped, -⟩
  · exact notNull isNull
  · rcases Option.ne_none_iff_exists'.mp allocated with ⟨memory, found⟩
    rcases exists_fault_xbeeSend shaped found long frameId with ⟨fault, faults⟩
    rw [same, faults] at sends
    cases sends

theorem not_sendsOrRefuses_of_firstPartial (notNull : ¬request.NullArgument)
    (allocated : env.malloc ≠ none) (partially : FirstPartial env.writes request.total)
    (frameId : UInt8) : ¬SendsOrRefuses env frameId request := by
  by_cases long : 255 < request.total
  · exact not_sendsOrRefuses_of_long notNull allocated long frameId
  rintro ⟨sent, sends, outcome⟩
  rcases xbeeRequest_cases env frameId request with ⟨isNull, -⟩ | ⟨-, build, same, shaped, -⟩
  · exact notNull isNull
  · rcases Option.ne_none_iff_exists'.mp allocated with ⟨memory, found⟩
    rcases exists_xbeeSend shaped found (Nat.not_lt.mp long) frameId with
      ⟨other, frame, fills, -, -, calls, -⟩
    rw [same, fills] at sends
    cases sends
    rcases outcome with ⟨pkt, -, -, -, whole⟩ | ⟨-, nothing⟩
    · rw [calls] at whole
      exact takenPlaces_ne_range partially whole
    · rcases exists_calls_of_firstPartial 0 partially with
        ⟨taken, more, tail, positive, -, first, -⟩
      rw [calls, first, takenPlaces_cons] at nothing
      have empty := (List.append_eq_nil_iff.mp nothing).1
      simp only [List.range'_eq_nil_iff] at empty
      omega

end

/-- Beyond refusing what it does not attempt, a send function keeps its word exactly for frames of
at most 255 bytes whose first `write` is not partial. -/
theorem sendsOrRefuses_iff (env : XBeeSendEnv) (frameId : UInt8) (request : XBeeRequest) :
    SendsOrRefuses env frameId request ↔
      request.NullArgument ∨ env.malloc = none ∨
        request.total ≤ 255 ∧ ¬FirstPartial env.writes request.total := by
  constructor
  · intro keeps
    by_cases isNull : request.NullArgument
    · exact .inl isNull
    by_cases failed : env.malloc = none
    · exact .inr (.inl failed)
    refine .inr (.inr ⟨?_, ?_⟩)
    · by_contra long
      exact not_sendsOrRefuses_of_long isNull failed (Nat.not_le.mp long) frameId keeps
    · intro partially
      exact not_sendsOrRefuses_of_firstPartial isNull failed partially frameId keeps
  · rintro (isNull | failed | ⟨fits, notPartial⟩)
    · exact sendsOrRefuses_of_null isNull frameId
    · exact sendsOrRefuses_of_no_memory failed frameId request
    · exact sendsOrRefuses_of_fits fits notPartial frameId

/-- A command with 248 bytes of parameter: the packet that is allocated for it is empty. -/
theorem not_sendsOrRefuses_empty :
    ¬SendsOrRefuses ⟨some fun _ => 0, []⟩ 0
      (.sendAt (fun _ => 0x4E) (some fun _ => 0x20) 248) :=
  not_sendsOrRefuses_of_long id (by simp) (by decide) 0

/-! ### The packet of a call -/

/-- The frame of the request fits a packet. -/
def XBeeRequest.Fits (request : XBeeRequest) : Prop :=
  ¬request.NullArgument ∧ request.total ≤ 255

/-- What was allocated is freed once; a negative value is returned when the allocation or a
`write` has failed, and only then, else the frame id. -/
structure XBeeSent.Settled (sent : XBeeSent) (env : XBeeSendEnv) (frameId : UInt8) (total : ℕ) :
    Prop where
  allocated : sent.packet.isSome = env.malloc.isSome
  freed : sent.frees = if sent.packet.isSome then 1 else 0
  negative : sent.code < 0 ↔ env.malloc = none ∨ WriteFails env.writes total
  frameId : 0 ≤ sent.code → sent.code = (ucXBeeNextFrameId frameId).toNat

/-- The request ends, and what it leaves is settled. -/
def Settles (env : XBeeSendEnv) (frameId : UInt8) (request : XBeeRequest) : Prop :=
  ∃ sent, xbeeRequest env frameId request = .ok sent ∧ sent.Settled env frameId request.total

section

variable {env : XBeeSendEnv} {request : XBeeRequest}

theorem settles_of_no_memory (notNull : ¬request.NullArgument) (failed : env.malloc = none)
    (frameId : UInt8) : Settles env frameId request := by
  rcases xbeeRequest_cases env frameId request with ⟨isNull, -⟩ | ⟨-, build, same, -, -⟩
  · exact absurd isNull notNull
  · rw [xbeeSend_of_no_memory failed] at same
    refine ⟨_, same, ?_⟩
    constructor <;> simp [failed, enomem]

theorem settles_iff_of_memory (fits : request.Fits) (allocated : env.malloc ≠ none)
    (frameId : UInt8) :
    Settles env frameId request ↔ ¬(request.IsZbSend ∧ WriteFails env.writes request.total) := by
  rcases Option.ne_none_iff_exists'.mp allocated with ⟨memory, found⟩
  rcases xbeeRequest_cases env frameId request with ⟨isNull, -⟩ | ⟨-, build, same, shaped, frees⟩
  · exact absurd isNull fits.1
  rcases exists_xbeeSend shaped found fits.2 frameId with
    ⟨sent, frame, sends, -, packet, -, outcome⟩
  have settles : Settles env frameId request ↔ sent.Settled env frameId request.total := by
    constructor
    · rintro ⟨other, done, settled⟩
      rw [same, sends] at done
      cases done
      exact settled
    · exact fun settled => ⟨sent, same.trans sends, settled⟩
  rw [settles]
  rcases outcome with ⟨succeeds, code, freed⟩ | ⟨fails, code, freed⟩
  · refine ⟨fun _ zb => succeeds zb.2, fun _ => ?_⟩
    exact
      { allocated := by simp [packet, found]
        freed := by simp [packet, freed]
        negative := by
          rw [code]
          exact ⟨fun below => by omega, fun failed => (failed.elim allocated succeeds).elim⟩
        frameId := fun _ => code }
  · refine ⟨fun settled zb => ?_, fun notZb => ?_⟩
    · have once := settled.freed
      rw [packet, freed] at once
      by_cases onError : build.freesOnError = true
      · exact frees.mp onError zb.1
      · rw [if_neg onError] at once
        cases once
    · have onError : build.freesOnError = true := frees.mpr fun zb => notZb ⟨zb, fails⟩
      exact
        { allocated := by simp [packet, found]
          freed := by simp [packet, freed, onError]
          negative := by
            rw [code]
            exact ⟨fun _ => .inr fails, fun _ => by decide⟩
          frameId := fun positive => by
            rw [code] at positive
            omega }

end

/-- `iXBeeZbSend` loses its packet when a `write` fails; nothing else goes wrong. -/
theorem settles_iff {env : XBeeSendEnv} {request : XBeeRequest} (fits : request.Fits)
    (frameId : UInt8) :
    Settles env frameId request ↔
      ¬(request.IsZbSend ∧ env.malloc ≠ none ∧ WriteFails env.writes request.total) := by
  by_cases failed : env.malloc = none
  · refine ⟨fun _ zb => zb.2.1 failed, fun _ => settles_of_no_memory fits.1 failed frameId⟩
  · rw [settles_iff_of_memory fits failed]
    constructor
    · rintro notBoth ⟨isZb, -, fails⟩
      exact notBoth ⟨isZb, fails⟩
    · rintro notAll ⟨isZb, fails⟩
      exact notAll ⟨isZb, failed, fails⟩

/-- A command of which a `write` fails. -/
theorem settles_sendAt_failing :
    Settles ⟨some fun _ => 0, [.takes 3, .fails]⟩ 0xFF
      (.sendAt (fun _ => 0x4E) (some fun _ => 0x20) 4) :=
  (settles_iff ⟨id, by decide⟩ 0xFF).mpr fun both => both.1

/-- The same for `iXBeeZbSend`, whose packet is never freed. -/
theorem not_settles_zbSend :
    ¬Settles ⟨some fun _ => 0, [.fails]⟩ 0
      (.zbSend (some fun _ => 0x41) 1 (some fun _ => 0) (some fun _ => 0xFF) 0 0) := by
  have fits : XBeeRequest.Fits
      (.zbSend (some fun _ => 0x41) 1 (some fun _ => 0) (some fun _ => 0xFF) 0 0) :=
    ⟨by simp [XBeeRequest.NullArgument], by decide⟩
  intro settles
  exact (settles_iff_of_memory fits (by simp) 0).mp settles
    ⟨trivial, by simp [WriteFails, XBeeRequest.total]⟩

end Sysio.XBee
