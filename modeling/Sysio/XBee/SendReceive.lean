import Sysio.XBee.Sending

/-!
# What is sent is received

A frame that a send function has written, cut into any chunks, is the one packet that a freshly
opened receiver hands over, and its fields are read back as they were given (`roundTrips`). The
exception is `apply`, a boolean: what is not zero is read back as 2.
-/

namespace Sysio.XBee

open Layout

/-- A field of the packet holds these bytes. -/
def FieldIs (pkt : List UInt8) (struct : XBeeStruct) (field : XBeeField) (bytes : List UInt8) :
    Prop :=
  bytesAt pkt (offset struct field) bytes.length = .ok bytes

/-- An accessor designates these bytes. -/
def ReadsAt (accessor : List UInt8 → Except Fault (Option ℕ)) (pkt bytes : List UInt8) : Prop :=
  ∃ place, accessor pkt = .ok (some place) ∧ bytesAt pkt place bytes.length = .ok bytes

/-- What was passed in is in the packet, where an accessor applies as it reads it; `applied` is
what `apply` is read back as. -/
def ReadsBack (applied : UInt8 → UInt8) (id : UInt8) (pkt : List UInt8) : XBeeRequest → Prop
  | .sendAt cmd params paramLen =>
      ucXBeePktType pkt = .ok xbeePktTypeAtcmd ∧ iXBeePktFrameId pkt = .ok id.toNat ∧
      ReadsAt pcXBeePktCommand pkt [cmd 0, cmd 1] ∧ iXBeePktParamLen pkt = .ok paramLen.toNat ∧
      ReadsAt pucXBeePktParam pkt
        ((params.map fun params => memcpy params paramLen.toNat).getD [])
  | .sendRemoteAt cmd params paramLen addr64 addr16 apply =>
      ucXBeePktType pkt = .ok xbeePktTypeRemoteAtcmd ∧ iXBeePktFrameId pkt = .ok id.toNat ∧
      FieldIs pkt xXBeeRemoteAtCmdPkt .dest64 (memcpy addr64 8) ∧
      FieldIs pkt xXBeeRemoteAtCmdPkt .dest16 (memcpy addr16 2) ∧
      iXBeePktApply pkt = .ok (applied apply).toNat ∧
      ReadsAt pcXBeePktCommand pkt [cmd 0, cmd 1] ∧ iXBeePktParamLen pkt = .ok paramLen.toNat ∧
      ReadsAt pucXBeePktParam pkt (memcpy params paramLen.toNat)
  | .send64 data len addr opt =>
      ucXBeePktType pkt = .ok xbeePktTypeTx64 ∧ iXBeePktFrameId pkt = .ok id.toNat ∧
      FieldIs pkt xXBeeTxReq64Pkt .dest (memcpy addr 8) ∧ iXBeePktOptions pkt = .ok opt.toNat ∧
      FieldIs pkt xXBeeTxReq64Pkt .data (memcpy data len.toNat)
  | .send16 data len addr opt =>
      ucXBeePktType pkt = .ok xbeePktTypeTx16 ∧ iXBeePktFrameId pkt = .ok id.toNat ∧
      FieldIs pkt xXBeeTxReq16Pkt .dest (memcpy addr 2) ∧ iXBeePktOptions pkt = .ok opt.toNat ∧
      FieldIs pkt xXBeeTxReq16Pkt .data (memcpy data len.toNat)
  | .zbSend (some data) len (some addr64) (some addr16) opt radius =>
      ucXBeePktType pkt = .ok xbeePktTypeZbTxReq ∧ iXBeePktFrameId pkt = .ok id.toNat ∧
      FieldIs pkt xXBeeZbTxReqPkt .dest64 (memcpy addr64 8) ∧
      FieldIs pkt xXBeeZbTxReqPkt .dest16 (memcpy addr16 2) ∧
      iXBeePktRadius pkt = .ok radius.toNat ∧ iXBeePktOptions pkt = .ok opt.toNat ∧
      FieldIs pkt xXBeeZbTxReqPkt .data (memcpy data len.toNat)
  | .zbSend _ _ _ _ _ _ => False

/-- The request has a frame that fits, and a command with parameters says where they are. -/
def XBeeRequest.Sendable (request : XBeeRequest) : Prop :=
  request.Fits ∧
    match request with
    | .sendAt _ params paramLen => params ≠ none ∨ paramLen = 0
    | _ => True

/-- Every `write` takes all that it is given. -/
def TakesAll (writes : List XBeeWrite) (len : ℕ) : Prop :=
  ∀ write ∈ writes, ∃ more, write = .takes more ∧ len ≤ more + 1

/-- The line has taken one frame, which the receiver hands over whatever the chunks are. -/
structure RoundTrip (applied : UInt8 → UInt8) (id : UInt8) (request : XBeeRequest)
    (sent : XBeeSent) (frame : XBeeFrame) : Prop where
  code : sent.code = id.toNat
  packet : sent.packet = some frame.bytes
  written : takenPlaces sent.calls = List.range frame.bytes.length
  size : frame.bytes.length = request.total
  announced : frame.payload.length = xbeeAnnounced frame.high frame.low
  checks : frame.Checks
  delivered : ∀ (env : XBeeEnv) (chunks : List XBeeChunk), env.alloc 0 = true →
    xbeeStream chunks = frame.bytes →
    ∃ xbee, xbeeRun env xbeeOpened chunks = .ok xbee ∧
      xbee.delivered = [(frame.bytes, UInt8.ofNat frame.bytes.length)]
  readsBack : ReadsBack applied id frame.bytes request

/-- With memory and a line that takes everything, a request makes its round trip. -/
def RoundTrips (applied : UInt8 → UInt8) (frameId : UInt8) (request : XBeeRequest) : Prop :=
  ucXBeeNextFrameId frameId ≠ 0 ∧
    ∀ env : XBeeSendEnv, env.malloc ≠ none → TakesAll env.writes request.total →
      ∃ sent frame, xbeeRequest env frameId request = .ok sent ∧
        RoundTrip applied (ucXBeeNextFrameId frameId) request sent frame

theorem ucXBeeNextFrameId_ne_zero (frameId : UInt8) : ucXBeeNextFrameId frameId ≠ 0 := by
  revert frameId
  decide +kernel

/-! ### The fields of the frame -/

section

variable {frame : XBeeFrame} {total : ℕ} {contents : List (List UInt8)}

/-- The contents of a frame are behind its header, one field behind the other. -/
theorem XBeeFrame.Holds.field (holds : frame.Holds total contents) (front : List (List UInt8))
    {field : List UInt8} {back : List (List UInt8)} (split : contents = front ++ field :: back) :
    bytesAt frame.bytes (3 + front.flatten.length) field.length = .ok field := by
  rcases holds.starts with ⟨rest, payload⟩
  have place : frame.bytes = (xbeePktStart :: frame.high :: frame.low :: front.flatten) ++
      (field ++ (back.flatten ++ rest ++ [frame.checksum])) := by
    rw [XBeeFrame.bytes, ← payload, split]
    simp
  have length : (xbeePktStart :: frame.high :: frame.low :: front.flatten).length =
      3 + front.flatten.length := by
    simp only [List.length_cons]
    omega
  have read : (frame.bytes.drop (3 + front.flatten.length)).take field.length = field := by
    rw [place, ← length, List.drop_left, List.take_left]
  have inside : 3 + front.flatten.length + field.length ≤ frame.bytes.length := by
    rw [place, List.length_append, List.length_append, length]
    omega
  rw [bytesAt, if_pos inside, read]

theorem byteAt_of_bytesAt {pkt : List UInt8} {place : ℕ} {byte : UInt8}
    (read : bytesAt pkt place 1 = .ok [byte]) : byteAt pkt place = .ok byte := by
  rw [bytesAt] at read
  split at read
  · have one := Except.ok.inj read
    have found : pkt[place]? = some byte := by
      rw [← Nat.add_zero place, ← List.getElem?_drop, ← List.getElem?_take_of_lt Nat.zero_lt_one,
        one]
      rfl
    rw [byteAt, found]
  · cases read

theorem XBeeFrame.Holds.byte (holds : frame.Holds total contents) (front : List (List UInt8))
    {byte : UInt8} {back : List (List UInt8)} (split : contents = front ++ [byte] :: back) :
    byteAt frame.bytes (3 + front.flatten.length) = .ok byte :=
  byteAt_of_bytesAt (holds.field front split)

theorem XBeeFrame.Holds.value {cases : XBeeCases} {type byte : UInt8} {struct : XBeeStruct}
    {field : XBeeField} {back : List (List UInt8)} (holds : frame.Holds total contents)
    (isType : ucXBeePktType frame.bytes = .ok type) (front : List (List UInt8))
    (found : cases.lookup type = some (struct, field)) (split : contents = front ++ [byte] :: back)
    (place : offset struct field = 3 + front.flatten.length) :
    xbeeValue cases frame.bytes = .ok byte.toNat := by
  refine xbeeValue_eq isType found ?_
  rw [place]
  exact holds.byte front split

theorem XBeeFrame.Holds.readsAt {cases : XBeeCases} {type : UInt8} {struct : XBeeStruct}
    {field : XBeeField} {bytes : List UInt8} {back : List (List UInt8)}
    (holds : frame.Holds total contents) (isType : ucXBeePktType frame.bytes = .ok type)
    (front : List (List UInt8)) (found : cases.lookup type = some (struct, field))
    (split : contents = front ++ bytes :: back)
    (place : offset struct field = 3 + front.flatten.length) :
    ReadsAt (xbeePointer cases) frame.bytes bytes := by
  refine ⟨_, xbeePointer_eq isType found, ?_⟩
  rw [place]
  exact holds.field front split

theorem XBeeFrame.Holds.length_eq (holds : frame.Holds total contents) :
    usXBeePktLength frame.bytes = .ok (total - 4) := by
  have read : usXBeePktLength frame.bytes = .ok (xbeeAnnounced frame.high frame.low) := rfl
  rw [read, ← holds.announced, ← holds.length, Nat.add_sub_cancel]

end

/-! ### The fields read back -/

section

variable {frame : XBeeFrame} {id : UInt8}

theorem readsBack_sendAt {cmd : Buffer} {params : Option Buffer} {paramLen : UInt8}
    (given : params ≠ none ∨ paramLen = 0) (applied : UInt8 → UInt8)
    (holds : frame.Holds (paramLen.toNat + 8)
      ((XBeeRequest.sendAt cmd params paramLen).contents id)) :
    ReadsBack applied id frame.bytes (.sendAt cmd params paramLen) := by
  have type : ucXBeePktType frame.bytes = .ok xbeePktTypeAtcmd := holds.byte [] rfl
  have len : xbeeLengthBehind xbeeParamCases frame.bytes = .ok (paramLen.toNat : ℤ) := by
    rw [xbeeLengthBehind_eq type rfl holds.length_eq]
    refine congrArg Except.ok ?_
    change ((paramLen.toNat + 4 : ℕ) + 3 - (7 : ℕ) : ℤ) = _
    omega
  refine ⟨type, holds.value type [_] rfl rfl rfl, holds.readsAt type [_, _] rfl rfl rfl, len, ?_⟩
  by_cases empty : paramLen = 0
  · subst empty
    have nothing : (params.map fun params => memcpy params (0 : UInt8).toNat).getD [] = [] := by
      cases params with
      | none => rfl
      | some params => rfl
    have inside : 7 + 0 ≤ frame.bytes.length := by
      rw [frame.length_bytes, holds.length]
      decide
    have param : xbeePointer xbeeParamCases frame.bytes =
        .ok (some (offset xXBeeAtCmdPkt .param)) := xbeePointer_eq type rfl
    rw [nothing]
    exact ⟨_, param, if_pos inside⟩
  · rcases params with _ | params
    · exact absurd (given.resolve_right empty) (by simp)
    · have split : (XBeeRequest.sendAt cmd (some params) paramLen).contents id =
          [[xbeePktTypeAtcmd], [id], [cmd 0, cmd 1]] ++ memcpy params paramLen.toNat :: [] := by
        rw [XBeeRequest.contents, if_pos empty]
        rfl
      exact holds.readsAt type _ rfl split rfl

theorem readsBack_sendRemoteAt {cmd params : Buffer} {paramLen : UInt8} {addr64 addr16 : Buffer}
    {apply : UInt8}
    (holds : frame.Holds (paramLen.toNat + 19)
      ((XBeeRequest.sendRemoteAt cmd params paramLen addr64 addr16 apply).contents id)) :
    ReadsBack (fun apply => if apply ≠ 0 then 2 else 0) id frame.bytes
      (.sendRemoteAt cmd params paramLen addr64 addr16 apply) := by
  have type : ucXBeePktType frame.bytes = .ok xbeePktTypeRemoteAtcmd := holds.byte [] rfl
  have len : xbeeLengthBehind xbeeParamCases frame.bytes = .ok (paramLen.toNat : ℤ) := by
    rw [xbeeLengthBehind_eq type rfl holds.length_eq]
    refine congrArg Except.ok ?_
    change ((paramLen.toNat + 15 : ℕ) + 3 - (18 : ℕ) : ℤ) = _
    omega
  exact ⟨type, holds.value type [_] rfl rfl rfl, holds.field [_, _] rfl,
    holds.field [_, _, _] rfl, holds.value type [_, _, _, _] rfl rfl rfl,
    holds.readsAt type [_, _, _, _, _] rfl rfl rfl, len,
    holds.readsAt type [_, _, _, _, _, _] rfl rfl rfl⟩

theorem readsBack_send64 {data : Buffer} {len : UInt8} {addr : Buffer} {opt : UInt8}
    (applied : UInt8 → UInt8)
    (holds : frame.Holds (len.toNat + 15) ((XBeeRequest.send64 data len addr opt).contents id)) :
    ReadsBack applied id frame.bytes (.send64 data len addr opt) := by
  have type : ucXBeePktType frame.bytes = .ok xbeePktTypeTx64 := holds.byte [] rfl
  exact ⟨type, holds.value type [_] rfl rfl rfl, holds.field [_, _] rfl,
    holds.value type [_, _, _] rfl rfl rfl, holds.field [_, _, _, _] rfl⟩

theorem readsBack_send16 {data : Buffer} {len : UInt8} {addr : Buffer} {opt : UInt8}
    (applied : UInt8 → UInt8)
    (holds : frame.Holds (len.toNat + 9) ((XBeeRequest.send16 data len addr opt).contents id)) :
    ReadsBack applied id frame.bytes (.send16 data len addr opt) := by
  have type : ucXBeePktType frame.bytes = .ok xbeePktTypeTx16 := holds.byte [] rfl
  exact ⟨type, holds.value type [_] rfl rfl rfl, holds.field [_, _] rfl,
    holds.value type [_, _, _] rfl rfl rfl, holds.field [_, _, _, _] rfl⟩

theorem readsBack_zbSend {data : Buffer} {len : UInt8} {addr64 addr16 : Buffer}
    {opt radius : UInt8} (applied : UInt8 → UInt8)
    (holds : frame.Holds (len.toNat + 18) ((XBeeRequest.zbSend (some data) len (some addr64)
      (some addr16) opt radius).contents id)) :
    ReadsBack applied id frame.bytes
      (.zbSend (some data) len (some addr64) (some addr16) opt radius) := by
  have type : ucXBeePktType frame.bytes = .ok xbeePktTypeZbTxReq := holds.byte [] rfl
  exact ⟨type, holds.value type [_] rfl rfl rfl, holds.field [_, _] rfl,
    holds.field [_, _, _] rfl, holds.value type [_, _, _, _] rfl rfl rfl,
    holds.value type [_, _, _, _, _] rfl rfl rfl, holds.field [_, _, _, _, _, _] rfl⟩

end

/-- What is read back of a request, whatever the frame holds behind it. -/
theorem readsBack_of_holds {request : XBeeRequest} (sendable : request.Sendable)
    {frame : XBeeFrame} {id : UInt8} (holds : frame.Holds request.total (request.contents id)) :
    ReadsBack (fun apply => if apply ≠ 0 then 2 else 0) id frame.bytes request := by
  cases request with
  | sendAt cmd params paramLen => exact readsBack_sendAt sendable.2 _ holds
  | sendRemoteAt cmd params paramLen addr64 addr16 apply => exact readsBack_sendRemoteAt holds
  | send64 data len addr opt => exact readsBack_send64 _ holds
  | send16 data len addr opt => exact readsBack_send16 _ holds
  | zbSend data len addr64 addr16 opt radius =>
      rcases data with _ | data
      · exact absurd (.inl rfl) sendable.1.1
      · rcases addr64 with _ | addr64
        · exact absurd (.inr (.inl rfl)) sendable.1.1
        · rcases addr16 with _ | addr16
          · exact absurd (.inr (.inr rfl)) sendable.1.1
          · exact readsBack_zbSend _ holds

/-! ### The round trip -/

theorem xbeeOutLoop_of_takesAll {writes : List XBeeWrite} {len : ℕ} (some : len ≠ 0)
    (all : TakesAll writes len) : xbeeOutLoop writes 0 len = ([⟨0, len, len⟩], 0) := by
  have notPartial : ¬FirstPartial writes len := by
    rcases writes with _ | ⟨write, writes⟩
    · exact id
    · rcases all write List.mem_cons_self with ⟨more, rfl, enough⟩
      exact Nat.not_lt.mpr enough
  have notFails : ¬WriteFails writes len := by
    rcases writes with _ | ⟨write, writes⟩
    · exact id
    · rcases all write List.mem_cons_self with ⟨more, rfl, enough⟩
      rw [WriteFails, Nat.min_eq_right enough, Nat.sub_self]
      exact not_writeFails_zero writes
  rcases xbeeOutLoop_of_not_firstPartial 0 some notPartial with loop | loop
  · exact loop
  · rcases code_xbeeOutLoop writes 0 len with ⟨zero, -⟩ | ⟨-, fails⟩
    · rw [loop] at zero
      cases zero
    · exact absurd fails notFails

theorem exists_delivered {frame : XBeeFrame} (short : frame.payload.length ≤ xbeeMaxDataLen)
    (announced : frame.payload.length = xbeeAnnounced frame.high frame.low)
    (checks : frame.Checks) {env : XBeeEnv} (allocated : env.alloc 0 = true)
    {chunks : List XBeeChunk} (stream : xbeeStream chunks = frame.bytes) :
    ∃ xbee, xbeeRun env xbeeOpened chunks = .ok xbee ∧
      xbee.delivered = [(frame.bytes, UInt8.ofNat frame.bytes.length)] := by
  rcases exists_foldlM_frame env hunting_opened (announced ▸ short) allocated announced with
    ⟨xbee, read, -, delivered⟩
  refine ⟨xbee, xbeeRun_eq_ok_iff.mpr (stream ▸ read), ?_⟩
  rw [delivered, XBeeEvent.delivery, if_pos checks]
  rfl

theorem roundTrip_of_readsBack {request : XBeeRequest} (sendable : request.Sendable)
    (frameId : UInt8) {env : XBeeSendEnv} (allocated : env.malloc ≠ none)
    (all : TakesAll env.writes request.total) :
    ∃ sent frame, xbeeRequest env frameId request = .ok sent ∧
      RoundTrip (fun apply => if apply ≠ 0 then 2 else 0) (ucXBeeNextFrameId frameId) request
        sent frame := by
  rcases Option.ne_none_iff_exists'.mp allocated with ⟨memory, found⟩
  rcases xbeeRequest_cases env frameId request with ⟨isNull, -⟩ | ⟨-, build, same, shaped, -⟩
  · exact absurd isNull sendable.1.1
  rcases exists_xbeeSend shaped found sendable.1.2 frameId with
    ⟨sent, frame, sends, holds, packet, calls, outcome⟩
  have length : frame.bytes.length = request.total := by
    rw [frame.length_bytes, holds.length]
  have loop := xbeeOutLoop_of_takesAll (by have := holds.length; omega) all
  have short : frame.payload.length ≤ xbeeMaxDataLen := by
    have max : xbeeMaxDataLen = 251 := rfl
    have fits := sendable.1.2
    have := holds.length
    omega
  refine ⟨sent, frame, same.trans sends, ?_⟩
  exact
    { code := by
        rcases outcome with ⟨-, code, -⟩ | ⟨fails, -, -⟩
        · exact code
        · rcases code_xbeeOutLoop env.writes 0 request.total with ⟨-, succeeds⟩ | ⟨failed, -⟩
          · exact absurd fails succeeds
          · rw [loop] at failed
            cases failed
      packet
      written := by
        rw [calls, loop, length, List.range_eq_range']
        exact List.append_nil _
      size := length
      announced := holds.announced
      checks := holds.checks
      delivered := fun env chunks allocated stream =>
        exists_delivered short holds.announced holds.checks allocated stream
      readsBack := readsBack_of_holds sendable holds }

/-- Every request makes its round trip, `apply` as 0 or 2. -/
theorem roundTrips {request : XBeeRequest} (sendable : request.Sendable) (frameId : UInt8) :
    RoundTrips (fun apply => if apply ≠ 0 then 2 else 0) frameId request :=
  ⟨ucXBeeNextFrameId_ne_zero frameId,
    fun _ allocated all => roundTrip_of_readsBack sendable frameId allocated all⟩

/-- Data for a 16-bit address, of as many bytes as a frame may carry. -/
theorem roundTrips_send16 :
    RoundTrips (fun apply => if apply ≠ 0 then 2 else 0) 0xFF
      (.send16 (fun place => UInt8.ofNat place) 246 (fun _ => 0x10) 1) :=
  roundTrips ⟨⟨id, by decide⟩, trivial⟩ 0xFF

/-- `apply` is not read back as it was passed in. -/
theorem not_roundTrips_apply :
    XBeeRequest.Sendable (.sendRemoteAt (fun _ => 0x44) (fun _ => 5) 1 (fun _ => 0) (fun _ => 0xFE)
        1) ∧
      ¬RoundTrips (fun apply => apply) 0
        (.sendRemoteAt (fun _ => 0x44) (fun _ => 5) 1 (fun _ => 0) (fun _ => 0xFE) 1) := by
  have sendable : XBeeRequest.Sendable
      (.sendRemoteAt (fun _ => 0x44) (fun _ => 5) 1 (fun _ => 0) (fun _ => 0xFE) 1) :=
    ⟨⟨id, by decide⟩, trivial⟩
  refine ⟨sendable, fun makes => ?_⟩
  let env : XBeeSendEnv := ⟨some fun _ => 0, []⟩
  have allocated : env.malloc ≠ none := Option.some_ne_none _
  have all : TakesAll env.writes 20 := fun write isWrite => absurd isWrite List.not_mem_nil
  rcases makes.2 env allocated all with ⟨sent, frame, sends, trip⟩
  rcases roundTrip_of_readsBack sendable 0 allocated all with ⟨other, frame', sends', trip'⟩
  cases Except.ok.inj (sends.symm.trans sends')
  have same := Option.some.inj (trip.packet.symm.trans trip'.packet)
  have read := trip.readsBack.2.2.2.2.1
  have read' := trip'.readsBack.2.2.2.2.1
  rw [same, read'] at read
  exact absurd (Except.ok.inj read) (by decide)

end Sysio.XBee
