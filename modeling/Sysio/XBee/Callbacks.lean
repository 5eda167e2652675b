import Sysio.XBee.Handover
import Sysio.XBee.Packets

/-!
# The packets that callbacks read

`iXBeeRecvPktCB` of `src/xbee.c` chooses a callback by the type of the packet and the series of
the module. It is meant to be given packets that were verified, but only their checksum was. So
the accessors that apply to a packet stay within it if and only if its frame is long enough for
its type, and it is not checked a second time, as a packet of three bytes, behind a header that is
refused (`safeCallbacks_iff`). What a call passes on before it faults counts as what is passed on
by a call that ends.

What may be read of a packet is what comes before its checksum.
-/

namespace Sysio.XBee

open Layout Refinement

/-- The series of the module, `eXBeeSeries`. -/
inductive XBeeSeries where
  | unknown
  | s1
  | s2
  | s2b
deriving DecidableEq, Repr

/-- The types of callbacks, `eXBeeCbType`. -/
inductive XBeeCbType where
  | atLocal
  | atRemote
  | data
  | io
  | txStatus
  | modemStatus
  | sensor
  | nodeIdent
deriving DecidableEq, Repr

/-- The first `switch`: the packets that every series sends. -/
def xbeeCbTypes : List (UInt8 × XBeeCbType) :=
  [(xbeePktTypeAtcmdResp, .atLocal), (xbeePktTypeRemoteAtcmdResp, .atRemote),
    (xbeePktTypeModemStatus, .modemStatus)]

/-- The second `switch` for series 1. -/
def xbeeCbTypesS1 : List (UInt8 × XBeeCbType) :=
  [(xbeePktTypeTxStatus, .txStatus), (xbeePktTypeRx16, .data), (xbeePktTypeRx64, .data),
    (xbeePktTypeRx16Io, .io), (xbeePktTypeRx64Io, .io)]

/-- The second `switch` for series 2. -/
def xbeeCbTypesS2 : List (UInt8 × XBeeCbType) :=
  [(xbeePktTypeZbTxStatus, .txStatus), (xbeePktTypeZbRx, .data), (xbeePktTypeZbRxIo, .io),
    (xbeePktTypeZbRxSensor, .sensor), (xbeePktTypeZbNodeIdent, .nodeIdent)]

/-- The two `switch`, the second of which is only for the types that the first leaves. -/
def eXBeeCallback (series : XBeeSeries) (type : UInt8) : Option XBeeCbType :=
  match xbeeCbTypes.lookup type with
  | some callback => some callback
  | none =>
      match series with
      | .s1 => xbeeCbTypesS1.lookup type
      | .s2 | .s2b => xbeeCbTypesS2.lookup type
      | .unknown => none

/-- The callback that is called, and what is returned. -/
def iXBeeRecvPktCB (series : XBeeSeries) (userCb : XBeeCbType → Option (List UInt8 → UInt8 → ℤ))
    (pkt : List UInt8) (len : UInt8) : Except Fault (Option XBeeCbType × ℤ) := do
  let type ← ucXBeePktType pkt
  match eXBeeCallback series type with
  | none => return (none, -1)
  | some callback =>
      match userCb callback with
      | some function => return (some callback, function pkt len)
      | none => return (none, -1)

/-! ### What the accessors read -/

/-- An accessor that reads within the packet. -/
def Returns {Value : Type} (accessor : List UInt8 → Except Fault Value) (view : List UInt8) :
    Prop :=
  ∃ value, accessor view = .ok value

/-- An accessor that reads within the packet, and what it designates, if anything, is there. -/
def Designates (accessor : List UInt8 → Except Fault (Option ℕ)) (view : List UInt8)
    (isThere : ℕ → Prop) : Prop :=
  ∃ found, accessor view = .ok found ∧ ∀ place, found = some place → isThere place

/-- Every accessor stays within the packet, whether it applies or not. -/
structure Readable (view : List UInt8) : Prop where
  addrSrc64 : Designates pucXBeePktAddrSrc64 view fun place => place + 8 ≤ view.length
  addrSrc16 : Designates pucXBeePktAddrSrc16 view fun place => place + 2 ≤ view.length
  data : Designates pucXBeePktData view fun place =>
    ∃ count : ℕ, iXBeePktDataLen view = .ok count ∧ place + count ≤ view.length
  param : Designates pucXBeePktParam view fun place =>
    ∃ count : ℕ, iXBeePktParamLen view = .ok count ∧ place + count ≤ view.length
  status : Returns iXBeePktStatus view
  options : Returns iXBeePktOptions view
  rssi : Returns iXBeePktRssi view
  retry : Returns iXBeePktRetry view
  discovery : Returns iXBeePktDiscovery view
  niString : Designates pcXBeePktNiString view fun place => Returns (xbeeStrlen · place) view
  addrParent16 : Returns pucXBeePktAddrParent16 view
  deviceType : Returns eXBeePktDeviceType view
  sourceEvent : Returns eXBeePktSourceEvent view
  profileId : Returns iXBeePktProfileId view
  manufacturerId : Returns iXBeePktManufacturerId view

/-- The fixed fields of the types that have a callback. -/
def xbeeFixedFields : List (UInt8 × XBeeStruct) :=
  [(xbeePktTypeAtcmdResp, xXBeeAtCmdRespPkt), (xbeePktTypeRemoteAtcmdResp, xXBeeRemoteAtCmdRespPkt),
    (xbeePktTypeModemStatus, xXBeeModemStatusPkt), (xbeePktTypeTxStatus, xXBeeTxStatusPkt),
    (xbeePktTypeRx16, xXBeeRx16Pkt), (xbeePktTypeRx64, xXBeeRx64Pkt),
    (xbeePktTypeRx16Io, xXBeeRxIo16Pkt), (xbeePktTypeRx64Io, xXBeeRxIo64Pkt),
    (xbeePktTypeZbTxStatus, xXBeeZbTxStatusPkt), (xbeePktTypeZbRx, xXBeeZbRxPkt),
    (xbeePktTypeZbRxIo, xXBeeZbRxIoPkt), (xbeePktTypeZbRxSensor, xXBeeZbRxSensorPkt),
    (xbeePktTypeZbNodeIdent, xXBeeZbNodeIdPkt.dropLast)]

/-- A node identification has a string, and its tail behind it. -/
def Identifies (view : List UInt8) : Prop :=
  ∃ ni tail, view.drop (offset xXBeeZbNodeIdPkt .ni) = ni ++ 0 :: tail ∧ (∀ c ∈ ni, c ≠ 0) ∧
    size xXBeeZbNodeIdPktTail ≤ tail.length

/-- What may be read of a packet holds the fixed fields of its type, and the string and the tail of
a node identification. -/
structure LongEnough (type : UInt8) (view : List UInt8) : Prop where
  fixed : ∀ struct, xbeeFixedFields.lookup type = some struct → size struct ≤ view.length
  identifies : type = xbeePktTypeZbNodeIdent → Identifies view

/-- Every field that an accessor reads lies, with `count` bytes, in the fixed fields. -/
def WithinFixed (cases : XBeeCases) (count : ℕ) : Prop :=
  ∀ entry ∈ cases, ∀ fixed ∈ xbeeFixedFields, fixed.1 = entry.1 →
    offset entry.2.1 entry.2.2 + count ≤ size fixed.2

instance (cases : XBeeCases) (count : ℕ) : Decidable (WithinFixed cases count) :=
  inferInstanceAs (Decidable (∀ entry ∈ cases, ∀ fixed ∈ xbeeFixedFields, _ → _))

theorem isSome_fixed {series : XBeeSeries} {type : UInt8} {callback : XBeeCbType}
    (found : eXBeeCallback series type = some callback) :
    ∃ struct, xbeeFixedFields.lookup type = some struct := by
  have all : ∀ series type, (eXBeeCallback series type).isSome →
      (xbeeFixedFields.lookup type).isSome := by
    intro series
    cases series <;> decide +kernel
  exact Option.isSome_iff_exists.mp (all series type (by rw [found]; rfl))

theorem mem_of_lookup {Value : Type} {entries : List (UInt8 × Value)} {type : UInt8}
    {value : Value} (found : entries.lookup type = some value) : (type, value) ∈ entries := by
  rcases List.lookup_eq_some_iff.mp found with ⟨before, after, split, -⟩
  rw [split]
  exact List.mem_append_right _ List.mem_cons_self

/-- A packet without its checksum, whose length and type are as announced. -/
structure Viewed (view : List UInt8) (type : UInt8) : Prop where
  type : ucXBeePktType view = .ok type
  len : usXBeePktLength view = .ok (view.length - 3)
  behind : 3 ≤ view.length

section

variable {view : List UInt8} {type : UInt8} {struct : XBeeStruct}

theorem returns_xbeeValue {cases : XBeeCases} (within : WithinFixed cases 1)
    (viewed : Viewed view type) (fixed : xbeeFixedFields.lookup type = some struct)
    (long : size struct ≤ view.length) : Returns (xbeeValue cases) view := by
  cases found : cases.lookup type with
  | none => exact ⟨-1, xbeeValue_none viewed.type found⟩
  | some entry =>
      have inside := within _ (mem_of_lookup found) _ (mem_of_lookup fixed) rfl
      have read : byteAt view (offset entry.1 entry.2) =
          .ok (view.get ⟨offset entry.1 entry.2, by simp only at inside; omega⟩) := by
        rw [byteAt, List.getElem?_eq_getElem]
        rfl
      exact ⟨_, xbeeValue_eq viewed.type found read⟩

theorem designates_xbeePointer {cases : XBeeCases} {count : ℕ} (within : WithinFixed cases count)
    (viewed : Viewed view type) (fixed : xbeeFixedFields.lookup type = some struct)
    (long : size struct ≤ view.length) :
    Designates (xbeePointer cases) view fun place => place + count ≤ view.length := by
  cases found : cases.lookup type with
  | none =>
      exact ⟨none, xbeePointer_none viewed.type found, fun place isPlace => by cases isPlace⟩
  | some entry =>
      refine ⟨_, xbeePointer_eq viewed.type found, fun place isPlace => ?_⟩
      cases isPlace
      have inside := within _ (mem_of_lookup found) _ (mem_of_lookup fixed) rfl
      exact inside.trans long

/-- The last field of a structure extends up to the checksum. -/
theorem designates_behind {cases : XBeeCases} (within : WithinFixed cases 0)
    (last : ∀ entry ∈ cases, offset entry.2.1 entry.2.2 = size entry.2.1)
    (viewed : Viewed view type) (fixed : xbeeFixedFields.lookup type = some struct)
    (long : size struct ≤ view.length) :
    Designates (xbeePointer cases) view fun place =>
      ∃ count : ℕ, xbeeLengthBehind cases view = .ok count ∧ place + count ≤ view.length := by
  cases found : cases.lookup type with
  | none =>
      exact ⟨none, xbeePointer_none viewed.type found, fun place isPlace => by cases isPlace⟩
  | some entry =>
      refine ⟨_, xbeePointer_eq viewed.type found, fun place isPlace => ?_⟩
      cases isPlace
      have inside := within _ (mem_of_lookup found) _ (mem_of_lookup fixed) rfl
      have atEnd := last _ (mem_of_lookup found)
      have behind := viewed.behind
      simp only at inside atEnd
      refine ⟨view.length - size entry.1, ?_, by omega⟩
      rw [xbeeLengthBehind_eq viewed.type found viewed.len]
      refine congrArg Except.ok ?_
      omega

theorem returns_xbeeTailField {field : XBeeField} {count : ℕ}
    (within : offset xXBeeZbNodeIdPktTail field + count ≤ size xXBeeZbNodeIdPktTail)
    (viewed : Viewed view type) (identifies : type = xbeePktTypeZbNodeIdent → Identifies view) :
    Returns (xbeeTailField field count) view := by
  by_cases isIdent : type = xbeePktTypeZbNodeIdent
  · rcases identifies isIdent with ⟨ni, tail, split, clean, room⟩
    have found : pcXBeePktNiString view = .ok (some (offset xXBeeZbNodeIdPkt .ni)) :=
      xbeePointer_eq viewed.type (by rw [isIdent]; rfl)
    have length : xbeeStrlen view (offset xXBeeZbNodeIdPkt .ni) = .ok ni.length := by
      rw [xbeeStrlen, split, strchr_of_clean tail fun c cMem => ⟨clean c cMem, clean c cMem⟩]
      rfl
    have isTail : pxXBeeZbNodeIdPktTail view =
        .ok (offset xXBeeZbNodeIdPkt .ni + ni.length + 1) := by
      simp only [pxXBeeZbNodeIdPktTail, found, bind, Except.bind, length]
      rfl
    have whole := congrArg List.length split
    rw [List.length_drop, List.length_append, List.length_cons] at whole
    have inside : offset xXBeeZbNodeIdPkt .ni + ni.length + 1 +
        offset xXBeeZbNodeIdPktTail field + count ≤ view.length := by omega
    rw [Returns]
    simp only [xbeeTailField, viewed.type, bind, Except.bind, if_pos isIdent, isTail, bytesAt,
      if_pos inside]
    exact ⟨_, rfl⟩
  · refine ⟨none, ?_⟩
    simp only [xbeeTailField, viewed.type, bind, Except.bind, if_neg isIdent]
    rfl

theorem returns_xbeeTailValue {field : XBeeField} {count : ℕ}
    (returns : Returns (xbeeTailField field count) view) :
    Returns (xbeeTailValue field count) view := by
  rcases returns with ⟨value, read⟩
  rw [Returns]
  simp only [xbeeTailValue, read, bind, Except.bind]
  cases value with
  | none => exact ⟨_, rfl⟩
  | some bytes => exact ⟨_, rfl⟩

theorem niString_of_identifies (viewed : Viewed view type)
    (identifies : type = xbeePktTypeZbNodeIdent → Identifies view) :
    Designates pcXBeePktNiString view fun place => Returns (xbeeStrlen · place) view := by
  by_cases isIdent : type = xbeePktTypeZbNodeIdent
  · rcases identifies isIdent with ⟨ni, tail, split, clean, -⟩
    refine ⟨_, xbeePointer_eq viewed.type (by rw [isIdent]; rfl), fun place isPlace => ?_⟩
    cases isPlace
    refine ⟨ni.length, ?_⟩
    simp only [xbeeStrlen]
    rw [split, strchr_of_clean tail fun c cMem => ⟨clean c cMem, clean c cMem⟩]
    rfl
  · have other : xbeeNiCases.lookup type = none := by
      refine List.lookup_eq_none_iff.mpr fun entry entryMem => ?_
      rw [List.mem_singleton.mp entryMem]
      exact bne_iff_ne.mpr isIdent
    refine ⟨none, ?_, fun place isPlace => by cases isPlace⟩
    simp only [pcXBeePktNiString, xbeePointer, viewed.type, bind, Except.bind, other]
    rfl

theorem readable_of_longEnough (viewed : Viewed view type)
    (fixed : xbeeFixedFields.lookup type = some struct) (long : LongEnough type view) :
    Readable view := by
  have enough := long.fixed struct fixed
  have tail (field : XBeeField) (count : ℕ)
      (within : offset xXBeeZbNodeIdPktTail field + count ≤ size xXBeeZbNodeIdPktTail) :=
    returns_xbeeTailField within viewed long.identifies
  exact
    { addrSrc64 := designates_xbeePointer (by decide +kernel) viewed fixed enough
      addrSrc16 := designates_xbeePointer (by decide +kernel) viewed fixed enough
      data := designates_behind (by decide +kernel) (by decide +kernel) viewed fixed enough
      param := designates_behind (by decide +kernel) (by decide +kernel) viewed fixed enough
      status := returns_xbeeValue (by decide +kernel) viewed fixed enough
      options := returns_xbeeValue (by decide +kernel) viewed fixed enough
      rssi := returns_xbeeValue (by decide +kernel) viewed fixed enough
      retry := returns_xbeeValue (by decide +kernel) viewed fixed enough
      discovery := returns_xbeeValue (by decide +kernel) viewed fixed enough
      niString := niString_of_identifies viewed long.identifies
      addrParent16 := tail .parent16 2 (by decide)
      deviceType := returns_xbeeTailValue (tail .device 1 (by decide))
      sourceEvent := returns_xbeeTailValue (tail .event 1 (by decide))
      profileId := returns_xbeeTailValue (tail .profile 2 (by decide))
      manufacturerId := returns_xbeeTailValue (tail .manufacturer 2 (by decide)) }

end

theorem le_of_bytesAt {pkt bytes : List UInt8} {place count : ℕ}
    (read : bytesAt pkt place count = .ok bytes) : place + count ≤ pkt.length := by
  rw [bytesAt] at read
  split at read
  · assumption
  · cases read

theorem identifies_of_readable {view : List UInt8} (viewed : Viewed view xbeePktTypeZbNodeIdent)
    (readable : Readable view) : Identifies view := by
  have found : pcXBeePktNiString view = .ok (some (offset xXBeeZbNodeIdPkt .ni)) :=
    xbeePointer_eq viewed.type rfl
  rcases readable.niString with ⟨place, isPlace, ends⟩
  rw [found] at isPlace
  cases isPlace
  rcases ends _ rfl with ⟨length, isLength⟩
  simp only [xbeeStrlen] at isLength
  rcases exists_of_bind_eq_ok isLength with ⟨nul, isNul, done⟩
  cases nul with
  | none => cases done
  | some nul =>
      cases done
      rcases exists_of_strchr isNul with ⟨ni, tail, split, rfl, clean⟩
      refine ⟨ni, tail, split, fun c cMem => (clean c cMem).2, ?_⟩
      have isTail : pxXBeeZbNodeIdPktTail view =
          .ok (offset xXBeeZbNodeIdPkt .ni + ni.length + 1) := by
        simp only [pxXBeeZbNodeIdPktTail, found, bind, Except.bind, xbeeStrlen, isNul]
        rfl
      rcases readable.manufacturerId with ⟨value, read⟩
      rcases exists_of_bind_eq_ok read with ⟨bytes, readBytes, -⟩
      simp only [xbeeTailField, viewed.type, bind, Except.bind, if_true, isTail] at readBytes
      have whole := congrArg List.length split
      rw [List.length_drop, List.length_append, List.length_cons] at whole
      have six : offset xXBeeZbNodeIdPktTail .manufacturer = 6 := rfl
      have eight : size xXBeeZbNodeIdPktTail = 8 := rfl
      cases piece : bytesAt view (offset xXBeeZbNodeIdPkt .ni + ni.length + 1 +
          offset xXBeeZbNodeIdPktTail .manufacturer) 2 with
      | error fault =>
          rw [piece] at readBytes
          cases readBytes
      | ok bytes =>
          have inside := le_of_bytesAt piece
          omega

/-! ### The packets that are passed on -/

/-- What comes before the checksum of a packet. -/
def xbeeView (packet : List UInt8 × UInt8) : List UInt8 := packet.1.take (packet.2.toNat - 1)

/-- The packet is passed to a callback of the user. -/
def Passes (series : XBeeSeries) (userCb : XBeeCbType → Option (List UInt8 → UInt8 → ℤ))
    (packet : List UInt8 × UInt8) : Prop :=
  ∃ callback code, iXBeeRecvPktCB series userCb packet.1 packet.2 = .ok (some callback, code)

/-- Its accessors stay within the packet, which is not too short for its type. -/
structure SafelyRead (packet : List UInt8 × UInt8) : Prop where
  readable : Readable (xbeeView packet)
  fixed : ∀ type struct, ucXBeePktType packet.1 = .ok type →
    xbeeFixedFields.lookup type = some struct → size struct ≤ (xbeeView packet).length

namespace XBeeFrame

/-- The frame has a type for which a callback is registered. -/
def HasCallback (series : XBeeSeries) (userCb : XBeeCbType → Option (List UInt8 → UInt8 → ℤ))
    (frame : XBeeFrame) : Prop :=
  ∃ type rest callback, frame.payload = type :: rest ∧
    eXBeeCallback series type = some callback ∧ (userCb callback).isSome

/-- The payload of the frame has all that its type asks for. -/
def IsLongEnough (frame : XBeeFrame) : Prop :=
  ∀ type rest, frame.payload = type :: rest →
    LongEnough type (xbeePktStart :: frame.high :: frame.low :: frame.payload)

theorem xbeeView_delivered {frame : XBeeFrame} (short : frame.payload.length ≤ xbeeMaxDataLen) :
    xbeeView (frame.bytes, UInt8.ofNat frame.bytes.length) =
      xbeePktStart :: frame.high :: frame.low :: frame.payload := by
  have max : xbeeMaxDataLen = 251 := rfl
  have length : frame.bytes.length = frame.payload.length + 4 := by
    simp [XBeeFrame.bytes]
  have count : (UInt8.ofNat frame.bytes.length).toNat - 1 = frame.payload.length + 3 := by
    rw [UInt8.toNat_ofNat', length]
    omega
  rw [xbeeView, count, XBeeFrame.bytes]
  simp

theorem viewed {frame : XBeeFrame} {type : UInt8} {rest : List UInt8}
    (announced : frame.payload.length = xbeeAnnounced frame.high frame.low)
    (payload : frame.payload = type :: rest) :
    Viewed (xbeePktStart :: frame.high :: frame.low :: frame.payload) type where
  type := by
    rw [payload]
    rfl
  len := by
    have read : usXBeePktLength (xbeePktStart :: frame.high :: frame.low :: frame.payload) =
        .ok (xbeeAnnounced frame.high frame.low) := rfl
    rw [read, ← announced]
    rfl
  behind := by
    simp only [List.length_cons]
    omega

end XBeeFrame

section

variable {series : XBeeSeries} {userCb : XBeeCbType → Option (List UInt8 → UInt8 → ℤ)}

theorem passes_iff {pkt : List UInt8} {len type : UInt8} (isType : ucXBeePktType pkt = .ok type) :
    Passes series userCb (pkt, len) ↔
      ∃ callback, eXBeeCallback series type = some callback ∧ (userCb callback).isSome := by
  simp only [Passes, iXBeeRecvPktCB, isType, bind, Except.bind]
  cases eXBeeCallback series type with
  | none =>
      refine ⟨fun passes => ?_, fun found => ?_⟩
      · rcases passes with ⟨callback, code, called⟩
        cases called
      · rcases found with ⟨callback, isCallback, -⟩
        cases isCallback
  | some callback =>
      cases registered : userCb callback with
      | none =>
          refine ⟨fun passes => ?_, fun found => ?_⟩
          · rcases passes with ⟨other, code, called⟩
            simp only [registered] at called
            cases called
          · rcases found with ⟨other, isCallback, isRegistered⟩
            cases isCallback
            rw [registered] at isRegistered
            cases isRegistered
      | some function =>
          refine ⟨fun _ => ⟨callback, rfl, by rw [registered]; rfl⟩, fun _ => ?_⟩
          refine ⟨callback, function pkt len, ?_⟩
          simp only [registered]
          rfl

theorem passes_cons_iff {frame : XBeeFrame} {type : UInt8} {rest : List UInt8}
    (payload : frame.payload = type :: rest) (len : UInt8) :
    Passes series userCb (frame.bytes, len) ↔ frame.HasCallback series userCb := by
  have isType : ucXBeePktType frame.bytes = .ok type := by
    rw [XBeeFrame.bytes, payload]
    rfl
  rw [passes_iff isType]
  refine ⟨fun found => ?_, fun has => ?_⟩
  · rcases found with ⟨callback, isCallback, registered⟩
    exact ⟨type, rest, callback, payload, isCallback, registered⟩
  · rcases has with ⟨other, rest', callback, isPayload, isCallback, registered⟩
    rw [payload] at isPayload
    cases isPayload
    exact ⟨callback, isCallback, registered⟩

/-- The type of a frame without payload is its checksum, for which there is no callback. -/
theorem passes_frame_iff {frame : XBeeFrame} (checks : frame.Checks) (len : UInt8) :
    Passes series userCb (frame.bytes, len) ↔ frame.HasCallback series userCb := by
  cases payload : frame.payload with
  | nil =>
      have isType : ucXBeePktType frame.bytes = .ok 0xFF := by
        rw [XBeeFrame.bytes, payload, checks, payload]
        rfl
      have noCallback : eXBeeCallback series 0xFF = none := by
        cases series <;> decide +kernel
      rw [passes_iff isType, noCallback]
      refine ⟨fun found => ?_, fun has => ?_⟩
      · rcases found with ⟨callback, isCallback, -⟩
        cases isCallback
      · rcases has with ⟨type, rest, -, isPayload, -⟩
        rw [payload] at isPayload
        cases isPayload
  | cons type rest => exact passes_cons_iff payload len

/-- A frame that checks with its third byte has a payload. -/
theorem passes_again_iff {frame : XBeeFrame}
    (whole : frame.payload.length = xbeeAnnounced frame.high frame.low)
    (again : frame.ChecksAgain) (len : UInt8) :
    Passes series userCb (frame.bytes, len) ↔ frame.HasCallback series userCb := by
  cases payload : frame.payload with
  | nil =>
      rw [XBeeFrame.ChecksAgain, payload] at again
      rw [payload, xbeeAnnounced, again] at whole
      simp at whole
  | cons type rest => exact passes_cons_iff payload len

/-- Of a packet that is taken for one of three bytes, not even the type may be read. -/
theorem not_safelyRead_again (frame : XBeeFrame) : ¬SafelyRead (frame.bytes, 3) := by
  intro safely
  rcases safely.readable.status with ⟨value, read⟩
  rcases exists_of_bind_eq_ok read with ⟨type, isType, -⟩
  have view : xbeeView (frame.bytes, 3) = [xbeePktStart, frame.high] := rfl
  rw [view] at isType
  cases isType

/-- A packet with a callback is safely read exactly when its frame is long enough. -/
theorem safelyRead_iff {frame : XBeeFrame}
    (announced : frame.payload.length = xbeeAnnounced frame.high frame.low)
    (short : frame.payload.length ≤ xbeeMaxDataLen) (has : frame.HasCallback series userCb) :
    SafelyRead (frame.bytes, UInt8.ofNat frame.bytes.length) ↔ frame.IsLongEnough := by
  rcases has with ⟨type, rest, callback, payload, isCallback, -⟩
  have viewed := XBeeFrame.viewed announced payload
  have view := XBeeFrame.xbeeView_delivered short
  have isType : ucXBeePktType frame.bytes = .ok type := by
    rw [XBeeFrame.bytes, payload]
    rfl
  rcases isSome_fixed isCallback with ⟨struct, fixed⟩
  constructor
  · intro safely other rest' isPayload
    rw [payload] at isPayload
    cases isPayload
    have enough := safely.fixed type
    rw [view] at enough
    refine ⟨fun struct isStruct => enough struct isType isStruct, fun isIdent => ?_⟩
    have readable := safely.readable
    rw [view] at readable
    exact identifies_of_readable (isIdent ▸ viewed) readable
  · intro long
    have enough := long type rest payload
    refine ⟨?_, fun other struct isOther isStruct => ?_⟩
    · rw [view]
      exact readable_of_longEnough viewed fixed enough
    · rw [isType] at isOther
      cases isOther
      rw [view]
      exact enough.fixed struct isStruct

end

/-! ### Runs -/

/-- Whatever is handed over of the stream, the packets that are passed to a callback are safely
read. -/
def SafeCallbacks (series : XBeeSeries) (userCb : XBeeCbType → Option (List UInt8 → UInt8 → ℤ))
    (env : XBeeEnv) (chunks : List XBeeChunk) : Prop :=
  ∀ packet, HandedOver env chunks packet → Passes series userCb packet → SafelyRead packet

/-- A frame that checks and has a callback is long enough, and one that has a callback is not
checked again. -/
def XBeeMeeting.IsHarmless (series : XBeeSeries)
    (userCb : XBeeCbType → Option (List UInt8 → UInt8 → ℤ)) : XBeeMeeting → Prop
  | .frame packet => packet.Checks → packet.HasCallback series userCb → packet.IsLongEnough
  | .again packet => ¬packet.HasCallback series userCb

section

variable {series : XBeeSeries} {userCb : XBeeCbType → Option (List UInt8 → UInt8 → ℤ)}
  {env : XBeeEnv} {chunks : List XBeeChunk}

theorem isHarmless_iff {meeting : XBeeMeeting} (holds : meeting.Holds) :
    meeting.IsHarmless series userCb ↔
      ∀ packet ∈ meeting.delivery, Passes series userCb packet → SafelyRead packet := by
  cases meeting with
  | frame packet =>
      rcases holds with ⟨whole, short⟩
      simp only [XBeeMeeting.IsHarmless, XBeeMeeting.delivery, XBeeEvent.delivery]
      by_cases checks : packet.Checks
      · rw [if_pos checks, List.forall_mem_singleton, passes_frame_iff checks]
        refine ⟨fun long has => ?_, fun safely _ has => ?_⟩
        · exact (safelyRead_iff whole (whole ▸ short) has).mpr (long checks has)
        · exact (safelyRead_iff whole (whole ▸ short) has).mp (safely has)
      · rw [if_neg checks]
        exact ⟨fun _ _ none => absurd none List.not_mem_nil, fun _ right => absurd right checks⟩
  | again packet =>
      rcases holds with ⟨whole, again⟩
      simp only [XBeeMeeting.IsHarmless, XBeeMeeting.delivery]
      rw [List.forall_mem_singleton, passes_again_iff whole again]
      exact ⟨fun none has => absurd has none, fun safely has =>
        not_safelyRead_again packet (safely has)⟩

end

end Sysio.XBee
