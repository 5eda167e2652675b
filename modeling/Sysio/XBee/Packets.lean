import Sysio.Lib.Layout
import Sysio.Lib.Strings
import Sysio.XBee.Receiver

/-!
# Packets and their fields

The packet layouts of `src/xbee_private.h`, and the accessors of `src/xbee.c` and `src/xbee2.c`
that read them. A packet is the bytes that may be read; an accessor that reads elsewhere faults.
A pointer into a packet is the place of what it designates.

An accessor is a `switch` on the type with a cast for each `case`; it is given here by the list
of its cases.
-/

namespace Sysio.XBee

open Layout

/-- The names of the fields of the packet structures. -/
inductive XBeeField where
  | start | len | type | frameId | command | param | status | dest64 | dest16 | apply | src64
  | src16 | radius | opt | data | numSamples | dchMask | achMask | chMask | sensor | values | temp
  | remote16 | remote64 | ni | dst16 | retry | discovery | dest | src | rssi | parent16 | device
  | event | profile | manufacturer
deriving DecidableEq, Repr

/-- A packed structure: its fields in order, each with its size. -/
abbrev XBeeStruct := Struct XBeeField

/-- `xXBeePktHdr`, the start delimiter and the length. -/
def xXBeePktHdr : XBeeStruct := [(.start, 1), (.len, 2)]

/-- The header, and the fields behind it. -/
def behindHdr (fields : XBeeStruct) : XBeeStruct := xXBeePktHdr ++ fields

/-- `xXBeePkt`, what every packet has. -/
def xXBeePkt : XBeeStruct := behindHdr [(.type, 1), (.data, 0)]

/-- A local AT command. -/
def xXBeeAtCmdPkt : XBeeStruct :=
  behindHdr [(.type, 1), (.frameId, 1), (.command, 2), (.param, 0)]

/-- The response to a local AT command. -/
def xXBeeAtCmdRespPkt : XBeeStruct :=
  behindHdr [(.type, 1), (.frameId, 1), (.command, 2), (.status, 1), (.param, 0)]

/-- A remote AT command. -/
def xXBeeRemoteAtCmdPkt : XBeeStruct :=
  behindHdr [(.type, 1), (.frameId, 1), (.dest64, 8), (.dest16, 2), (.apply, 1),
    (.command, 2), (.param, 0)]

/-- The response to a remote AT command. -/
def xXBeeRemoteAtCmdRespPkt : XBeeStruct :=
  behindHdr [(.type, 1), (.frameId, 1), (.src64, 8), (.src16, 2), (.command, 2),
    (.status, 1), (.param, 0)]

/-- A modem status. -/
def xXBeeModemStatusPkt : XBeeStruct := behindHdr [(.type, 1), (.status, 1)]

/-- A transmit request of series 2. -/
def xXBeeZbTxReqPkt : XBeeStruct :=
  behindHdr [(.type, 1), (.frameId, 1), (.dest64, 8), (.dest16, 2), (.radius, 1), (.opt, 1),
    (.data, 0)]

/-- A packet received by series 2. -/
def xXBeeZbRxPkt : XBeeStruct :=
  behindHdr [(.type, 1), (.src64, 8), (.src16, 2), (.opt, 1), (.data, 0)]

/-- The I/O samples of series 2. -/
def xXBeeZbRxIoPkt : XBeeStruct :=
  behindHdr [(.type, 1), (.src64, 8), (.src16, 2), (.opt, 1), (.numSamples, 1),
    (.dchMask, 2), (.achMask, 1), (.data, 0)]

/-- A sensor reading of series 2. -/
def xXBeeZbRxSensorPkt : XBeeStruct :=
  behindHdr [(.type, 1), (.src64, 8), (.src16, 2), (.opt, 1), (.sensor, 1), (.values, 8),
    (.temp, 2)]

/-- A node identification, up to its string. -/
def xXBeeZbNodeIdPkt : XBeeStruct :=
  behindHdr [(.type, 1), (.src64, 8), (.src16, 2), (.opt, 1), (.remote16, 2),
    (.remote64, 8), (.ni, 20)]

/-- What stands behind the string of a node identification. -/
def xXBeeZbNodeIdPktTail : XBeeStruct :=
  [(.parent16, 2), (.device, 1), (.event, 1), (.profile, 2), (.manufacturer, 2)]

/-- The transmit status of series 2. -/
def xXBeeZbTxStatusPkt : XBeeStruct :=
  behindHdr [(.type, 1), (.frameId, 1), (.dst16, 2), (.retry, 1), (.status, 1),
    (.discovery, 1)]

/-- A transmit request of series 1 to a 64-bit address. -/
def xXBeeTxReq64Pkt : XBeeStruct :=
  behindHdr [(.type, 1), (.frameId, 1), (.dest, 8), (.opt, 1), (.data, 0)]

/-- A packet received by series 1 from a 64-bit address. -/
def xXBeeRx64Pkt : XBeeStruct :=
  behindHdr [(.type, 1), (.src, 8), (.rssi, 1), (.opt, 1), (.data, 0)]

/-- A transmit request of series 1 to a 16-bit address. -/
def xXBeeTxReq16Pkt : XBeeStruct :=
  behindHdr [(.type, 1), (.frameId, 1), (.dest, 2), (.opt, 1), (.data, 0)]

/-- A packet received by series 1 from a 16-bit address. -/
def xXBeeRx16Pkt : XBeeStruct :=
  behindHdr [(.type, 1), (.src, 2), (.rssi, 1), (.opt, 1), (.data, 0)]

/-- The I/O samples of series 1 from a 64-bit address. -/
def xXBeeRxIo64Pkt : XBeeStruct :=
  behindHdr [(.type, 1), (.src, 8), (.rssi, 1), (.opt, 1), (.numSamples, 1), (.chMask, 2),
    (.data, 0)]

/-- The I/O samples of series 1 from a 16-bit address. -/
def xXBeeRxIo16Pkt : XBeeStruct :=
  behindHdr [(.type, 1), (.src, 2), (.rssi, 1), (.opt, 1), (.numSamples, 1), (.chMask, 2),
    (.data, 0)]

/-- The transmit status of series 1. -/
def xXBeeTxStatusPkt : XBeeStruct := behindHdr [(.type, 1), (.frameId, 1), (.status, 1)]

def xbeePktTypeAtcmd : UInt8 := 0x08
def xbeePktTypeQatcmd : UInt8 := 0x09
def xbeePktTypeRemoteAtcmd : UInt8 := 0x17
def xbeePktTypeAtcmdResp : UInt8 := 0x88
def xbeePktTypeModemStatus : UInt8 := 0x8A
def xbeePktTypeRemoteAtcmdResp : UInt8 := 0x97
def xbeePktTypeTx64 : UInt8 := 0x00
def xbeePktTypeTx16 : UInt8 := 0x01
def xbeePktTypeRx64 : UInt8 := 0x80
def xbeePktTypeRx16 : UInt8 := 0x81
def xbeePktTypeRx64Io : UInt8 := 0x82
def xbeePktTypeRx16Io : UInt8 := 0x83
def xbeePktTypeTxStatus : UInt8 := 0x89
def xbeePktTypeZbTxReq : UInt8 := 0x10
def xbeePktTypeZbTxStatus : UInt8 := 0x8B
def xbeePktTypeZbRx : UInt8 := 0x90
def xbeePktTypeZbRxIo : UInt8 := 0x92
def xbeePktTypeZbRxSensor : UInt8 := 0x94
def xbeePktTypeZbNodeIdent : UInt8 := 0x95

/-- The byte at a place of the packet. -/
def byteAt (pkt : List UInt8) (place : ℕ) : Except Fault UInt8 :=
  match pkt[place]? with
  | none => .error .outOfBounds
  | some byte => .ok byte

/-- `count` bytes from a place of the packet on. -/
def bytesAt (pkt : List UInt8) (place count : ℕ) : Except Fault (List UInt8) :=
  if place + count ≤ pkt.length then .ok ((pkt.drop place).take count)
  else .error .outOfBounds

/-- `pkt->type`. -/
def ucXBeePktType (pkt : List UInt8) : Except Fault UInt8 := byteAt pkt (offset xXBeePkt .type)

/-- `ntohs (pkt->hdr.len)`. -/
def usXBeePktLength (pkt : List UInt8) : Except Fault ℕ := do
  let high ← byteAt pkt (offset xXBeePkt .len)
  let low ← byteAt pkt (offset xXBeePkt .len + 1)
  return high.toNat * 256 + low.toNat

/-- The cases of a `switch` on the type: the structure each one casts to, and its field. -/
abbrev XBeeCases := List (UInt8 × XBeeStruct × XBeeField)

/-- `case T: return ((S *) pkt)->field`, for a field of one byte. -/
def xbeeValue (cases : XBeeCases) (pkt : List UInt8) : Except Fault ℤ := do
  let type ← ucXBeePktType pkt
  match cases.lookup type with
  | some (struct, field) => do
      let value ← byteAt pkt (offset struct field)
      return value.toNat
  | none => return -1

/-- `case T: return ((S *) pkt)->field`, for a field that is an array. -/
def xbeePointer (cases : XBeeCases) (pkt : List UInt8) : Except Fault (Option ℕ) := do
  let type ← ucXBeePktType pkt
  return (cases.lookup type).map fun (struct, field) => offset struct field

/-- `case T: len -= sizeof (S)`, from the length of the packet without its checksum. -/
def xbeeLengthBehind (cases : XBeeCases) (pkt : List UInt8) : Except Fault ℤ := do
  let len ← usXBeePktLength pkt
  let type ← ucXBeePktType pkt
  match cases.lookup type with
  | some (struct, _) => return len + 3 - size struct
  | none => return -1

section

variable {cases : XBeeCases} {pkt : List UInt8} {type : UInt8} {struct : XBeeStruct}
  {field : XBeeField}

theorem xbeeValue_eq (isType : ucXBeePktType pkt = .ok type)
    (found : cases.lookup type = some (struct, field)) {value : UInt8}
    (read : byteAt pkt (offset struct field) = .ok value) :
    xbeeValue cases pkt = .ok value.toNat := by
  simp only [xbeeValue, isType, bind, Except.bind, found, read]
  rfl

theorem xbeeValue_none (isType : ucXBeePktType pkt = .ok type)
    (found : cases.lookup type = none) : xbeeValue cases pkt = .ok (-1) := by
  simp only [xbeeValue, isType, bind, Except.bind, found]
  rfl

theorem xbeePointer_none (isType : ucXBeePktType pkt = .ok type)
    (found : cases.lookup type = none) : xbeePointer cases pkt = .ok none := by
  simp only [xbeePointer, isType, bind, Except.bind, found]
  rfl

theorem xbeePointer_eq (isType : ucXBeePktType pkt = .ok type)
    (found : cases.lookup type = some (struct, field)) :
    xbeePointer cases pkt = .ok (some (offset struct field)) := by
  simp only [xbeePointer, isType, bind, Except.bind, found]
  rfl

theorem xbeeLengthBehind_eq (isType : ucXBeePktType pkt = .ok type)
    (found : cases.lookup type = some (struct, field)) {len : ℕ}
    (announced : usXBeePktLength pkt = .ok len) :
    xbeeLengthBehind cases pkt = .ok (len + 3 - size struct : ℤ) := by
  simp only [xbeeLengthBehind, announced, isType, bind, Except.bind, found]
  rfl

end

/-- The packets with the 64-bit address of their source. -/
def xbeeAddrSrc64Cases : XBeeCases :=
  [(xbeePktTypeRemoteAtcmdResp, xXBeeRemoteAtCmdRespPkt, .src64),
    (xbeePktTypeRx64, xXBeeRx64Pkt, .src),
    (xbeePktTypeRx64Io, xXBeeRxIo64Pkt, .src),
    (xbeePktTypeZbRx, xXBeeZbRxPkt, .src64),
    (xbeePktTypeZbRxIo, xXBeeZbRxIoPkt, .src64),
    (xbeePktTypeZbRxSensor, xXBeeZbRxSensorPkt, .src64),
    (xbeePktTypeZbNodeIdent, xXBeeZbNodeIdPkt, .src64)]

/-- The 64-bit address of the source. -/
def pucXBeePktAddrSrc64 : List UInt8 → Except Fault (Option ℕ) := xbeePointer xbeeAddrSrc64Cases

/-- The packets with the 16-bit address of their source. -/
def xbeeAddrSrc16Cases : XBeeCases :=
  [(xbeePktTypeRemoteAtcmdResp, xXBeeRemoteAtCmdRespPkt, .src16),
    (xbeePktTypeRx16, xXBeeRx16Pkt, .src),
    (xbeePktTypeRx16Io, xXBeeRxIo16Pkt, .src),
    (xbeePktTypeZbRx, xXBeeZbRxPkt, .src16),
    (xbeePktTypeZbRxIo, xXBeeZbRxIoPkt, .src16),
    (xbeePktTypeZbRxSensor, xXBeeZbRxSensorPkt, .src16),
    (xbeePktTypeZbNodeIdent, xXBeeZbNodeIdPkt, .src16)]

/-- The 16-bit address of the source. -/
def pucXBeePktAddrSrc16 : List UInt8 → Except Fault (Option ℕ) := xbeePointer xbeeAddrSrc16Cases

/-- The packets with data. -/
def xbeeDataCases : XBeeCases :=
  [(xbeePktTypeRx64, xXBeeRx64Pkt, .data),
    (xbeePktTypeRx64Io, xXBeeRxIo64Pkt, .data),
    (xbeePktTypeRx16, xXBeeRx16Pkt, .data),
    (xbeePktTypeRx16Io, xXBeeRxIo16Pkt, .data),
    (xbeePktTypeZbRx, xXBeeZbRxPkt, .data),
    (xbeePktTypeZbRxIo, xXBeeZbRxIoPkt, .data)]

/-- The data of a packet. -/
def pucXBeePktData : List UInt8 → Except Fault (Option ℕ) := xbeePointer xbeeDataCases

/-- The number of bytes of data. -/
def iXBeePktDataLen : List UInt8 → Except Fault ℤ := xbeeLengthBehind xbeeDataCases

/-- The packets with a frame id. -/
def xbeeFrameIdCases : XBeeCases :=
  [(xbeePktTypeAtcmd, xXBeeAtCmdPkt, .frameId),
    (xbeePktTypeAtcmdResp, xXBeeAtCmdRespPkt, .frameId),
    (xbeePktTypeRemoteAtcmd, xXBeeRemoteAtCmdPkt, .frameId),
    (xbeePktTypeRemoteAtcmdResp, xXBeeRemoteAtCmdRespPkt, .frameId),
    (xbeePktTypeTx64, xXBeeTxReq64Pkt, .frameId),
    (xbeePktTypeTx16, xXBeeTxReq16Pkt, .frameId),
    (xbeePktTypeTxStatus, xXBeeTxStatusPkt, .frameId),
    (xbeePktTypeZbTxReq, xXBeeZbTxReqPkt, .frameId),
    (xbeePktTypeZbTxStatus, xXBeeZbTxStatusPkt, .frameId)]

/-- The frame id, -1 for other packets. -/
def iXBeePktFrameId : List UInt8 → Except Fault ℤ := xbeeValue xbeeFrameIdCases

/-- The packets with a status. -/
def xbeeStatusCases : XBeeCases :=
  [(xbeePktTypeAtcmdResp, xXBeeAtCmdRespPkt, .status),
    (xbeePktTypeRemoteAtcmdResp, xXBeeRemoteAtCmdRespPkt, .status),
    (xbeePktTypeModemStatus, xXBeeModemStatusPkt, .status),
    (xbeePktTypeTxStatus, xXBeeTxStatusPkt, .status),
    (xbeePktTypeZbTxStatus, xXBeeZbTxStatusPkt, .status)]

/-- The status, -1 for other packets. -/
def iXBeePktStatus : List UInt8 → Except Fault ℤ := xbeeValue xbeeStatusCases

/-- The packets with a discovery status. -/
def xbeeDiscoveryCases : XBeeCases :=
  [(xbeePktTypeZbTxStatus, xXBeeZbTxStatusPkt, .discovery)]

/-- The discovery status, -1 for other packets. -/
def iXBeePktDiscovery : List UInt8 → Except Fault ℤ := xbeeValue xbeeDiscoveryCases

/-- The packets with a number of retries. -/
def xbeeRetryCases : XBeeCases := [(xbeePktTypeZbTxStatus, xXBeeZbTxStatusPkt, .retry)]

/-- The number of retries, -1 for other packets. -/
def iXBeePktRetry : List UInt8 → Except Fault ℤ := xbeeValue xbeeRetryCases

/-- The packets with an AT command. -/
def xbeeCommandCases : XBeeCases :=
  [(xbeePktTypeAtcmd, xXBeeAtCmdPkt, .command),
    (xbeePktTypeQatcmd, xXBeeAtCmdPkt, .command),
    (xbeePktTypeAtcmdResp, xXBeeAtCmdRespPkt, .command),
    (xbeePktTypeRemoteAtcmd, xXBeeRemoteAtCmdPkt, .command),
    (xbeePktTypeRemoteAtcmdResp, xXBeeRemoteAtCmdRespPkt, .command)]

/-- The name of the AT command. -/
def pcXBeePktCommand : List UInt8 → Except Fault (Option ℕ) := xbeePointer xbeeCommandCases

/-- The packets with parameters of an AT command. -/
def xbeeParamCases : XBeeCases :=
  [(xbeePktTypeAtcmd, xXBeeAtCmdPkt, .param),
    (xbeePktTypeQatcmd, xXBeeAtCmdPkt, .param),
    (xbeePktTypeAtcmdResp, xXBeeAtCmdRespPkt, .param),
    (xbeePktTypeRemoteAtcmd, xXBeeRemoteAtCmdPkt, .param),
    (xbeePktTypeRemoteAtcmdResp, xXBeeRemoteAtCmdRespPkt, .param)]

/-- The number of bytes of the parameters. -/
def iXBeePktParamLen : List UInt8 → Except Fault ℤ := xbeeLengthBehind xbeeParamCases

/-- The parameters of the AT command. -/
def pucXBeePktParam : List UInt8 → Except Fault (Option ℕ) := xbeePointer xbeeParamCases

/-- The packets with a broadcast radius. -/
def xbeeRadiusCases : XBeeCases := [(xbeePktTypeZbTxReq, xXBeeZbTxReqPkt, .radius)]

/-- The broadcast radius, -1 for other packets. -/
def iXBeePktRadius : List UInt8 → Except Fault ℤ := xbeeValue xbeeRadiusCases

/-- The packets with the option to apply the changes. -/
def xbeeApplyCases : XBeeCases := [(xbeePktTypeRemoteAtcmd, xXBeeRemoteAtCmdPkt, .apply)]

/-- The option to apply the changes, -1 for other packets. -/
def iXBeePktApply : List UInt8 → Except Fault ℤ := xbeeValue xbeeApplyCases

/-- The packets with a signal strength. -/
def xbeeRssiCases : XBeeCases :=
  [(xbeePktTypeRx64, xXBeeRx64Pkt, .rssi),
    (xbeePktTypeRx16, xXBeeRx16Pkt, .rssi),
    (xbeePktTypeRx64Io, xXBeeRxIo64Pkt, .rssi),
    (xbeePktTypeRx16Io, xXBeeRxIo16Pkt, .rssi)]

/-- The signal strength, -1 for other packets. -/
def iXBeePktRssi : List UInt8 → Except Fault ℤ := xbeeValue xbeeRssiCases

/-- The packets with options. -/
def xbeeOptionsCases : XBeeCases :=
  [(xbeePktTypeTx64, xXBeeTxReq64Pkt, .opt),
    (xbeePktTypeRx64, xXBeeRx64Pkt, .opt),
    (xbeePktTypeTx16, xXBeeTxReq16Pkt, .opt),
    (xbeePktTypeRx16, xXBeeRx16Pkt, .opt),
    (xbeePktTypeRx64Io, xXBeeRxIo64Pkt, .opt),
    (xbeePktTypeRx16Io, xXBeeRxIo16Pkt, .opt),
    (xbeePktTypeZbTxReq, xXBeeZbTxReqPkt, .opt),
    (xbeePktTypeZbRx, xXBeeZbRxPkt, .opt),
    (xbeePktTypeZbRxIo, xXBeeZbRxIoPkt, .opt),
    (xbeePktTypeZbRxSensor, xXBeeZbRxSensorPkt, .opt),
    (xbeePktTypeZbNodeIdent, xXBeeZbNodeIdPkt, .opt)]

/-- The options, -1 for other packets. -/
def iXBeePktOptions : List UInt8 → Except Fault ℤ := xbeeValue xbeeOptionsCases

/-- The packets with a node identifier. -/
def xbeeNiCases : XBeeCases := [(xbeePktTypeZbNodeIdent, xXBeeZbNodeIdPkt, .ni)]

/-- The string of the node identifier. -/
def pcXBeePktNiString : List UInt8 → Except Fault (Option ℕ) := xbeePointer xbeeNiCases

/-- `strlen` of the string at a place of the packet. -/
def xbeeStrlen (pkt : List UInt8) (place : ℕ) : Except Fault ℕ := do
  let found ← strchr (pkt.drop place) 0
  match found with
  | some length => return length
  | none => .error .outOfBounds

/-- The place behind the string, `NULL` where there is no string. -/
def pxXBeeZbNodeIdPktTail (pkt : List UInt8) : Except Fault ℕ := do
  let ni ← pcXBeePktNiString pkt
  match ni with
  | none => .error .nullPointer
  | some ni => do
      let length ← xbeeStrlen pkt ni
      return ni + length + 1

/-- A field of the node identification tail, for the packets that have one. -/
def xbeeTailField (field : XBeeField) (count : ℕ) (pkt : List UInt8) :
    Except Fault (Option (List UInt8)) := do
  let type ← ucXBeePktType pkt
  if type = xbeePktTypeZbNodeIdent then do
    let tail ← pxXBeeZbNodeIdPktTail pkt
    let value ← bytesAt pkt (tail + offset xXBeeZbNodeIdPktTail field) count
    return some value
  else return none

/-- The 16-bit address of the parent. -/
def pucXBeePktAddrParent16 : List UInt8 → Except Fault (Option (List UInt8)) :=
  xbeeTailField .parent16 2

/-- A field of the tail as a number in network order, -1 for other packets. -/
def xbeeTailValue (field : XBeeField) (count : ℕ) (pkt : List UInt8) : Except Fault ℤ := do
  let value ← xbeeTailField field count pkt
  match value with
  | some bytes => return bytes.foldl (fun number byte => number * 256 + byte.toNat) 0
  | none => return -1

/-- The type of the device. -/
def eXBeePktDeviceType : List UInt8 → Except Fault ℤ := xbeeTailValue .device 1

/-- The event that the identification comes from. -/
def eXBeePktSourceEvent : List UInt8 → Except Fault ℤ := xbeeTailValue .event 1

/-- The profile of the application. -/
def iXBeePktProfileId : List UInt8 → Except Fault ℤ := xbeeTailValue .profile 2

/-- The manufacturer. -/
def iXBeePktManufacturerId : List UInt8 → Except Fault ℤ := xbeeTailValue .manufacturer 2

end Sysio.XBee
