import Sysio.Rf69.Module

/-!
# The driver of `spi/rf69.c` and `spi/rf69_sysio.c`

The functions of the driver, and the interrupt routine `vRf69Isr` as it runs when nothing comes in
between. `irq` is what the poll thread does before the driver touches its structure or the module,
`lock` what it does until `iRf69ReceiveDone` has its lock; both are `quiet` where the driver is the
only one. A result that is true or false is 1 or 0.
-/

namespace Sysio.Rf69

open Routine

/-- The modulation. -/
def regDatamodul : UInt8 := 0x02
/-- The high byte of the bit rate. -/
def regBitratemsb : UInt8 := 0x03
/-- The low byte of the bit rate. -/
def regBitratelsb : UInt8 := 0x04
/-- The high byte of the frequency deviation. -/
def regFdevmsb : UInt8 := 0x05
/-- The low byte of the frequency deviation. -/
def regFdevlsb : UInt8 := 0x06
/-- The high byte of the frequency. -/
def regFrfmsb : UInt8 := 0x07
/-- The middle byte of the frequency. -/
def regFrfmid : UInt8 := 0x08
/-- The low byte of the frequency. -/
def regFrflsb : UInt8 := 0x09
/-- The calibration of the RC oscillator. -/
def regOsc1 : UInt8 := 0x0A
/-- The amplifiers and their power. -/
def regPalevel : UInt8 := 0x11
/-- The protection against too much current. -/
def regOcp : UInt8 := 0x13
/-- The bandwidth of the receiver. -/
def regRxbw : UInt8 := 0x19
/-- The measurement of the RSSI. -/
def regRssiconfig : UInt8 := 0x23
/-- The RSSI, in steps of -0.5 dBm. -/
def regRssivalue : UInt8 := 0x24
/-- The mapping of DIO0 to DIO3. -/
def regDiomapping1 : UInt8 := 0x25
/-- The mapping of DIO4 and DIO5. -/
def regDiomapping2 : UInt8 := 0x26
/-- The first interrupt flags. -/
def regIrqflags1 : UInt8 := 0x27
/-- The second interrupt flags, those of the FIFO. -/
def regIrqflags2 : UInt8 := 0x28
/-- The threshold of the RSSI. -/
def regRssithresh : UInt8 := 0x29
/-- The configuration of the sync word. -/
def regSyncconfig : UInt8 := 0x2E
/-- The first byte of the sync word. -/
def regSyncvalue1 : UInt8 := 0x2F
/-- The second byte of the sync word: the network. -/
def regSyncvalue2 : UInt8 := 0x30
/-- The format of a packet and the filter of its address. -/
def regPacketconfig1 : UInt8 := 0x37
/-- The most bytes of a packet. -/
def regPayloadlength : UInt8 := 0x38
/-- The address of the node. -/
def regNodeadrs : UInt8 := 0x39
/-- The address of all nodes. -/
def regBroadcastadrs : UInt8 := 0x3A
/-- The threshold of the FIFO. -/
def regFifothresh : UInt8 := 0x3C
/-- The restart of the receiver, and the encryption. -/
def regPacketconfig2 : UInt8 := 0x3D
/-- The first byte of the key. -/
def regAeskey1 : UInt8 := 0x3E
/-- The measurement of the temperature. -/
def regTemp1 : UInt8 := 0x4E
/-- The temperature. -/
def regTemp2 : UInt8 := 0x4F
/-- The first register of the boost of high power. -/
def regTestpa1 : UInt8 := 0x5A
/-- The second register of the boost of high power. -/
def regTestpa2 : UInt8 := 0x5C
/-- The fading margin of the receiver. -/
def regTestdagc : UInt8 := 0x6F

/-- Start the calibration. -/
def rfOsc1RccalStart : UInt8 := 0x80
/-- The calibration is done. -/
def rfOsc1RccalDone : UInt8 := 0x40
/-- The amplifier PA0 is on. -/
def rfPalevelPa0On : UInt8 := 0x80
/-- The amplifier PA1 is on. -/
def rfPalevelPa1On : UInt8 := 0x40
/-- The amplifier PA2 is on. -/
def rfPalevelPa2On : UInt8 := 0x20
/-- The protection is off. -/
def rfOcpOff : UInt8 := 0x0F
/-- The protection is on. -/
def rfOcpOn : UInt8 := 0x1A
/-- Start the measurement. -/
def rfRssiStart : UInt8 := 0x01
/-- The measurement is done. -/
def rfRssiDone : UInt8 := 0x02
/-- DIO0 is for a payload that is ready. -/
def rfDiomapping1Dio0_01 : UInt8 := 0x40
/-- The module is in its mode. -/
def rfIrqflags1Modeready : UInt8 := 0x80
/-- A payload is ready. -/
def rfIrqflags2Payloadready : UInt8 := 0x04
/-- Any address. -/
def rfPacket1AdrsfilteringOff : UInt8 := 0x00
/-- The address of the node, and that of all nodes. -/
def rfPacket1AdrsfilteringNodebroadcast : UInt8 := 0x04
/-- Restart the receiver. -/
def rfPacket2Rxrestart : UInt8 := 0x04
/-- The encryption is on. -/
def rfPacket2AesOn : UInt8 := 0x01
/-- Start the measurement. -/
def rfTemp1MeasStart : UInt8 := 0x08
/-- The measurement is running. -/
def rfTemp1MeasRunning : UInt8 := 0x04

/-- How long a sender waits for a free channel. -/
def rf69CsmaTimeoutMs : ℤ := 1000
/-- The level below which the channel is free. -/
def rf69CsmaMinLevelDbm : ℤ := -90
/-- How long a sender waits for the end of a packet. -/
def rf69TxTimeoutMs : ℤ := 1000
/-- The power level of `iRf69Open`. -/
def rf69DefaultPower : ℤ := 18
/-- The offset of the thermometer. -/
def rf69TempCal : ℤ := 150

/-- `INT_MAX`, an error where a negative result is none. -/
def intMax : ℤ := 2147483647

/-! ### Registers -/

/-- Wait until the module is in its mode. -/
def iRf69WaitForReady (irq : Driver Unit) (timeout : ℤ) : Driver ℤ := do
  let turns ← vRf69TimerStart timeout
  let b ← whileRunning turns (tryByte (iRf69ReadReg irq regIrqflags1))
    fun b => b &&& rfIrqflags1Modeready = 0
  pure (if b &&& rfIrqflags1Modeready ≠ 0 then 1 else 0)

/-- Write a register until it is read back. -/
def iRf69WriteRegWithCheck (irq : Driver Unit) (reg data : UInt8) (timeout : ℤ) : Driver ℤ :=
  called do
    let turns ← vRf69TimerStart timeout
    let b ← whileRunning turns (do
        tryInt (iRf69WriteReg irq reg data)
        tryByte (iRf69ReadReg irq reg))
      fun b => b ≠ data
    pure (if b = data then 1 else 0)

/-- The boost of high power. -/
def iRf69SetHighPowerRegs (irq : Driver Unit) (bOn : Bool) : Driver ℤ := called do
  tryInt (iRf69WriteReg irq regTestpa1 (if bOn then 0x5D else 0x55))
  tryInt (iRf69WriteReg irq regTestpa2 (if bOn then 0x7C else 0x70))
  pure 0

/-- Wait until the interrupt pin is high. -/
def iRf69WaitIrq (irq : Driver Unit) (timeout : ℤ) : Driver ℤ := do
  let turns ← vRf69TimerStart timeout
  let bIrqHigh ← whileRunning turns (tryBool (iRf69ReadIrqPin irq)) fun bIrqHigh => !bIrqHigh
  pure bIrqHigh.toInt

/-- Restart the receiver. -/
def iRf69AvoidRxDeadLocks (irq : Driver Unit) : Driver ℤ := called do
  let b ← tryByte (iRf69ReadReg irq regPacketconfig2)
  tryInt (iRf69WriteReg irq regPacketconfig2 (b &&& 0xFB ||| rfPacket2Rxrestart))
  pure 0

/-! ### The operating mode -/

/-- The `switch` of `iRf69SetMode`; it has a case for every mode. -/
def rf69SwitchMode (irq : Driver Unit) (newMode : ERf69Mode) (b : UInt8) : Driver Unit :=
  match newMode with
  | .tx => do
      tryInt (iRf69WriteReg irq regOpmode (b ||| rfOpmodeTransmitter))
      let isRfm69hw ← access irq (·.isRfm69hw)
      whenever isRfm69hw (tryInt (iRf69SetHighPowerRegs irq true))
  | .rx => do
      tryInt (iRf69WriteReg irq regOpmode (b ||| rfOpmodeReceiver))
      let isRfm69hw ← access irq (·.isRfm69hw)
      whenever isRfm69hw (tryInt (iRf69SetHighPowerRegs irq false))
  | .synth => tryInt (iRf69WriteReg irq regOpmode (b ||| rfOpmodeSynthesizer))
  | .standby => tryInt (iRf69WriteReg irq regOpmode (b ||| rfOpmodeStandby))
  | .sleep => tryInt (iRf69WriteReg irq regOpmode (b ||| rfOpmodeSleep))

/-- A mode that is in the cache already needs no transfer. -/
def iRf69SetMode (irq : Driver Unit) (newMode : ERf69Mode) : Driver ℤ := called do
  let mode ← access irq (·.mode)
  whenever (newMode ≠ mode) do
    let b ← tryByte (iRf69ReadReg irq regOpmode)
    rf69SwitchMode irq newMode (b &&& 0xE3)
    let mode ← access irq (·.mode)
    whenever (mode = .sleep) (ignored (iRf69WaitForReady irq 50))
    update irq fun rf => { rf with mode := newMode }
  noteMode newMode
  pure 0

/-- The mode of least power. -/
def iRf69Sleep (irq : Driver Unit) : Driver ℤ := iRf69SetMode irq .sleep

/-! ### Settings -/

/-- The bounds of the four bands, in hertz. -/
def iFrfBounds : List (ℤ × ℤ) :=
  [(290000000, 340000000), (433075000, 434775000), (868000000, 870000000),
    (890000000, 1020000000)]

/-- The frequency is in one of the bands. -/
def bIsLicensedFreq (f : ℤ) : Bool :=
  iFrfBounds.any fun bounds => decide (bounds.1 ≤ f ∧ f ≤ bounds.2)

/-- A step of the frequency registers is 15625 / 256 Hz. -/
def iSetFrequencyRegs (irq : Driver Unit) (freq : ℤ) : Driver ℤ := called do
  if bIsLicensedFreq freq then do
    let steps := freq * 256 / 15625
    tryInt (iRf69WriteReg irq regFrfmsb (UInt8.ofInt (steps / 65536)))
    tryInt (iRf69WriteReg irq regFrfmid (UInt8.ofInt (steps / 256)))
    tryInt (iRf69WriteReg irq regFrflsb (UInt8.ofInt steps))
    pure 0
  else pure (-1)

/-- Whether the encryption is on. -/
def iRf69isEncrypted (irq : Driver Unit) : Driver ℤ := do
  let b ← tryByte (iRf69ReadReg irq regPacketconfig2)
  pure (if b &&& rfPacket2AesOn ≠ 0 then 1 else 0)

/-- A key has 16 bytes; none switches the encryption off. -/
def iRf69SetEncryptKey (irq : Driver Unit) (key : Option (List UInt8)) : Driver ℤ := called do
  tryInt (iRf69SetMode irq .standby)
  whenever key.isSome do
    whenever ((key.getD []).length ≠ 16) (returns (-1))
    tryInt (iRf69WriteBlock irq regAeskey1 (key.getD []))
  let b ← tryByte (iRf69ReadReg irq regPacketconfig2)
  tryInt (iRf69WriteReg irq regPacketconfig2
    (b &&& 0xFE ||| (if key.isSome then rfPacket2AesOn else 0)))
  pure 0

/-- The address of the node. -/
def iRf69SetNodeId (irq : Driver Unit) (ucNodeId : UInt8) : Driver ℤ := called do
  tryInt (iRf69WriteReg irq regNodeadrs ucNodeId)
  update irq fun rf => { rf with nodeId := ucNodeId }
  pure 0

/-- The address of the node. -/
def iRf69NodeId (irq : Driver Unit) : Driver ℤ := do
  let b ← tryByte (iRf69ReadReg irq regNodeadrs)
  pure b.toNat

/-- The network is the second byte of the sync word. -/
def iRf69SetNetworkId (irq : Driver Unit) (ucNetId : UInt8) : Driver ℤ := called do
  tryInt (iRf69WriteReg irq regSyncvalue2 ucNetId)
  pure 0

/-- The network. -/
def iRf69NetworkId (irq : Driver Unit) : Driver ℤ := do
  let b ← tryByte (iRf69ReadReg irq regSyncvalue2)
  pure b.toNat

/-- The frequency, in hertz. -/
def lRf69Frequency (irq : Driver Unit) : Driver ℤ := do
  let msb ← tryByte (iRf69ReadReg irq regFrfmsb)
  let mid ← tryByte (iRf69ReadReg irq regFrfmid)
  let lsb ← tryByte (iRf69ReadReg irq regFrflsb)
  pure ((msb.toNat * 65536 + mid.toNat * 256 + lsb.toNat : ℤ) * 15625 / 256)

/-- Out of Tx and back; in Rx, over Synth. -/
def iRf69SetFrequency (irq : Driver Unit) (freq : ℤ) : Driver ℤ := called do
  let oldMode ← access irq (·.mode)
  whenever (oldMode = .tx) (tryInt (iRf69SetMode irq .rx))
  tryInt (iSetFrequencyRegs irq freq)
  whenever (oldMode = .rx) (tryInt (iRf69SetMode irq .synth))
  iRf69SetMode irq oldMode

/-- The value of `REG_PALEVEL` for high power or without it. -/
def rf69HighPowerLevel (irq : Driver Unit) (bOn : Bool) : Driver UInt8 :=
  if bOn then do
    let b ← tryByte (iRf69ReadReg irq regPalevel)
    pure (b &&& 0x1F ||| rfPalevelPa1On ||| rfPalevelPa2On)
  else do
    let powerLevel ← access irq (·.powerLevel)
    pure (rfPalevelPa0On ||| powerLevel)

/-- The protection, the amplifiers, and the flag. -/
def iRf69SetHighPower (irq : Driver Unit) (bOn : Bool) : Driver ℤ := called do
  tryInt (iRf69WriteReg irq regOcp (if bOn then rfOcpOff else rfOcpOn))
  let palevel ← rf69HighPowerLevel irq bOn
  tryInt (iRf69WriteReg irq regPalevel palevel)
  update irq fun rf => { rf with isRfm69hw := bOn }
  pure 0

/-- With high power a level counts half. -/
def iRf69SetPowerLevel (irq : Driver Unit) (level : ℤ) : Driver ℤ := called do
  let isRfm69hw ← access irq (·.isRfm69hw)
  let level := if isRfm69hw then (min level 31).tdiv 2 else min level 31
  let b ← tryByte (iRf69ReadReg irq regPalevel)
  tryInt (iRf69WriteReg irq regPalevel (b &&& 0xE0 ||| UInt8.ofInt level))
  update irq fun rf => { rf with powerLevel := UInt8.ofInt level }
  pure 0

/-- The level, twice what the register has with high power. -/
def iRf69PowerLevel (irq : Driver Unit) : Driver ℤ := do
  let b ← tryByte (iRf69ReadReg irq regPalevel)
  let isRfm69hw ← access irq (·.isRfm69hw)
  pure (if isRfm69hw then (b &&& 0x1F) * 2 else b &&& 0x1F).toNat

/-- In degrees, or `INT_MAX`. -/
def iRf69Temperature (irq : Driver Unit) (iCalFactor : ℤ) : Driver ℤ := called do
  let _ ← tryIntVal (iRf69SetMode irq .standby) fun _ => intMax
  let _ ← tryIntVal (iRf69WriteReg irq regTemp1 rfTemp1MeasStart) fun _ => intMax
  let turns ← patience
  let _ ← whileAgain turns (tryIntVal (iRf69ReadReg irq regTemp1) fun _ => intMax)
    fun x => UInt8.ofInt x &&& rfTemp1MeasRunning ≠ 0
  let x ← tryIntVal (iRf69ReadReg irq regTemp2) fun _ => intMax
  pure (-x + 20 + rf69TempCal + iCalFactor)

/-- In dBm, or `INT_MAX`. -/
def iRf69Rssi (irq : Driver Unit) (bForceTrigger : Bool) : Driver ℤ := called do
  whenever bForceTrigger do
    let _ ← tryIntVal (iRf69WriteReg irq regRssiconfig rfRssiStart) fun _ => intMax
    let turns ← patience
    let _ ← whileAgain turns (tryByte (iRf69ReadReg irq regRssiconfig))
      fun b => b &&& rfRssiDone = 0
    pure ()
  let b ← tryByte (iRf69ReadReg irq regRssivalue)
  pure (-(b / 2).toNat)

/-- The filter of the address. -/
def iRf69SetPromiscuous (irq : Driver Unit) (bOn : Bool) : Driver ℤ := called do
  let promiscuous ← access irq (·.promiscuous)
  whenever (bOn ≠ promiscuous) do
    let b ← tryByte (iRf69ReadReg irq regPacketconfig1)
    tryInt (iRf69WriteReg irq regPacketconfig1 (b &&& 0xF9 |||
      if bOn then rfPacket1AdrsfilteringOff else rfPacket1AdrsfilteringNodebroadcast))
    update irq fun rf => { rf with promiscuous := bOn }
  pure 0

/-- Two bits for each of the pins; DIO4 is not mapped. -/
def iRf69SetDioMapping (irq : Driver Unit) (dio map : UInt8) : Driver ℤ := called do
  let isOpen ← access irq (·.isOpen)
  if isOpen ∧ 1 ≤ dio ∧ dio ≤ 5 ∧ dio ≠ 4 ∧ map ≤ 3 then do
    -- DIO1 to DIO3 are in the first register, DIO5 in the second
    let reg := if dio < 5 then regDiomapping1 else regDiomapping2
    let i := if dio < 5 then (3 - dio) * 2 else 4
    let b ← tryByte (iRf69ReadReg irq reg)
    tryInt (iRf69WriteReg irq reg (b &&& ~~~((3 : UInt8) <<< i) ||| map <<< i))
    pure 0
  else pure (-1)

/-- Calibrate the RC oscillator. -/
def iRf69RcCalibration (irq : Driver Unit) : Driver ℤ := called do
  tryInt (iRf69WriteReg irq regOsc1 rfOsc1RccalStart)
  let turns ← patience
  let _ ← whileAgain turns (tryByte (iRf69ReadReg irq regOsc1)) fun b => b &&& rfOsc1RccalDone = 0
  pure 0

/-! ### Receiving -/

/-- What was received is forgotten. -/
def iRf69StartReceiving (irq : Driver Unit) : Driver ℤ := called do
  update irq fun rf => { rf with dataLen := 0, hdr := ⟨0, 0, 0, 0⟩, rssi := 0 }
  tryInt (iRf69AvoidRxDeadLocks irq)
  let b ← tryByte (iRf69ReadReg irq regDiomapping1)
  tryInt (iRf69WriteReg irq regDiomapping1 (b ||| rfDiomapping1Dio0_01))
  iRf69SetMode irq .rx

/-- The frame in the header is for this node. -/
def XRf69.accepts (rf : XRf69) : Bool :=
  rf.promiscuous || rf.hdr.dest == rf.nodeId || rf.hdr.dest == rf69BroadcastAddr

/-- The header with the three bytes behind its length. -/
def XRf69.storeHeader (bytes : List UInt8) (rf : XRf69) : XRf69 :=
  { rf with hdr :=
    ⟨rf.hdr.payloadLen, bytes.getD 0 rf.hdr.dest, bytes.getD 1 rf.hdr.sender,
      bytes.getD 2 rf.hdr.ctl⟩ }

/-- `vRf69Isr` from the test of the payload length on; it returns if it takes the frame. -/
def rf69TakeFrame (len : ℤ) : Driver Unit := do
  update quiet fun rf => { rf with hdr := { rf.hdr with payloadLen := UInt8.ofInt len } }
  tryInt (iRf69ReadBlock quiet regFifo (rf69HeaderSize - 1) XRf69.storeHeader)
  let accepts ← access quiet XRf69.accepts
  whenever accepts do
    update quiet fun rf => { rf with dataLen := min rf.hdr.payloadLen 66 - 3 }
    let dataLen ← access quiet (·.dataLen)
    whenever (0 < dataLen) do
      tryInt (iRf69ReadBlock quiet regFifo dataLen.toNat
        fun bytes rf => { rf with data := rf.data.fill bytes })
      whenever (dataLen.toNat < rf69MaxDataLen)
        (update quiet fun rf => { rf with data := rf.data.setIfInBounds dataLen.toNat 0 })
    let hdr ← access quiet (·.hdr)
    note (.received hdr)
    tryInt (iRf69SetMode quiet .rx)
    let rssi ← muted (iRf69Rssi quiet false)
    whenever (rssi ≠ intMax) (update quiet fun rf => { rf with rssi := rssi })
    returns 0

/-- Take the frame that is ready, if the receiver is on, and receive again. -/
def vRf69Isr : Driver Unit := voided do
  let mode ← access quiet (·.mode)
  whenever (mode = .rx) do
    let irqflags ← tryByte (iRf69ReadReg quiet regIrqflags2)
    whenever (irqflags &&& rfIrqflags2Payloadready ≠ 0) do
      tryInt (iRf69SetMode quiet .standby)
      let ret ← muted (iRf69ReadReg quiet regFifo)
      whenever (3 ≤ ret) (rf69TakeFrame ret)
      update quiet fun rf => { rf with hdr := { rf.hdr with payloadLen := 0 } }
      ignored (iRf69StartReceiving quiet)

/-- An interrupt finds a frame of the environment in the FIFO. -/
def interrupt : Driver Unit := do
  let answer ← nextAnswer .frame
  (fun w => (.ok (), { w with chip := { w.chip with rxFifo := answer.frame } }) : Driver Unit)
  muted vRf69Isr

/-- The mutex keeps the interrupt routine out from the first to the last line. -/
def iRf69ReceiveDone (irq lock : Driver Unit) : Driver ℤ := do
  irq
  lock
  let mode ← access quiet (·.mode)
  if mode = .rx then do
    let payloadLen ← access quiet (·.hdr.payloadLen)
    if 0 < payloadLen then do
      let ret ← iRf69SetMode quiet .standby
      pure (if ret = 0 then 1 else ret)
    else pure 0
  else iRf69StartReceiving quiet

/-- What was received is an ACK of the node. -/
def iRf69AckReceived (irq lock : Driver Unit) (fromNodeId : UInt8) : Driver ℤ := do
  let ret ← iRf69ReceiveDone irq lock
  if ret = 1 then do
    let sender ← access irq (·.hdr.sender)
    let ctl ← access irq (·.hdr.ctl)
    pure (if (sender = fromNodeId ∨ fromNodeId = rf69BroadcastAddr) ∧ ctl &&& rf69Ack ≠ 0 then 1
      else 0)
  else pure ret

/-- What was received asks this node for an ACK. -/
def iRf69AckRequested (irq : Driver Unit) : Driver ℤ := do
  let ctl ← access irq (·.hdr.ctl)
  let dest ← access irq (·.hdr.dest)
  pure (if ctl &&& rf69AckReq ≠ 0 ∧ dest ≠ rf69BroadcastAddr then 1 else 0)

/-- Wait for an ACK of the node. -/
def iRf69WaitAckReceived (irq lock : Driver Unit) (fromNodeId : UInt8) (timeout : ℤ) :
    Driver ℤ := do
  let turns ← vRf69TimerStart timeout
  whileRunning turns (iRf69AckReceived irq lock fromNodeId) fun iAckReceived => iAckReceived = 0

/-! ### Sending -/

/-- The channel is free, and nothing was received; the receiver goes off then. -/
def iRf69CanSend (irq : Driver Unit) : Driver ℤ := called do
  let rssi ← iRf69Rssi irq false
  if rssi = intMax then pure (-1)
  else do
    let mode ← access irq (·.mode)
    let payloadLen ← access irq (·.hdr.payloadLen)
    if mode = .rx ∧ payloadLen = 0 ∧ rssi < rf69CsmaMinLevelDbm then do
      tryInt (iRf69SetMode irq .standby)
      pure 1
    else pure 0

/-- Wait until the channel is free, receiving in between. -/
def iRf69WaitToSend (irq lock : Driver Unit) (timeout : ℤ) : Driver ℤ := called do
  let turns ← vRf69TimerStart timeout
  tryInt (iRf69AvoidRxDeadLocks irq)
  let bCanSend ← whileRunning turns (do
      let bCanSend ← tryBool (iRf69CanSend irq)
      whenever (!bCanSend) (tryInt (iRf69ReceiveDone irq lock))
      pure bCanSend)
    fun bCanSend => !bCanSend
  note (.waited bCanSend)
  pure bCanSend.toInt

/-- The bytes of a frame: its length without the first byte, the addresses, the control byte. -/
def rf69Frame (nodeId toAddress : UInt8) (txBuffer : List UInt8) (bSendAck : Bool) : List UInt8 :=
  [UInt8.ofNat ((txBuffer.take rf69MaxDataLen).length + rf69HeaderSize - 1), toAddress, nodeId,
    if bSendAck then rf69Ack else rf69AckReq] ++ txBuffer.take rf69MaxDataLen

/-- Send a frame at once. -/
def iRf69SendFrame (irq : Driver Unit) (toAddress : UInt8) (txBuffer : List UInt8)
    (_bRequestAck bSendAck : Bool) : Driver ℤ := called do
  tryInt (iRf69SetMode irq .standby)
  let bIsOk ← tryBool (iRf69WaitForReady irq 50)
  if bIsOk then do
    let b ← tryByte (iRf69ReadReg irq regDiomapping1)
    tryInt (iRf69WriteReg irq regDiomapping1 (b &&& ~~~rfDiomapping1Dio0_01))
    update irq fun rf =>
      { rf with data := rf.data.fill (rf69Frame rf.nodeId toAddress txBuffer bSendAck) }
    let data ← access irq (·.data)
    tryInt (iRf69WriteBlock irq regFifo
      (data.toList.take (rf69HeaderSize + (txBuffer.take rf69MaxDataLen).length)))
    tryInt (iRf69SetMode irq .tx)
    let bIsOk ← tryBool (iRf69WaitIrq irq rf69TxTimeoutMs)
    tryInt (iRf69SetMode irq .standby)
    pure bIsOk.toInt
  else pure 0

/-- Send a frame when the channel is free. -/
def iRf69Send (irq lock : Driver Unit) (toAddress : UInt8) (txBuffer : List UInt8)
    (bRequestAck : Bool) : Driver ℤ := do
  let ret ← iRf69WaitToSend irq lock rf69CsmaTimeoutMs
  if ret = 1 then iRf69SendFrame irq toAddress txBuffer bRequestAck false else pure ret

/-- Send a frame until it is acknowledged, as often as is asked. -/
def iRf69SendWithRetry (irq lock : Driver Unit) (toAddress : UInt8) (txBuffer : List UInt8)
    (retries : UInt8) (retryWaitTime : ℤ) : Driver ℤ := called do
  whileDo retries.toNat (fun iAckReceived => iAckReceived = 0) (fun _ => do
    let iAckReceived ← tryIntVal (iRf69Send irq lock toAddress txBuffer true) id
    let turns ← vRf69TimerStart retryWaitTime
    whileDo turns (fun iAckReceived => iAckReceived = 0)
      (fun _ => tryIntVal (iRf69AckReceived irq lock toAddress) id) iAckReceived) 0

/-- `iRf69SendAck` between the two lines that save and restore `rssi`. -/
def rf69AnswerSender (irq lock : Driver Unit) (txBuffer : List UInt8) (sender : UInt8) :
    Driver ℤ := do
  let ret ← iRf69WaitToSend irq lock rf69CsmaTimeoutMs
  if ret = 1 then do
    update irq fun rf => { rf with hdr := { rf.hdr with sender := sender } }
    iRf69SendFrame irq sender txBuffer false true
  else pure ret

/-- Answer what was received. -/
def iRf69SendAck (irq lock : Driver Unit) (txBuffer : List UInt8) : Driver ℤ := do
  update irq fun rf => { rf with hdr := { rf.hdr with ctl := rf.hdr.ctl &&& ~~~rf69AckReq } }
  let sender ← access irq (·.hdr.sender)
  let rssi ← access irq (·.rssi)
  let ret ← rf69AnswerSender irq lock txBuffer sender
  update irq fun rf => { rf with rssi := rssi }
  pure ret

/-! ### Opening -/

/-- The bands of the module. -/
inductive ERf69Band where
  | band315Mhz
  | band433Mhz
  | band868Mhz
  | band915Mhz
  | unknown
deriving DecidableEq, Repr

/-- The frequency at which a band is opened, in hertz. -/
def ERf69Band.frf (eBand : ERf69Band) : ℤ :=
  if eBand = band315Mhz then 315000000
  else if eBand = band433Mhz then 433925000
  else if eBand = band868Mhz then 868000000
  else 915000000

/-- Registers and what is written to them; the register 255 ends the table. -/
def xInitConfigPgm : List (UInt8 × UInt8) :=
  [(regOpmode, rfOpmodeStandby), (regDatamodul, 0x00), (regBitratemsb, 0x02),
    (regBitratelsb, 0x40), (regFdevmsb, 0x03), (regFdevlsb, 0x33), (regRxbw, 0x42),
    (regDiomapping1, rfDiomapping1Dio0_01), (regDiomapping2, 0x07), (regIrqflags2, 0x10),
    (regRssithresh, 220), (regSyncconfig, 0x88), (regSyncvalue1, 0x2D), (regPacketconfig1, 0x90),
    (regPayloadlength, 66), (regBroadcastadrs, rf69BroadcastAddr), (regFifothresh, 0x8F),
    (regPacketconfig2, 0x12), (regTestdagc, 0x30), (255, 0)]

/-- 0 at the end of the table. -/
def iRf69WriteConstElmt (irq : Driver Unit) (elmt : UInt8 × UInt8) : Driver ℤ :=
  if elmt.1 ≠ 255 then iRf69WriteReg irq elmt.1 elmt.2 else pure 0

/-- The loop of `iRf69Open` over the table. -/
def rf69WriteConfig (irq : Driver Unit) (elmts : List (UInt8 × UInt8)) : Driver Unit :=
  elmts.foldr (fun elmt later => do
    let ret ← tryIntVal (iRf69WriteConstElmt irq elmt) id
    whenever (ret = 1) later) (pure ())

/-- The sync word is written and read back first, to see that there is a module. -/
def iRf69Open (irq : Driver Unit) (eBand : ERf69Band) (ucNodeId ucNetId : UInt8) : Driver ℤ :=
  called do
    let isOpen ← access irq (·.isOpen)
    whenever (!isOpen) do
      tryInt (iRf69WriteRegWithCheck irq regSyncvalue1 0xAA 50)
      tryInt (iRf69WriteRegWithCheck irq regSyncvalue1 0x55 50)
      rf69WriteConfig irq xInitConfigPgm
      tryInt (iSetFrequencyRegs irq eBand.frf)
      tryInt (iRf69WriteReg irq regSyncvalue2 ucNetId)
      tryInt (iRf69WriteReg irq regNodeadrs ucNodeId)
      tryInt (iRf69SetEncryptKey irq none)
      tryInt (iRf69SetHighPower irq false)
      tryInt (iRf69SetPowerLevel irq rf69DefaultPower)
      tryInt (iRf69SetMode irq .standby)
      tryInt (iRf69SetPromiscuous irq true)
      let ret ← tryIntVal (iRf69WaitForReady irq 50) id
      whenever (ret = 1) do
        update irq fun rf => { rf with nodeId := ucNodeId }
        update irq fun rf => { rf with isOpen := true }
        returns 0
    pure (-1)

/-- The operations of the driver: its functions that reach the module. -/
inductive Rf69Call where
  | iRf69Open (eBand : ERf69Band) (ucNodeId ucNetId : UInt8)
  | iRf69ReceiveDone
  | iRf69SendAck (txBuffer : List UInt8)
  | iRf69CanSend
  | iRf69Send (toAddress : UInt8) (txBuffer : List UInt8) (bRequestAck : Bool)
  | iRf69SendWithRetry (toAddress : UInt8) (txBuffer : List UInt8) (retries : UInt8)
      (retryWaitTime : ℤ)
  | iRf69AckReceived (fromNodeId : UInt8)
  | iRf69WaitAckReceived (fromNodeId : UInt8) (timeout : ℤ)
  | iRf69SetNodeId (ucNodeId : UInt8)
  | iRf69NodeId
  | iRf69SetNetworkId (ucNetId : UInt8)
  | iRf69NetworkId
  | lRf69Frequency
  | iRf69SetFrequency (freq : ℤ)
  | iRf69SetHighPower (bOn : Bool)
  | iRf69SetPowerLevel (level : ℤ)
  | iRf69PowerLevel
  | iRf69Temperature (iCalFactor : ℤ)
  | iRf69Rssi (bForceTrigger : Bool)
  | iRf69SetEncryptKey (key : Option (List UInt8))
  | iRf69isEncrypted
  | iRf69SetPromiscuous (bOn : Bool)
  | iRf69SetDioMapping (dio map : UInt8)
  | iRf69Sleep
  | iRf69RcCalibration
  | iRf69AvoidRxDeadLocks
  | iRf69StartReceiving
  | iRf69WaitForReady (timeout : ℤ)
  | iRf69SetMode (newMode : ERf69Mode)
  | iRf69SendFrame (toAddress : UInt8) (txBuffer : List UInt8) (bRequestAck bSendAck : Bool)
  | iRf69WaitToSend (timeout : ℤ)

/-- An operation, with nothing coming in between. -/
def Rf69Call.run : Rf69Call → Driver ℤ
  | iRf69Open eBand ucNodeId ucNetId => Rf69.iRf69Open quiet eBand ucNodeId ucNetId
  | iRf69ReceiveDone => Rf69.iRf69ReceiveDone quiet quiet
  | iRf69SendAck txBuffer => Rf69.iRf69SendAck quiet quiet txBuffer
  | iRf69CanSend => Rf69.iRf69CanSend quiet
  | iRf69Send toAddress txBuffer bRequestAck =>
      Rf69.iRf69Send quiet quiet toAddress txBuffer bRequestAck
  | iRf69SendWithRetry toAddress txBuffer retries retryWaitTime =>
      Rf69.iRf69SendWithRetry quiet quiet toAddress txBuffer retries retryWaitTime
  | iRf69AckReceived fromNodeId => Rf69.iRf69AckReceived quiet quiet fromNodeId
  | iRf69WaitAckReceived fromNodeId timeout =>
      Rf69.iRf69WaitAckReceived quiet quiet fromNodeId timeout
  | iRf69SetNodeId ucNodeId => Rf69.iRf69SetNodeId quiet ucNodeId
  | iRf69NodeId => Rf69.iRf69NodeId quiet
  | iRf69SetNetworkId ucNetId => Rf69.iRf69SetNetworkId quiet ucNetId
  | iRf69NetworkId => Rf69.iRf69NetworkId quiet
  | lRf69Frequency => Rf69.lRf69Frequency quiet
  | iRf69SetFrequency freq => Rf69.iRf69SetFrequency quiet freq
  | iRf69SetHighPower bOn => Rf69.iRf69SetHighPower quiet bOn
  | iRf69SetPowerLevel level => Rf69.iRf69SetPowerLevel quiet level
  | iRf69PowerLevel => Rf69.iRf69PowerLevel quiet
  | iRf69Temperature iCalFactor => Rf69.iRf69Temperature quiet iCalFactor
  | iRf69Rssi bForceTrigger => Rf69.iRf69Rssi quiet bForceTrigger
  | iRf69SetEncryptKey key => Rf69.iRf69SetEncryptKey quiet key
  | iRf69isEncrypted => Rf69.iRf69isEncrypted quiet
  | iRf69SetPromiscuous bOn => Rf69.iRf69SetPromiscuous quiet bOn
  | iRf69SetDioMapping dio map => Rf69.iRf69SetDioMapping quiet dio map
  | iRf69Sleep => Rf69.iRf69Sleep quiet
  | iRf69RcCalibration => Rf69.iRf69RcCalibration quiet
  | iRf69AvoidRxDeadLocks => Rf69.iRf69AvoidRxDeadLocks quiet
  | iRf69StartReceiving => Rf69.iRf69StartReceiving quiet
  | iRf69WaitForReady timeout => Rf69.iRf69WaitForReady quiet timeout
  | iRf69SetMode newMode => Rf69.iRf69SetMode quiet newMode
  | iRf69SendFrame toAddress txBuffer bRequestAck bSendAck =>
      Rf69.iRf69SendFrame quiet toAddress txBuffer bRequestAck bSendAck
  | iRf69WaitToSend timeout => Rf69.iRf69WaitToSend quiet quiet timeout

/-- The results by which an operation tells that it has failed. -/
def Rf69Call.IsError : Rf69Call → ℤ → Prop
  | iRf69Temperature _, r => r = intMax
  | iRf69Rssi _, r => r = intMax
  | _, r => r < 0

end Sysio.Rf69
