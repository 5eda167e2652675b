import Sysio.Rf69.Rules

/-!
# Rules for the operations

The rules for a judgement on the whole driver: with what holds of `iRf69SetMode`, of the blocks
that are read and written, and of what is stored in the driver's own structure besides its mode,
it holds of every operation and of the interrupt routine.
-/

namespace Sysio.Rf69

open Routine

/-- What is written leaves the mode, and whether the driver is open and has high power. -/
def KeepsMode (write : XRf69 → XRf69) : Prop :=
  ∀ rf, (write rf).mode = rf.mode ∧ (write rf).isOpen = rf.isOpen ∧
    (write rf).isRfm69hw = rf.isRfm69hw

/-- The operations that may switch the receiver or the transmitter on. -/
def Rf69Call.enters : Rf69Call → Bool
  | iRf69ReceiveDone | iRf69SendAck _ | iRf69Send _ _ _ | iRf69AckReceived _
  | iRf69WaitAckReceived _ _ | iRf69StartReceiving | iRf69SendFrame _ _ _ _
  | iRf69WaitToSend _ => true
  | iRf69SendWithRetry _ _ retries _ => retries ≠ 0
  | iRf69SetMode newMode => newMode = .rx ∨ newMode = .tx
  | _ => false

/-- What may come in between, `iRf69SetMode` included. -/
structure Rf69Pauses (Judged : ∀ {α : Type}, (Except Stop α → Prop) → Driver α → Prop)
    (irq : Driver Unit) : Prop where
  judged : Judged Never irq
  setMode : ∀ {newMode : ERf69Mode}, Judged (Reported Negative) (iRf69SetMode irq newMode)

/-- With the blocks and what is stored, the mode being left alone. -/
structure Rf69StoreRules (Judged : ∀ {α : Type}, (Except Stop α → Prop) → Driver α → Prop) :
    Prop extends Rf69Rules Judged where
  block : ∀ {transfer : Rf69Transfer}, (∀ reg data, transfer ≠ .writeReg reg data) →
    Judged Faulty (Sysio.Rf69.transact transfer)
  store : ∀ {write : XRf69 → XRf69}, KeepsMode write →
    Judged Never ((fun w => (.ok (), { w with rf := write w.rf })) : Driver Unit)

/-- What a judgement on every operation has to satisfy besides. -/
structure Rf69DriverRules (Judged : ∀ {α : Type}, (Except Stop α → Prop) → Driver α → Prop) :
    Prop extends Rf69StoreRules Judged where
  setMode : ∀ {newMode : ERf69Mode}, Judged (Reported Negative) (iRf69SetMode quiet newMode)
  note : ∀ {event : Rf69Event}, Judged Never (note event)
  voided : ∀ (failing : Except Stop Unit → Prop) {body : Driver Unit}, Judged failing body →
    Judged (fun _ => True) (voided body)
  arrival : ∀ {frame : List UInt8}, Judged Never
    ((fun w => (.ok (), { w with chip := { w.chip with rxFifo := frame } })) : Driver Unit)
  restoring : ∀ {isError : ℤ → Prop} {m : Driver ℤ} {write : XRf69 → XRf69},
    Judged (Reported isError) m → KeepsMode write →
    Judged (Reported isError) (do
      let r ← m
      update quiet write
      Pure.pure r)

namespace Rf69StoreRules

variable {Judged : ∀ {α : Type}, (Except Stop α → Prop) → Driver α → Prop} {irq : Driver Unit}
  (rules : Rf69StoreRules Judged) (pauses : Judged Never irq)

include rules pauses

theorem update {write : XRf69 → XRf69} (keeps : KeepsMode write) :
    Judged Never (update irq write) := by
  apply rules.after pauses
  intro _
  exact rules.store keeps

theorem writeBlock {reg : UInt8} {data : List UInt8} :
    Judged (Reported Negative) (iRf69WriteBlock irq reg data) := by
  apply rules.after pauses
  intro _
  have block : ∀ reg' data', Rf69Transfer.writeBlock reg data ≠ .writeReg reg' data' := nofun
  apply rules.bind (rules.block block)
  · intro reply
    exact rules.pure
  · rintro reply ⟨r, negative, ended⟩
    cases ended
    exact ⟨.ok r, ⟨r, negative, rfl⟩, rfl⟩
  · rintro stop ⟨r, negative, ended⟩
    cases ended

theorem readBlock {reg : UInt8} {len : ℕ} {write : List UInt8 → XRf69 → XRf69}
    (keeps : ∀ bytes, KeepsMode (write bytes)) :
    Judged (Reported Negative) (iRf69ReadBlock irq reg len write) := by
  apply rules.after pauses
  intro _
  have block : ∀ reg' data', Rf69Transfer.readBlock reg len ≠ .writeReg reg' data' := nofun
  apply rules.bind (rules.block block)
  · intro reply
    apply rules.after
    · apply rules.whenever
      apply rules.after rules.noPause
      intro _
      exact rules.store (keeps reply.2)
    · intro _
      exact rules.pure
  · rintro reply ⟨r, negative, ended⟩
    cases ended
    refine ⟨.ok r, ⟨r, negative, rfl⟩, ?_⟩
    have unread : decide (0 ≤ r) = false := by
      rw [decide_eq_false_iff_not]
      omega
    rw [unread]
    rfl
  · rintro stop ⟨r, negative, ended⟩
    cases ended

theorem setNodeId {ucNodeId : UInt8} :
    Judged (Reported Negative) (iRf69SetNodeId irq ucNodeId) := by
  apply rules.called
  apply rules.step (rules.write pauses (by decide))
  intro _
  apply rules.after (rules.update pauses (by exact fun rf => ⟨rfl, rfl, rfl⟩))
  intro _
  exact rules.pure

theorem setHighPower {bOn : Bool}
    (stores : Judged Never (Sysio.Rf69.update irq fun rf => { rf with isRfm69hw := bOn })) :
    Judged (Reported Negative) (iRf69SetHighPower irq bOn) := by
  apply rules.called
  apply rules.step (rules.write pauses (by decide))
  intro _
  apply rules.after (rules.highPowerLevel pauses)
  intro palevel
  apply rules.step (rules.write pauses (by decide))
  intro _
  apply rules.after stores
  intro _
  exact rules.pure

theorem setPowerLevel {level : ℤ} :
    Judged (Reported Negative) (iRf69SetPowerLevel irq level) := by
  apply rules.called
  apply rules.after (rules.access pauses)
  intro isRfm69hw
  apply rules.after (rules.readByte pauses)
  intro b
  apply rules.step (rules.write pauses (by decide))
  intro _
  apply rules.after (rules.update pauses (by exact fun rf => ⟨rfl, rfl, rfl⟩))
  intro _
  exact rules.pure

theorem setPromiscuous {bOn : Bool} :
    Judged (Reported Negative) (iRf69SetPromiscuous irq bOn) := by
  apply rules.called
  apply rules.after (rules.access pauses)
  intro promiscuous
  apply rules.step
  · apply rules.whenever
    apply rules.after (rules.readByte pauses)
    intro b
    apply rules.next (rules.write pauses (by decide))
    intro _
    exact rules.ofNever (rules.update pauses (by exact fun rf => ⟨rfl, rfl, rfl⟩))
  · intro _
    exact rules.pure

section Standby

variable (standby : Judged (Reported Negative) (iRf69SetMode irq .standby))

include standby

theorem setEncryptKey {key : Option (List UInt8)} :
    Judged (Reported Negative) (iRf69SetEncryptKey irq key) := by
  apply rules.called
  apply rules.step (rules.tryInt standby)
  intro _
  apply rules.step
  · apply rules.whenever
    apply rules.after
    · apply rules.whenever
      exact rules.returns
    · intro _
      exact rules.tryInt (rules.writeBlock pauses)
  · intro _
    apply rules.after (rules.readByte pauses)
    intro b
    apply rules.step (rules.write pauses (by decide))
    intro _
    exact rules.pure

theorem temperature {iCalFactor : ℤ} :
    Judged (Reported IsIntMax) (iRf69Temperature irq iCalFactor) := by
  apply rules.called
  apply rules.step (rules.tryOrMax standby)
  intro _
  apply rules.step (rules.tryOrMax (rules.writeReg pauses (by decide)))
  intro _
  apply rules.after rules.patience
  intro turns
  apply rules.step
  · apply rules.whileAgain (rules.tryOrMax (rules.readReg pauses))
    rintro x ⟨r, isMax, ended⟩
    cases ended
  · intro _
    apply rules.step (rules.tryOrMax (rules.readReg pauses))
    intro x
    exact rules.pure

theorem canSend : Judged (Reported Negative) (iRf69CanSend irq) := by
  apply rules.called
  apply rules.bind (rules.rssi pauses)
  · intro rssi
    by_cases failed : rssi = intMax
    · rw [if_pos failed]
      exact rules.pure
    · rw [if_neg failed]
      apply rules.after (rules.access pauses)
      intro mode
      apply rules.after (rules.access pauses)
      intro payloadLen
      split
      · apply rules.step (rules.tryInt standby)
        intro _
        exact rules.pure
      · exact rules.pure
  · rintro rssi ⟨r, isMax, ended⟩
    cases ended
    refine ⟨.ok (-1), Or.inr ⟨-1, neg_one_lt_zero, rfl⟩, ?_⟩
    exact if_pos isMax
  · rintro stop ⟨r, isMax, ended⟩
    cases ended

end Standby

omit pauses in
/-- The operations that leave the receiver and the transmitter as they are or off. -/
theorem resting {call : Rf69Call} (rests : call.enters = false)
    (setMode : ∀ newMode, newMode ≠ .rx → newMode ≠ .tx →
      Judged (Reported Negative) (iRf69SetMode quiet newMode))
    (opens : ∀ eBand ucNodeId ucNetId, call = .iRf69Open eBand ucNodeId ucNetId →
      Judged (Reported Negative) call.run)
    (sets : ∀ bOn, call = .iRf69SetHighPower bOn → Judged (Reported Negative) call.run)
    (setFrequency : ∀ freq, Judged (Reported Negative) (iRf69SetFrequency quiet freq)) :
    Judged (Reported call.IsError) call.run := by
  have standby := setMode .standby (by decide) (by decide)
  cases call with
  | iRf69Open eBand ucNodeId ucNetId => exact opens eBand ucNodeId ucNetId rfl
  | iRf69CanSend => exact rules.canSend rules.noPause standby
  | iRf69SendWithRetry toAddress txBuffer retries retryWaitTime =>
      have isZero : retries = 0 := not_not.mp (of_decide_eq_false rests)
      subst isZero
      exact rules.called rules.pure
  | iRf69SetNodeId ucNodeId => exact rules.setNodeId rules.noPause
  | iRf69NodeId => exact rules.ofNever (rules.nodeId rules.noPause)
  | iRf69SetNetworkId ucNetId => exact rules.setNetworkId rules.noPause
  | iRf69NetworkId => exact rules.ofNever (rules.networkId rules.noPause)
  | lRf69Frequency => exact rules.ofNever (rules.frequency rules.noPause)
  | iRf69SetFrequency freq => exact setFrequency freq
  | iRf69SetHighPower bOn => exact sets bOn rfl
  | iRf69SetPowerLevel level => exact rules.setPowerLevel rules.noPause
  | iRf69PowerLevel => exact rules.ofNever (rules.powerLevel rules.noPause)
  | iRf69Temperature iCalFactor => exact rules.temperature rules.noPause standby
  | iRf69Rssi bForceTrigger => exact rules.rssi rules.noPause
  | iRf69SetEncryptKey key => exact rules.setEncryptKey rules.noPause standby
  | iRf69isEncrypted => exact rules.ofNever (rules.isEncrypted rules.noPause)
  | iRf69SetPromiscuous bOn => exact rules.setPromiscuous rules.noPause
  | iRf69SetDioMapping dio map => exact rules.setDioMapping rules.noPause
  | iRf69Sleep => exact setMode .sleep (by decide) (by decide)
  | iRf69RcCalibration => exact rules.rcCalibration rules.noPause
  | iRf69AvoidRxDeadLocks => exact rules.avoidRxDeadLocks rules.noPause
  | iRf69WaitForReady timeout => exact rules.ofNever (rules.waitForReady rules.noPause)
  | iRf69SetMode newMode =>
      have isOther := of_decide_eq_false rests
      exact setMode newMode (fun isRx => isOther (.inl isRx)) fun isTx => isOther (.inr isTx)
  | _ => cases rests

end Rf69StoreRules

namespace Rf69DriverRules

variable {Judged : ∀ {α : Type}, (Except Stop α → Prop) → Driver α → Prop}
  {irq lock : Driver Unit}
  (rules : Rf69DriverRules Judged)

include rules

theorem noInterrupt : Rf69Pauses Judged quiet := ⟨rules.noPause, rules.setMode⟩

section Functions

variable (pauses : Rf69Pauses Judged irq)

include pauses

theorem trySetMode {newMode : ERf69Mode} :
    Judged (Early Negative) (tryInt (iRf69SetMode irq newMode)) :=
  rules.tryInt pauses.setMode

theorem setFrequency {freq : ℤ} : Judged (Reported Negative) (iRf69SetFrequency irq freq) := by
  apply rules.called
  apply rules.after (rules.access pauses.judged)
  intro oldMode
  apply rules.step (rules.whenever (rules.trySetMode pauses))
  intro _
  apply rules.step (rules.tryInt (rules.setFrequencyRegs pauses.judged))
  intro _
  apply rules.step (rules.whenever (rules.trySetMode pauses))
  intro _
  exact rules.last pauses.setMode

theorem startReceiving : Judged (Reported Negative) (iRf69StartReceiving irq) := by
  apply rules.called
  apply rules.after (rules.update pauses.judged (by exact fun rf => ⟨rfl, rfl, rfl⟩))
  intro _
  apply rules.step (rules.tryInt (rules.avoidRxDeadLocks pauses.judged))
  intro _
  apply rules.after (rules.readByte pauses.judged)
  intro b
  apply rules.step (rules.write pauses.judged (by decide))
  intro _
  exact rules.last pauses.setMode

theorem sendFrame (bRequestAck : Bool) {toAddress : UInt8} {txBuffer : List UInt8}
    {bSendAck : Bool} :
    Judged (Reported Negative) (iRf69SendFrame irq toAddress txBuffer bRequestAck bSendAck) := by
  apply rules.called
  apply rules.step (rules.trySetMode pauses)
  intro _
  apply rules.after (rules.tryBool (rules.waitForReady pauses.judged))
  intro bIsOk
  by_cases isOk : bIsOk = true
  · rw [if_pos isOk]
    apply rules.after (rules.readByte pauses.judged)
    intro b
    apply rules.step (rules.write pauses.judged (by decide))
    intro _
    apply rules.after (rules.update pauses.judged (by exact fun rf => ⟨rfl, rfl, rfl⟩))
    intro _
    apply rules.after (rules.access pauses.judged)
    intro data
    apply rules.step (rules.tryInt (rules.writeBlock pauses.judged))
    intro _
    apply rules.step (rules.trySetMode pauses)
    intro _
    apply rules.after (rules.tryBool (rules.waitIrq pauses.judged))
    intro bIsOk
    apply rules.step (rules.trySetMode pauses)
    intro _
    exact rules.pure
  · rw [if_neg isOk]
    exact rules.pure

end Functions

theorem quietUpdate {write : XRf69 → XRf69} (keeps : KeepsMode write) :
    Judged Never (Sysio.Rf69.update quiet write) :=
  rules.update rules.noPause keeps

theorem quietRead {len : ℕ} {write : List UInt8 → XRf69 → XRf69}
    (keeps : ∀ bytes, KeepsMode (write bytes)) :
    Judged (Early Negative) (tryInt (iRf69ReadBlock quiet regFifo len write)) :=
  rules.tryInt (rules.readBlock rules.noPause keeps)

theorem takeFrame {len : ℤ} : Judged (Early Negative) (rf69TakeFrame len) := by
  apply rules.after (rules.quietUpdate (by exact fun rf => ⟨rfl, rfl, rfl⟩))
  intro _
  apply rules.next (rules.quietRead (by exact fun bytes rf => ⟨rfl, rfl, rfl⟩))
  intro _
  apply rules.after (rules.access rules.noPause)
  intro accepts
  apply rules.whenever
  apply rules.after (rules.quietUpdate (by exact fun rf => ⟨rfl, rfl, rfl⟩))
  intro _
  apply rules.after (rules.access rules.noPause)
  intro dataLen
  apply rules.next
  · apply rules.whenever
    apply rules.next (rules.quietRead (by exact fun bytes rf => ⟨rfl, rfl, rfl⟩))
    intro _
    exact rules.whenever (rules.ofNever (rules.quietUpdate (by exact fun rf => ⟨rfl, rfl, rfl⟩)))
  · intro _
    apply rules.after (rules.access rules.noPause)
    intro hdr
    apply rules.after rules.note
    intro _
    apply rules.next (rules.trySetMode rules.noInterrupt)
    intro _
    apply rules.after (rules.muted (rules.rssi rules.noPause))
    intro rssi
    apply rules.after (rules.whenever (rules.quietUpdate (by exact fun rf => ⟨rfl, rfl, rfl⟩)))
    intro _
    exact rules.returns

theorem isr : Judged (fun _ => True) vRf69Isr := by
  apply rules.voided (Early Negative)
  apply rules.after (rules.access rules.noPause)
  intro mode
  apply rules.whenever
  apply rules.after (rules.readByte rules.noPause)
  intro irqflags
  apply rules.whenever
  apply rules.next (rules.trySetMode rules.noInterrupt)
  intro _
  apply rules.after (rules.muted (rules.readReg rules.noPause))
  intro ret
  apply rules.next (rules.whenever rules.takeFrame)
  intro _
  apply rules.after (rules.quietUpdate (by exact fun rf => ⟨rfl, rfl, rfl⟩))
  intro _
  exact rules.ofNever (rules.ignored (rules.startReceiving rules.noInterrupt))

theorem interrupt : Judged Never interrupt := by
  apply rules.after rules.nextAnswer
  intro answer
  apply rules.after rules.arrival
  intro _
  exact rules.muted rules.isr

section Sending

variable (pauses : Rf69Pauses Judged irq) (locks : Judged Never lock)

include pauses locks

theorem receiveDone : Judged (Reported Negative) (iRf69ReceiveDone irq lock) := by
  apply rules.after pauses.judged
  intro _
  apply rules.after locks
  intro _
  apply rules.after (rules.access rules.noPause)
  intro mode
  by_cases receives : mode = .rx
  · rw [if_pos receives]
    apply rules.after (rules.access rules.noPause)
    intro payloadLen
    by_cases taken : 0 < payloadLen
    · rw [if_pos taken]
      apply rules.passedOn rules.setMode
      · intro r negative
        rw [if_neg negative.ne]
      · intro ret
        exact rules.pure
    · rw [if_neg taken]
      exact rules.pure
  · rw [if_neg receives]
    exact rules.startReceiving rules.noInterrupt

theorem ackReceived {fromNodeId : UInt8} :
    Judged (Reported Negative) (iRf69AckReceived irq lock fromNodeId) := by
  apply rules.passedOn (rules.receiveDone pauses locks)
  · intro r negative
    have failed : r ≠ 1 := ne_of_lt (lt_trans negative one_pos)
    exact if_neg failed
  · intro ret
    by_cases done : ret = 1
    · rw [if_pos done]
      apply rules.after (rules.access pauses.judged)
      intro sender
      apply rules.after (rules.access pauses.judged)
      intro ctl
      exact rules.pure
    · rw [if_neg done]
      exact rules.pure

theorem waitAckReceived {fromNodeId : UInt8} {timeout : ℤ} :
    Judged (Reported Negative) (iRf69WaitAckReceived irq lock fromNodeId timeout) := by
  apply rules.after rules.timer
  intro turns
  apply rules.whileRunning (rules.ackReceived pauses locks)
  rintro ret ⟨r, negative, ended⟩
  cases ended
  rw [decide_eq_false_iff_not]
  exact negative.ne

theorem waitToSend {timeout : ℤ} :
    Judged (Reported Negative) (iRf69WaitToSend irq lock timeout) := by
  apply rules.called
  apply rules.after rules.timer
  intro turns
  apply rules.step (rules.tryInt (rules.avoidRxDeadLocks pauses.judged))
  intro _
  apply rules.step
  · apply rules.whileRunning
    · apply rules.after (rules.tryBool (rules.canSend pauses.judged pauses.setMode))
      intro bCanSend
      apply rules.next (rules.whenever (rules.tryInt (rules.receiveDone pauses locks)))
      intro _
      exact rules.pure
    · rintro bCanSend ⟨r, negative, ended⟩
      cases ended
  · intro bCanSend
    apply rules.after rules.note
    intro _
    exact rules.pure

theorem send {toAddress : UInt8} {txBuffer : List UInt8} {bRequestAck : Bool} :
    Judged (Reported Negative) (iRf69Send irq lock toAddress txBuffer bRequestAck) := by
  apply rules.passedOn (rules.waitToSend pauses locks)
  · intro r negative
    have failed : r ≠ 1 := ne_of_lt (lt_trans negative one_pos)
    exact if_neg failed
  · intro ret
    by_cases free : ret = 1
    · rw [if_pos free]
      exact rules.sendFrame pauses bRequestAck
    · rw [if_neg free]
      exact rules.pure

theorem sendWithRetry {toAddress : UInt8} {txBuffer : List UInt8} {retries : UInt8}
    {retryWaitTime : ℤ} : Judged (Reported Negative)
      (iRf69SendWithRetry irq lock toAddress txBuffer retries retryWaitTime) := by
  apply rules.called
  apply rules.weaken
  · apply rules.whileDo
    intro _
    have sent : Judged (Early Negative)
        (tryIntVal (iRf69Send irq lock toAddress txBuffer true) id) :=
      rules.tryIntVal (rules.send pauses locks) fun r negative => negative
    apply rules.next sent
    intro iAckReceived
    apply rules.after rules.timer
    intro turns
    apply rules.whileDo
    intro _
    exact rules.tryIntVal (rules.ackReceived pauses locks) fun r negative => negative
  · intro outcome early
    exact Or.inl early

end Sending

theorem openOf (pauses : Rf69Pauses Judged irq)
    (writes : ∀ reg data, Judged Faulty (Sysio.Rf69.transact (.writeReg reg data)))
    (stores : ∀ write, Judged Never (Sysio.Rf69.update irq write))
    {eBand : ERf69Band} {ucNodeId ucNetId : UInt8} :
    Judged (Reported Negative) (iRf69Open irq eBand ucNodeId ucNetId) := by
  apply rules.called
  apply rules.after (rules.access pauses.judged)
  intro isOpen
  apply rules.step
  · apply rules.whenever
    apply rules.next (rules.tryInt (rules.writeRegWithCheck pauses.judged (writes _ _)))
    intro _
    apply rules.next (rules.tryInt (rules.writeRegWithCheck pauses.judged (writes _ _)))
    intro _
    apply rules.next (rules.writeConfig pauses.judged writes)
    intro _
    apply rules.next (rules.tryInt (rules.setFrequencyRegs pauses.judged))
    intro _
    apply rules.next (rules.write pauses.judged (by decide))
    intro _
    apply rules.next (rules.write pauses.judged (by decide))
    intro _
    apply rules.next (rules.tryInt (rules.setEncryptKey pauses.judged pauses.setMode))
    intro _
    apply rules.next (rules.tryInt (rules.setHighPower pauses.judged (stores _)))
    intro _
    apply rules.next (rules.tryInt (rules.setPowerLevel pauses.judged))
    intro _
    apply rules.next (rules.trySetMode pauses)
    intro _
    apply rules.next (rules.tryInt (rules.setPromiscuous pauses.judged))
    intro _
    apply rules.next (rules.tryIntVal (rules.ofNever (rules.waitForReady pauses.judged)) ?_)
    · intro ret
      apply rules.whenever
      apply rules.after (stores _)
      intro _
      apply rules.after (stores _)
      intro _
      exact rules.returns
    · intro r negative
      exact negative
  · intro _
    exact rules.pure

theorem answerSender {txBuffer : List UInt8} {sender : UInt8} :
    Judged (Reported Negative) (rf69AnswerSender quiet quiet txBuffer sender) := by
  apply rules.passedOn (rules.waitToSend rules.noInterrupt rules.noPause)
  · intro r negative
    have failed : r ≠ 1 := ne_of_lt (lt_trans negative one_pos)
    exact if_neg failed
  · intro ret
    by_cases free : ret = 1
    · rw [if_pos free]
      apply rules.after (rules.quietUpdate (by exact fun rf => ⟨rfl, rfl, rfl⟩))
      intro _
      exact rules.sendFrame rules.noInterrupt false
    · rw [if_neg free]
      exact rules.pure

theorem sendAck {txBuffer : List UInt8} :
    Judged (Reported Negative) (iRf69SendAck quiet quiet txBuffer) := by
  apply rules.after (rules.quietUpdate (by exact fun rf => ⟨rfl, rfl, rfl⟩))
  intro _
  apply rules.after (rules.access rules.noPause)
  intro sender
  apply rules.after (rules.access rules.noPause)
  intro rssi
  apply rules.restoring rules.answerSender
  exact fun rf => ⟨rfl, rfl, rfl⟩

/-- Every operation; the driver is opened and its amplifier set by other rules. -/
theorem call {call : Rf69Call}
    (opens : ∀ eBand ucNodeId ucNetId, call = .iRf69Open eBand ucNodeId ucNetId →
      Judged (Reported Negative) call.run)
    (sets : ∀ bOn, call = .iRf69SetHighPower bOn → Judged (Reported Negative) call.run) :
    Judged (Reported call.IsError) call.run := by
  have quiet := rules.noInterrupt
  cases rests : call.enters with
  | false =>
      apply rules.resting rests (fun _ _ _ => rules.setMode) opens sets
      intro freq
      exact rules.setFrequency quiet
  | true =>
      cases call with
      | iRf69ReceiveDone => exact rules.receiveDone quiet rules.noPause
      | iRf69SendAck txBuffer => exact rules.sendAck
      | iRf69Send toAddress txBuffer bRequestAck => exact rules.send quiet rules.noPause
      | iRf69SendWithRetry toAddress txBuffer retries retryWaitTime =>
          exact rules.sendWithRetry quiet rules.noPause
      | iRf69AckReceived fromNodeId => exact rules.ackReceived quiet rules.noPause
      | iRf69WaitAckReceived fromNodeId timeout => exact rules.waitAckReceived quiet rules.noPause
      | iRf69StartReceiving => exact rules.startReceiving quiet
      | iRf69SetMode newMode => exact rules.setMode
      | iRf69SendFrame toAddress txBuffer bRequestAck bSendAck =>
          exact rules.sendFrame quiet bRequestAck
      | iRf69WaitToSend timeout => exact rules.waitToSend quiet rules.noPause
      | _ => cases rests

end Rf69DriverRules

end Sysio.Rf69
