import Sysio.Rf69.Frames
import Sysio.Rf69.Listening

/-!
# Sending with retries

`iRf69SendWithRetry` keeps the result of `iRf69Send` in the variable that tells whether the packet
has been acknowledged. It returns 1 as soon as one transmission is signalled as complete; only after
one that is not does it look for an acknowledgement, and try again if there is none. A module that
is not ready uses up an attempt without a transmission, and a mode that is set while the poll thread
is in the interrupt routine does not keep this from receiving.
-/

namespace Sysio.Rf69

open Routine

/-- An acknowledgement has been received since the last transmission of the packet. -/
def AckedLast (toAddress : UInt8) (events : List Rf69Event) : Prop :=
  ∃ before hdr after, events = before ++ .received hdr :: after ∧ hdr.IsAckFrom toAddress ∧
    before.any Rf69Event.isSent = true ∧ after.any Rf69Event.isSent = false

/-- The channel has been waited for so many times, and the packet sent whenever it became free. -/
structure Transmitted (packet : List UInt8) (retries : ℕ) (events : List Rf69Event) : Prop where
  waits : events.countP Rf69Event.isWaited = retries
  sends : events.countP Rf69Event.isSent = events.count (.waited true)
  packets : ∀ packet', .sent packet' ∈ events → packet' = packet

/-- What is expected of the result and of what is recorded: true only if the packet has been
acknowledged, an error only if a transfer has failed, otherwise false, with all attempts made. -/
def RetryRight (toAddress : UInt8) (packet : List UInt8) (retries : ℕ)
    (ran : Except Stop ℤ × Rf69World) : Prop :=
  ∃ r, ran.1 = .ok r ∧ (0 < r → AckedLast toAddress ran.2.events) ∧
    ((∀ entry ∈ ran.2.spi, entry.failed = false) → 0 ≤ r) ∧
    (0 ≤ r → ¬AckedLast toAddress ran.2.events →
      r = 0 ∧ Transmitted packet retries ran.2.events)

/-- Nothing has been recorded yet. -/
def Rf69World.unheard (w : Rf69World) : Rf69World :=
  { w with
    spi := []
    events := []
    asks := []
    collided := false }

/-- The packet is in the FIFO. -/
def Loaded (packet : List UInt8) : Rf69Known := fun v => v.txFifo = packet

/-- The last that the environment has been asked for is a look at a module that is not ready. -/
def GivesUp (w : Rf69World) : Prop := ∃ asks ask, w.asks = asks ++ [ask] ∧ LooksUnready ask

variable {tally : Rf69Tally} {known : Rf69Known} {w : Rf69World} {toAddress : UInt8}
  {txBuffer : List UInt8} {early : Stop → Rf69World → Prop}
  {got : XRf69Header → List XRf69Header → Prop}

theorem Listening.anything (listening : Listening tally got w) : Listening tally Anything w :=
  listening.weaken fun _ _ _ => trivial

/-- An idle poll thread listens. -/
theorem Attempting.rested (attempting : Attempting tally known w)
    (rests : ∀ v, known v → Resting v) : Listening tally got w :=
  (attempting.weaken fun v isKnown => (rests v isKnown).pending).listening

/-! ### Waiting for the channel -/

/-- A wait that ends begins an attempt. -/
theorem Listening.waited (listening : Listening tally.settled got w) (free : Bool) :
    Listening (tally.waited free) got { w with events := w.events ++ [.waited free] } := by
  intro fair
  rcases listening ⟨fair.low, fair.patient, fair.apart⟩ with ⟨isNode, counts, harmless, leads⟩
  have view : Rf69World.view { w with events := w.events ++ [.waited free] } = w.view :=
    congrArg (Rf69View.mk w.rf w.chip.txFifo) (heard_append w.events (.waited free))
  refine ⟨isNode, counts.waited free, harmless, ?_⟩
  rw [view]
  exact leads

theorem listening_access {α : Type} {read : XRf69 → α}
    (fresh : ∀ hdr heard, hdr ∈ heard → got hdr heard) :
    Finishes (Listening tally got) (access pollThread read) fun _ => Listening tally got :=
  ensures_access (listening_pollThread fresh) fun _ => id

/-- The look at the channel leaves the attempts alone. -/
theorem listening_canSend :
    Finishes (Listening tally Anything) (iRf69CanSend pollThread)
      fun _ => Listening tally Anything := by
  have fresh : ∀ hdr heard, hdr ∈ heard → Anything hdr heard := fun _ _ _ => trivial
  have frame := @listening_frame tally Anything
  apply finishes_called
  apply ensures_bind _ (frame.rssi (listening_pollThread fresh)).ensures
  intro rssi
  by_cases failed : rssi = intMax
  · rw [if_pos failed]
    exact ensures_pure fun _ => id
  · rw [if_neg failed]
    apply ensures_bind _ (listening_access fresh).ensures
    intro mode
    apply ensures_bind _ (listening_access fresh).ensures
    intro payloadLen
    split
    · apply ensures_bind fun _ => Listening tally Anything
      · apply (listening_change fresh).trySetMode.weaken (fun _ => id)
        · exact fun _ _ standing => standing.rested fun _ => Standing.resting
        · rintro stop w ⟨r, isReturn, negative, listening, -⟩
          exact ⟨r, isReturn, listening⟩
      · intro _
        exact ensures_pure fun _ => id
    · exact ensures_pure fun _ => id

/-- A turn that does not find the channel free leaves the receiver on, or takes what is there. -/
theorem listening_tryChannel :
    Ensures (Listening tally Anything) (do
        let bCanSend ← tryBool (iRf69CanSend pollThread)
        whenever (!bCanSend) (tryInt (iRf69ReceiveDone pollThread lockRcvMutex))
        pure bCanSend)
      (fun bCanSend w => Listening tally Anything w ∧
        (bCanSend = false → Listening tally Fresh w)) Fails := by
  apply ensures_bind _ (listening_frame.tryBool listening_canSend)
  intro bCanSend
  apply ensures_bind fun _ w => Listening tally Anything w ∧
    (bCanSend = false → Listening tally Fresh w)
  · cases bCanSend with
    | true => exact ensures_pure fun _ listening => ⟨listening, nofun⟩
    | false =>
        apply ensures_tryInt _ (listening_receiveDone fun _ _ _ => trivial).ensures
        · rintro r w (⟨negative, -⟩ | ⟨-, listening⟩ | ⟨-, caught⟩) positive
          · omega
          · exact ⟨listening.anything, fun _ => listening⟩
          · have listening : Listening tally Fresh w := caught.rested fun _ => And.left
            exact ⟨listening.anything, fun _ => listening⟩
        · rintro r w (⟨negative, hasFailed⟩ | ⟨isZero, -⟩ | ⟨isOne, -⟩) isNegative
          · exact ⟨r, rfl, negative, hasFailed⟩
          · omega
          · omega
  · intro _
    exact ensures_pure fun _ => id

/-- A wait ends with the channel free, or not, or because a transfer fails. -/
theorem listening_waitToSend {timeout : ℤ} :
    Finishes (Listening tally.settled Anything) (iRf69WaitToSend pollThread lockRcvMutex timeout)
      (Results (Listening (tally.waited false) Fresh)
        (Listening (tally.waited true) Anything)) := by
  have frame := @listening_frame tally.settled Anything
  apply finishes_failing _ fun _ _ negative hasFailed => .inl ⟨negative, hasFailed⟩
  apply ensures_bind _ frame.timer.ensures
  intro turns
  apply ensures_bind _ (frame.avoidRxDeadLocks (listening_pollThread fun _ _ _ => trivial))
  intro _
  apply ensures_bind fun bCanSend w => Listening tally.settled Anything w ∧
    (bCanSend = false → Listening tally.settled Fresh w)
  · apply ensures_whileRunning
    apply listening_tryChannel.weaken (fun _ => id) _ fun _ _ => id
    exact fun _ _ reached => ⟨reached, fun _ => reached.1⟩
  · intro bCanSend
    apply ensures_bind fun _ =>
      Results (Listening (tally.waited false) Fresh) (Listening (tally.waited true) Anything)
        bCanSend.toInt
    · apply ensures_note
      rintro w ⟨listening, taken⟩
      cases bCanSend with
      | true => exact .inr (.inr ⟨rfl, listening.waited true⟩)
      | false => exact .inr (.inl ⟨rfl, (taken rfl).waited false⟩)
    · intro _
      exact ensures_pure fun _ => id

/-! ### One transmission -/

/-- The last that the environment has been asked for are the flags of the module. -/
def Looked (b : UInt8) (w : Rf69World) : Prop :=
  ∃ asks answer, w.asks = asks ++ [(.transfer (.readReg regIrqflags1), answer)] ∧ answer.byte = b

theorem Attempting.unmuted {flag : Bool} (attempting : Attempting tally known w) :
    Attempting tally known { w with muted := flag } := attempting_frame.muted w flag attempting

/-- A look at the module is among what has been asked. -/
theorem attempting_look (pauses : Finishes (Attempting tally known) pollThread
      fun _ => Attempting tally known) :
    Finishes (Attempting tally known) (tryByte (iRf69ReadReg pollThread regIrqflags1))
      fun b w => Attempting tally known w ∧ Looked b w := by
  have reads : Finishes (Attempting tally known) (iRf69ReadReg pollThread regIrqflags1)
      fun r w => Attempting tally known w ∧ Looked (UInt8.ofInt r) w := by
    apply ensures_bind _ pauses
    intro _
    apply ensures_bind fun reply w => Attempting tally known w ∧ Looked (UInt8.ofInt reply.1) w
    · apply ensures_transact
      · intro w attempting failed
        refine ⟨attempting.asked _, w.asks, w.env w.clock, rfl, ?_⟩
        rw [Rf69Answer.byte, if_pos failed]
      · intro w attempting served
        refine ⟨attempting_frame.serves w _ trivial served attempting, w.asks, w.env w.clock, rfl,
          ?_⟩
        rw [Rf69Answer.byte, if_neg served]
        rfl
    · intro reply
      exact ensures_pure fun _ => id
  apply ensures_bind fun r w => Attempting tally known w ∧ Looked (UInt8.ofInt r) w
  · apply finishes_muted _ reads
    · exact fun r w flag reached => ⟨reached.1.unmuted, reached.2⟩
    · exact fun w attempting => attempting.unmuted
  · intro r
    exact ensures_pure fun _ => id

/-- The module has become ready, or has been given up. -/
theorem attempting_waitForReady {timeout : ℤ} (pauses : Finishes (Attempting tally known) pollThread
      fun _ => Attempting tally known) :
    Finishes (Attempting tally known) (iRf69WaitForReady pollThread timeout)
      fun r w => Attempting tally known w ∧ (r = 0 → GivesUp w) := by
  apply ensures_bind _ attempting_frame.timer
  intro turns
  apply ensures_bind fun b w => Attempting tally known w ∧ Looked b w
  · apply ensures_whileRunning
    apply (attempting_look pauses).weaken (fun _ => id) _ fun _ _ => id
    exact fun _ _ reached => ⟨reached, fun _ => reached.1⟩
  · intro b
    apply ensures_pure
    rintro w ⟨attempting, asks, answer, isAsks, isByte⟩
    refine ⟨attempting, fun isZero => ⟨asks, _, isAsks, rfl, ?_⟩⟩
    rw [isByte]
    by_contra ready
    rw [if_pos ready] at isZero
    exact absurd isZero one_ne_zero

theorem attempting_tryWaitForReady {timeout : ℤ}
    (pauses : Finishes (Attempting tally known) pollThread fun _ => Attempting tally known) :
    Finishes (Attempting tally known) (tryBool (iRf69WaitForReady pollThread timeout))
      fun bIsOk w => Attempting tally known w ∧ (bIsOk = false → GivesUp w) := by
  apply ensures_bind fun r w => Attempting tally known w ∧ (r = 0 → GivesUp w)
  · apply finishes_muted (fun _ => Attempting.unmuted) (attempting_waitForReady pauses)
    exact fun _ _ _ reached => ⟨reached.1.unmuted, reached.2⟩
  · intro r
    apply ensures_pure
    exact fun w reached => ⟨reached.1, fun isZero => reached.2 (by simpa using isZero)⟩

/-- The frame of the attempt is in the FIFO. -/
theorem attempting_writeBlock {data : List UInt8} :
    Ensures (Attempting tally (Both Standing fun _ => data = tally.packet))
      (tryInt (iRf69WriteBlock pollThread regFifo data))
      (fun _ => Attempting tally (Both Standing (Loaded tally.packet))) Fails := by
  have writes : Finishes (Attempting tally (Both Standing fun _ => data = tally.packet))
      (iRf69WriteBlock pollThread regFifo data)
      fun r w => (r < 0 ∧ w.HasFailed) ∨
        (0 ≤ r ∧ Attempting tally (Both Standing (Loaded tally.packet)) w) := by
    apply ensures_bind _ (attempting_pollThread fun _ both => both.1.resting)
    intro _
    apply ensures_bind fun reply w => (reply.1 < 0 ∧ w.HasFailed) ∨
      (0 ≤ reply.1 ∧ Attempting tally (Both Standing (Loaded tally.packet)) w)
    · apply ensures_transact
      · exact fun w _ failed => .inl ⟨failed, hasFailed_asked failed⟩
      · refine fun w attempting _ => .inr ⟨Int.natCast_nonneg _, fun fair => ?_⟩
        rcases attempting fair.served with ⟨isNode, counts, idle, standing, isPacket⟩
        refine ⟨isNode, ?_, idle, standing, isPacket⟩
        rw [events_served rfl]
        exact counts
    · intro reply
      exact ensures_pure fun _ => id
  apply ensures_tryInt _ writes.ensures
  · rintro r w (⟨negative, -⟩ | ⟨-, attempting⟩) nonneg
    · omega
    · exact attempting
  · rintro r w (⟨negative, hasFailed⟩ | ⟨nonneg, -⟩) isNegative
    · exact ⟨r, rfl, negative, hasFailed⟩
    · omega

/-- The packet is sent when the register of the operating mode is written. -/
theorem attempting_transmit (owes : tally.owed = 1) :
    Ensures (Attempting tally (Both Standing (Loaded tally.packet)))
      (tryInt (iRf69SetMode pollThread .tx)) (fun _ => Attempting tally.settled Resting) Fails := by
  have changes : Rf69ModeChange pollThread .tx
      (Attempting tally (Both Standing (Loaded tally.packet)))
      (Attempting tally.settled Resting) (Attempting tally.settled Resting)
      (Attempting tally.settled Resting) Rf69World.HasFailed :=
    { frame := attempting_frame
      frameSwitched := attempting_frame
      pauses := attempting_pollThread fun _ both => both.1.resting
      pausesSwitched := attempting_pollThread fun _ => id
      opmodeFails := fun _ _ failed _ => hasFailed_asked failed
      opmodeServed := by
        intro w b attempting fair
        rcases attempting fair.served with ⟨isNode, counts, idle, standing, loaded⟩
        have isLoaded : w.chip.txFifo = tally.packet := loaded
        have transmits : w.chip.transmits
            (.writeReg regOpmode (b &&& 0xE3 ||| ERf69Mode.tx.opmode)) = [.sent tally.packet] := by
          rw [← isLoaded]
          exact if_pos ⟨rfl, opmode_bits b .tx⟩
        refine ⟨isNode, ?_, idle, standing.resting⟩
        change tally.settled.Counts (w.events ++ w.chip.transmits _)
        rw [transmits]
        exact counts.sent owes
      testpaFails := fun _ _ _ _ failed _ => hasFailed_asked failed
      testpaServed := by
        intro w reg data isTestpa attempting
        refine attempting.served (after_txFifo nofun) (transmits_of_other ?_)
        rcases isTestpa with rfl | rfl <;> decide
      stores := by
        intro w attempting fair
        rcases attempting ⟨fair.low, fair.patient, fair.apart⟩ with ⟨isNode, counts, idle, -⟩
        exact ⟨isNode, counts, idle, nofun⟩
      skips := by
        intro w attempting isTx fair
        have standing : w.rf.mode = .standby := (attempting fair).known.1
        rw [standing] at isTx
        cases isTx
      notes := by
        intro w attempting fair
        rcases attempting fair.noted.1 with ⟨isNode, counts, idle, isKnown⟩
        exact ⟨isNode, counts, idle, isKnown⟩ }
  exact changes.trySetMode

/-- The bytes of the frame are the first of the buffer once they have been filled in. -/
def Filled (packet : List UInt8) : Rf69Known := fun v =>
  v.rf.data.toList.take packet.length = packet

/-- The frame of the attempt is in the structure. -/
theorem attempting_fill
    (isPacket : tally.packet = rf69Frame tally.nodeId toAddress txBuffer false) :
    Ensures (Attempting tally Standing)
      (update pollThread fun rf =>
        { rf with data := rf.data.fill (rf69Frame rf.nodeId toAddress txBuffer false) })
      (fun _ => Attempting tally (Both Standing (Filled tally.packet))) early := by
  have room : tally.packet.length ≤ rfFifoSize := by
    rw [isPacket, rf69Frame_length, List.length_take]
    have least := Nat.min_le_left rf69MaxDataLen txBuffer.length
    exact Nat.le_trans (Nat.add_le_add_left least _) (by decide)
  apply attempting_update
  · exact attempting_pollThread fun _ => Standing.resting
  · exact fun _ => rfl
  · intro v isNode standing
    have written : rf69Frame v.rf.nodeId toAddress txBuffer false = tally.packet := by
      rw [isNode, isPacket]
    have isStandby : v.rf.mode = .standby := standing
    refine ⟨isStandby, ?_⟩
    change (v.rf.data.fill (rf69Frame v.rf.nodeId toAddress txBuffer false)).toList.take
      tally.packet.length = tally.packet
    rw [written]
    exact Vector.take_fill v.rf.data room

theorem attempting_tryLow {call : Driver ℤ}
    (calls : Finishes (Attempting tally Resting) call
      fun r => Attempting tally (Both Resting fun _ => r = 0)) :
    Finishes (Attempting tally Resting) (tryBool call)
      fun b => Attempting tally (Both Resting fun _ => b = false) := by
  apply ensures_bind fun r => Attempting tally (Both Resting fun _ => r = 0)
  · exact finishes_muted (fun _ => Attempting.unmuted) calls fun _ _ _ => Attempting.unmuted
  · intro r
    apply ensures_pure
    intro w attempting
    apply attempting.weaken
    rintro v ⟨resting, rfl⟩
    exact ⟨resting, rfl⟩

/-- The pin is not found high. -/
theorem attempting_waitIrq {timeout : ℤ} :
    Finishes (Attempting tally Resting) (iRf69WaitIrq pollThread timeout)
      fun r => Attempting tally (Both Resting fun _ => r = 0) := by
  have reads : Finishes (Attempting tally Resting) (iRf69ReadIrqPin pollThread)
      fun r => Attempting tally (Both Resting fun _ => r = 0) := by
    apply ensures_bind _ (attempting_pollThread fun _ => id)
    intro _
    apply ensures_bind fun answer => Attempting tally (Both Resting fun _ => answer.pin = 0)
    · apply ensures_nextAnswer
      intro w attempting fair
      rcases attempting fair.answered with ⟨isNode, counts, idle, resting⟩
      have low := fair.low (.pin, w.env w.clock)
        (List.mem_append_right _ (List.mem_singleton_self _)) rfl
      exact ⟨isNode, counts, idle, resting, low⟩
    · intro answer
      exact ensures_pure fun _ => id
  apply ensures_bind _ attempting_frame.timer
  intro turns
  apply ensures_bind fun bIrqHigh => Attempting tally (Both Resting fun _ => bIrqHigh = false)
  · apply ensures_whileRunning
    apply (attempting_tryLow reads).weaken (fun _ => id) _ fun _ _ => id
    exact fun _ _ attempting => ⟨attempting, fun _ => attempting.weaken fun _ => And.left⟩
  · intro bIrqHigh
    apply ensures_pure
    intro w attempting
    apply attempting.weaken
    rintro v ⟨resting, rfl⟩
    exact ⟨resting, rfl⟩

/-- What is left behind by a transmission that returns 0: either the module has not been ready, or
the packet has been sent. -/
def Unanswered (tally : Rf69Tally) (w : Rf69World) : Prop := GivesUp w ∨ Listening tally Fresh w

/-- The frame of the attempt is sent once. -/
theorem listening_sendFrame {bRequestAck : Bool} (owes : tally.owed = 1)
    (isPacket : tally.packet = rf69Frame tally.nodeId toAddress txBuffer false) :
    Finishes (Listening tally Anything)
      (iRf69SendFrame pollThread toAddress txBuffer bRequestAck false)
      (Results (Unanswered tally.settled) fun w => ¬Fair w) := by
  have pauses := @attempting_pollThread tally Standing fun _ => Standing.resting
  have frame := @attempting_frame tally Standing
  apply finishes_failing _ fun _ _ negative hasFailed => .inl ⟨negative, hasFailed⟩
  apply ensures_bind _ (listening_trySetMode fun _ _ _ => trivial)
  intro _
  apply ensures_bind _ (attempting_tryWaitForReady pauses).ensures
  intro bIsOk
  by_cases isOk : bIsOk = true
  · rw [if_pos isOk]
    apply ensures_bind _ ((frame.readByte pauses).ensures.weaken (fun _ => And.left)
      (fun _ _ => id) fun _ _ => id)
    intro b
    apply ensures_bind _ (frame.tryWriteReg pauses (by decide))
    intro _
    apply ensures_bind _ (attempting_fill isPacket)
    intro _
    apply ensures_bind _
      (attempting_access (attempting_pollThread fun _ both => both.1.resting))
    intro data
    apply ensures_bind fun _ => Attempting tally (Both Standing (Loaded tally.packet))
    · apply attempting_writeBlock.weaken _ (fun _ _ => id) fun _ _ => id
      intro w attempting
      apply attempting.weaken
      rintro v ⟨⟨standing, filled⟩, rfl⟩
      refine ⟨standing, ?_⟩
      rw [← @rf69Frame_length tally.nodeId, ← isPacket]
      exact filled
    · intro _
      apply ensures_bind _ (attempting_transmit owes)
      intro _
      apply ensures_bind fun bIsOk =>
        Attempting tally.settled (Both Resting fun _ => bIsOk = false)
      · exact (attempting_tryLow attempting_waitIrq).ensures
      · intro bIsOk
        apply ensures_bind fun _ =>
          Attempting tally.settled (Both Standing fun _ => bIsOk = false)
        · apply attempting_trySetMode (by decide) (attempting_pollThread fun _ => And.left)
          exact fun _ both => ⟨rfl, both.2⟩
        · intro _
          apply ensures_pure
          intro w attempting
          cases bIsOk with
          | true =>
              exact .inr (.inr ⟨rfl, fun fair => nomatch (attempting fair).known.2⟩)
          | false =>
              exact .inr (.inl ⟨rfl, .inr (attempting.rested fun _ both => both.1.resting)⟩)
  · rw [if_neg isOk]
    apply ensures_pure
    rintro w ⟨-, givesUp⟩
    exact .inr (.inl ⟨rfl, .inl (givesUp (Bool.eq_false_of_not_eq_true isOk))⟩)

/-- A result that is not 0 for lack of a free channel is that of the transmission. -/
theorem listening_send {bRequestAck : Bool}
    (isPacket : tally.packet = rf69Frame tally.nodeId toAddress txBuffer false) :
    Finishes (Listening tally.settled Anything)
      (iRf69Send pollThread lockRcvMutex toAddress txBuffer bRequestAck)
      (Results (Unanswered (tally.waited false)) fun w => ¬Fair w) := by
  apply ensures_bind _ listening_waitToSend
  intro ret
  by_cases free : ret = 1
  · rw [if_pos free]
    have owing : ∀ w, Results (Listening (tally.waited false) Fresh)
        (Listening (tally.waited true) Anything) ret w →
        Listening (tally.waited true) Anything w := by
      rintro w (⟨negative, -⟩ | ⟨isZero, -⟩ | ⟨-, listening⟩)
      · omega
      · omega
      · exact listening
    apply Ensures.weaken _ owing (fun _ _ => id) fun _ _ => id
    exact listening_sendFrame rfl isPacket
  · rw [if_neg free]
    apply ensures_pure
    rintro w (error | ⟨isZero, listening⟩ | ⟨isFree, -⟩)
    · exact .inl error
    · exact .inr (.inl ⟨isZero, .inr listening⟩)
    · exact absurd isFree free

/-! ### The two loops -/

/-- What both loops keep of the variable `iAckReceived`, given what holds while it is 0. -/
def Retrying (unanswered : Rf69World → Prop) (toAddress : UInt8) (iAckReceived : ℤ)
    (w : Rf69World) : Prop :=
  (iAckReceived = 0 ∧ unanswered w) ∨ (iAckReceived = 1 ∧ Acked toAddress w)

section Loops

variable {unanswered unanswered' : Rf69World → Prop} {iAckReceived : ℤ}

theorem Results.retrying {succeeded : Rf69World → Prop} {r : ℤ}
    (results : Results unanswered succeeded r w) (nonneg : 0 ≤ r)
    (isSuccess : succeeded w → Acked toAddress w) : Retrying unanswered toAddress r w := by
  rcases results with ⟨negative, -⟩ | zero | ⟨isOne, success⟩
  · omega
  · exact .inl zero
  · exact .inr ⟨isOne, isSuccess success⟩

/-- `TRY_INT_VAL`, of a function that tells whether it has succeeded. -/
theorem retrying_tryIntVal {call : Driver ℤ} {before succeeded : Rf69World → Prop}
    (calls : Finishes before call (Results unanswered succeeded))
    (isSuccess : ∀ w, succeeded w → Acked toAddress w) :
    Ensures before (tryIntVal call id) (Retrying unanswered toAddress) Fails := by
  apply ensures_tryIntVal _ calls.ensures
  · exact fun _ w results nonneg => results.retrying nonneg (isSuccess w)
  · rintro r w (⟨negative, hasFailed⟩ | ⟨isZero, -⟩ | ⟨isOne, -⟩) isNegative
    · exact ⟨r, rfl, negative, hasFailed⟩
    · omega
    · omega

/-- Another turn has found no ACK. -/
theorem Retrying.goesOn (retrying : Retrying unanswered toAddress iAckReceived w)
    (isZero : decide (iAckReceived = 0) = true) : unanswered w := by
  rcases retrying with ⟨-, holds⟩ | ⟨isOne, -⟩
  · exact holds
  · rw [of_decide_eq_true isZero] at isOne
    exact absurd isOne (by decide)

theorem Retrying.weaken (retrying : Retrying unanswered toAddress iAckReceived w)
    (follows : unanswered w → unanswered' w) : Retrying unanswered' toAddress iAckReceived w := by
  rcases retrying with ⟨isZero, holds⟩ | success
  · exact .inl ⟨isZero, follows holds⟩
  · exact .inr success

/-- The wait for an ACK, after a transmission. -/
theorem retrying_poll {turns : ℕ} :
    Ensures (Retrying (Listening tally Fresh) toAddress iAckReceived)
      (whileDo turns (fun iAckReceived => iAckReceived = 0)
        (fun _ => tryIntVal (iRf69AckReceived pollThread lockRcvMutex toAddress) id) iAckReceived)
      (Retrying (Listening tally Fresh) toAddress) Fails := by
  have polls : ∀ (n : ℕ) (a : ℤ), decide (a = 0) = true →
      Ensures (Retrying (Listening tally Fresh) toAddress a)
        (tryIntVal (iRf69AckReceived pollThread lockRcvMutex toAddress) id)
        (Retrying (Listening tally Fresh) toAddress) Fails := by
    intro n a isZero
    apply (retrying_tryIntVal listening_ackReceived fun _ => id).weaken _ (fun _ _ => id)
      fun _ _ => id
    exact fun _ retrying => retrying.goesOn isZero
  apply (@ensures_whileDo _ _ _ _ _ (fun _ => Retrying (Listening tally Fresh) toAddress) polls
    turns 0 iAckReceived).weaken (fun _ => id) _ fun _ _ => id
  rintro b w ⟨count, reached, -⟩
  exact reached

/-- A module that has not been ready is not fair: the attempt is given up. -/
theorem Unanswered.timed (unanswered : Unanswered tally w) :
    Listening tally Fresh (w.answered .timer) := by
  rcases unanswered with ⟨asks, ask, isAsks, unready⟩ | listening
  · intro fair
    have chain := fair.patient
    change (w.asks ++ [(Rf69Ask.timer, w.env w.clock)]).IsChain LooksAgain at chain
    rw [isAsks, List.append_assoc] at chain
    have again : LooksAgain ask (.timer, w.env w.clock) :=
      List.isChain_pair.mp chain.right_of_append
    exact absurd rfl (again unready)
  · exact listening_frame.nextAnswer w .timer listening

/-- A timer is started, and the module was not given up. -/
theorem retrying_timer {timeout : ℤ} :
    Finishes (Retrying (Unanswered tally) toAddress iAckReceived) (vRf69TimerStart timeout)
      fun _ => Retrying (Listening tally Fresh) toAddress iAckReceived := by
  apply ensures_bind fun _ => Retrying (Listening tally Fresh) toAddress iAckReceived
  · apply ensures_nextAnswer
    rintro w (⟨isZero, unanswered⟩ | ⟨isOne, acked⟩)
    · exact .inl ⟨isZero, unanswered.timed⟩
    · exact .inr ⟨isOne, fun fair => acked fair.answered⟩
  · intro answer
    exact ensures_pure fun _ => id

/-- One attempt: the packet is sent once if the channel becomes free. -/
theorem retrying_attempt {retryWaitTime : ℤ}
    (isPacket : tally.packet = rf69Frame tally.nodeId toAddress txBuffer false)
    (isZero : decide (iAckReceived = 0) = true) :
    Ensures (Retrying (Listening tally.settled Anything) toAddress iAckReceived) (do
        let iAckReceived ← tryIntVal (iRf69Send pollThread lockRcvMutex toAddress txBuffer true) id
        let turns ← vRf69TimerStart retryWaitTime
        whileDo turns (fun iAckReceived => iAckReceived = 0)
          (fun _ => tryIntVal (iRf69AckReceived pollThread lockRcvMutex toAddress) id)
          iAckReceived)
      (Retrying (Listening (tally.waited false) Anything) toAddress) Fails := by
  apply ensures_bind (Retrying (Unanswered (tally.waited false)) toAddress)
  · apply (retrying_tryIntVal (listening_send isPacket) _).weaken
    · exact fun _ retrying => retrying.goesOn isZero
    · exact fun _ _ => id
    · exact fun _ _ => id
    · exact fun w unfair fair => absurd fair unfair
  · intro r
    apply ensures_bind _ retrying_timer.ensures
    intro turns
    apply retrying_poll.weaken (fun _ => id) _ fun _ _ => id
    exact fun _ _ retrying => retrying.weaken Listening.anything

/-- The loop over the attempts. -/
theorem retrying_sendWithRetry {nodeId retries : UInt8} {packet : List UInt8} {retryWaitTime : ℤ}
    (isPacket : packet = rf69Frame nodeId toAddress txBuffer false) :
    Finishes (Listening ⟨nodeId, packet, 0, 0⟩ Anything)
      (iRf69SendWithRetry pollThread lockRcvMutex toAddress txBuffer retries retryWaitTime)
      (Results (Listening ⟨nodeId, packet, retries.toNat, 0⟩ Anything) (Acked toAddress)) := by
  apply finishes_failing _ fun _ _ negative hasFailed => .inl ⟨negative, hasFailed⟩
  have attempts : ∀ (n : ℕ) (a : ℤ), decide (a = 0) = true →
      Ensures (Retrying (Listening ⟨nodeId, packet, n, 0⟩ Anything) toAddress a) _
        (Retrying (Listening ⟨nodeId, packet, n + 1, 0⟩ Anything) toAddress) Fails :=
    fun n a isZero => @retrying_attempt ⟨nodeId, packet, n, 0⟩ toAddress txBuffer a retryWaitTime
      isPacket isZero
  apply (@ensures_whileDo _ _ _ _ _
    (fun n => Retrying (Listening ⟨nodeId, packet, n, 0⟩ Anything) toAddress) attempts
      retries.toNat 0 0).weaken
  · exact fun _ listening => .inl ⟨rfl, listening⟩
  · rintro r w ⟨count, retrying, isCount | stops⟩
    · rw [isCount, Nat.zero_add] at retrying
      exact .inr retrying
    · rcases retrying with ⟨isZero, -⟩ | success
      · exact absurd isZero (of_decide_eq_false stops)
      · exact .inr (.inr success)
  · exact fun _ _ => id

end Loops

/-! ### From the first attempt to the last -/

instance (hdr : XRf69Header) (fromNodeId : UInt8) : Decidable (hdr.IsAckFrom fromNodeId) :=
  inferInstanceAs (Decidable (_ ∧ _))

/-- An ACK of the node was received. -/
def Rf69Event.isAckFrom (fromNodeId : UInt8) : Rf69Event → Bool
  | received hdr => hdr.IsAckFrom fromNodeId
  | _ => false

/-- What has been recorded before the first transmission. -/
def unsentPart (events : List Rf69Event) : List Rf69Event :=
  events.takeWhile fun event => !event.isSent

/-- An ACK comes behind a transmission. -/
theorem sent_of_ack {before after : List Rf69Event} {hdr : XRf69Header}
    (ordered : ∀ event ∈ unsentPart (before ++ .received hdr :: after),
      event.isAckFrom toAddress = false)
    (isAck : hdr.IsAckFrom toAddress) : before.any Rf69Event.isSent = true := by
  by_contra unsent
  have passed : ∀ event ∈ before, (!event.isSent) = true := by
    intro event among
    rw [Bool.not_eq_true']
    rw [Bool.not_eq_true, List.any_eq_false] at unsent
    exact Bool.eq_false_of_not_eq_true (unsent event among)
  have early : .received hdr ∈ unsentPart (before ++ .received hdr :: after) := by
    rw [unsentPart, List.takeWhile_append_of_pos passed]
    exact List.mem_append_right _ (List.mem_cons_self ..)
  have isOther := ordered _ early
  rw [Rf69Event.isAckFrom, decide_eq_true isAck] at isOther
  cases isOther

/-- The poll thread may be anywhere when the call begins. -/
theorem listening_unheard (anywhere : Script.LeftOf Poll.vRf69Isr w.isr) (packet : List UInt8) :
    Listening ⟨w.rf.nodeId, packet, 0, 0⟩ Anything w.unheard := by
  have counts : Rf69Tally.Counts ⟨w.rf.nodeId, packet, 0, 0⟩ [] := ⟨rfl, rfl, nofun⟩
  have leads := Script.leads_of_total pollSpec_total pollSpec_monotone
    (fun _ _ _ _ => trivial : ∀ _ v, Pending Anything v) w.isr w.unheard.view
  exact fun _ => ⟨rfl, counts, Poll.harmless_isr.leftOf anywhere, leads⟩

/-- Whatever the poll thread does in between, the result is right if the interrupt pin is never
found high, the module is ready in time, the mode is not set against the interrupt routine, and no
acknowledgement comes before the first transmission. -/
theorem retryRight_run {retries : UInt8} {retryWaitTime : ℤ}
    (anywhere : Script.LeftOf Poll.vRf69Isr w.isr)
    (fair : Fair (iRf69SendWithRetry pollThread lockRcvMutex toAddress txBuffer retries
      retryWaitTime w.unheard).2)
    (ordered : ∀ event ∈ unsentPart (iRf69SendWithRetry pollThread lockRcvMutex toAddress txBuffer
      retries retryWaitTime w.unheard).2.events, event.isAckFrom toAddress = false) :
    RetryRight toAddress (rf69Frame w.rf.nodeId toAddress txBuffer false) retries.toNat
      (iRf69SendWithRetry pollThread lockRcvMutex toAddress txBuffer retries retryWaitTime
        w.unheard) := by
  rcases (retrying_sendWithRetry rfl).run (listening_unheard anywhere _) with ⟨r, next, runs, ended⟩
  rw [runs] at fair ordered ⊢
  refine ⟨r, rfl, ?_⟩
  rcases ended with ⟨negative, entry, among, failed⟩ | ⟨rfl, listening⟩ | ⟨rfl, acked⟩
  · refine ⟨fun positive => by omega, fun works => ?_, fun nonneg => by omega⟩
    rw [works entry among] at failed
    cases failed
  · have ⟨waits, sends, packets⟩ := (listening fair).counts
    exact ⟨fun positive => absurd positive (lt_irrefl 0), fun _ => le_refl 0,
      fun _ _ => ⟨rfl, waits, sends.symm, packets⟩⟩
  · rcases acked fair with ⟨hdr, isAck, among⟩
    rcases exists_received_of_mem_heard among with ⟨before, after, isEvents, unsent⟩
    have isAfter := sent_of_ack (isEvents ▸ ordered) isAck
    have last : AckedLast toAddress next.events :=
      ⟨before, hdr, after, isEvents, isAck, isAfter, unsent⟩
    exact ⟨fun _ => last, fun _ => zero_le_one, fun _ unacked => absurd last unacked⟩

/-- A node whose channel and module are as the environment has them. -/
def retryingNode (env : ℕ → Rf69Answer) : Rf69World where
  rf := ⟨.replicate 66 0, 0, ⟨0, 0, 0, 0⟩, 0, .rx, false, false, true, 1, 0⟩
  chip := ⟨rfOpmodeReceiver, [], []⟩
  env := env
  clock := 0
  muted := false
  spi := []
  events := []
  modes := []
  changes := []

/-- A poll thread that is idle is at the end of its routine. -/
theorem leftOf_idle : Script.LeftOf Poll.vRf69Isr (.ended (.ok ())) := by
  let w := retryingNode fun _ => ⟨0, 0, [], 0, 0, 0⟩
  exact @Script.LeftOf.advance _ _ _ _ Rf69Op.handle _ _ .whole
    { w with rf := { w.rf with mode := .standby } }

/-- The channel is busy with a frame of another node, which the interrupt routine takes one step at
a time. Later there are acknowledgements. -/
def busyAnswers (i : ℕ) : Rf69Answer :=
  if i < 12 then ⟨0, 0x74, [3, 1, 9, 0], 0, 2, 1⟩
  else ⟨0, 0xFF, [3, 1, 2, rf69Ack], 0, 2, if i < 130 then 0 else 1⟩

/-- The second transmission is acknowledged. -/
theorem retryRight_second :
    (iRf69SendWithRetry pollThread lockRcvMutex 2 [10] 3 100
      (retryingNode busyAnswers).unheard).1 = .ok 1 ∧
      RetryRight 2 [4, 2, 1, rf69AckReq, 10] 3 (iRf69SendWithRetry pollThread lockRcvMutex 2 [10]
        3 100 (retryingNode busyAnswers).unheard) :=
  ⟨by decide +kernel, retryRight_run leftOf_idle
    ⟨by decide +kernel, by decide +kernel, by decide +kernel⟩ (by decide +kernel)⟩

/-- A call that reports an ACK that was not received is not right. -/
theorem not_retryRight_of_unheard {packet : List UInt8} {retries : ℕ}
    {ran : Except Stop ℤ × Rf69World} (isOne : ran.1 = .ok 1)
    (unheard : ∀ hdr ∈ heard ran.2.events, ¬hdr.IsAckFrom toAddress) :
    ¬RetryRight toAddress packet retries ran := by
  rintro ⟨r, isResult, acked, -⟩
  rw [isOne] at isResult
  cases isResult
  rcases acked one_pos with ⟨before, hdr, after, isEvents, isAck, -, unsent⟩
  have among := @mem_heard_of_received hdr before after unsent
  rw [← isEvents] at among
  exact unheard hdr among isAck

/-- The transmission is signalled as complete, and nothing is ever received. -/
theorem not_retryRight_completed :
    ¬RetryRight 2 [4, 2, 1, rf69AckReq, 10] 3 (iRf69SendWithRetry pollThread lockRcvMutex 2 [10]
      3 100 (retryingNode fun _ => ⟨0, 0xFF, [], 1, 2, 0⟩).unheard) :=
  not_retryRight_of_unheard (by decide +kernel) (by decide +kernel)

/-- The poll thread has taken an acknowledgement of the first transmission but is still in the
interrupt routine when the packet is sent for the second time. -/
example : ¬RetryRight 2 [4, 2, 1, rf69AckReq, 10] 3 (iRf69SendWithRetry pollThread lockRcvMutex 2
    [10] 3 100 (retryingNode fun i =>
      ⟨0, 0xFF, [3, 1, 2, rf69Ack], 0, 2, if i = 71 then 17 else 0⟩).unheard) :=
  not_retryRight_of_unheard (by decide +kernel) (by decide +kernel)

end Sysio.Rf69
