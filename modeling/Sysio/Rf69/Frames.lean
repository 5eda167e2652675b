import Sysio.Rf69.Modes

/-!
# A frame from one node to another

What `iRf69SendFrame` writes into the FIFO of one module and `vRf69Isr` reads from the FIFO of
another, none of their transfers failing. The control byte asks for an acknowledgement whenever it
is not one, whatever the sender was told.
-/

namespace Sysio.Rf69

open Routine

variable {rf : XRf69} {fifo : List UInt8} {early : Stop → Rf69World → Prop} {newMode : ERf69Mode}

/-- No transfer fails, and this is in the structure and in the FIFO. -/
def Healthy (rf : XRf69) (fifo : List UInt8) (w : Rf69World) : Prop :=
  (∀ i, 0 ≤ (w.env i).fault) ∧ w.rf = rf ∧ w.chip.rxFifo = fifo

/-! ### Transfers that succeed -/

/-- Where no transfer fails, what holds of those that succeed is enough. -/
theorem healthy_transact {transfer : Rf69Transfer} {after : ℤ × List UInt8 → Rf69World → Prop}
    (serves : ∀ w, Healthy rf fifo w →
      after (w.chip.reply (w.env w.clock).value transfer) (w.served transfer)) :
    Ensures (Healthy rf fifo) (transact transfer) after early := by
  apply ensures_transact
  · intro w healthy failed
    exact absurd failed (Int.not_lt.mpr (healthy.1 _))
  · intro w healthy _
    exact serves w healthy

theorem healthy_access {α : Type} {read : XRf69 → α} :
    Ensures (Healthy rf fifo) (access quiet read) (fun a w => a = read rf ∧ Healthy rf fifo w)
      early :=
  ensures_access ensures_quiet fun _ healthy => ⟨congrArg read healthy.2.1, healthy⟩

theorem healthy_update {write : XRf69 → XRf69} :
    Ensures (Healthy rf fifo) (update quiet write) (fun _ => Healthy (write rf) fifo) early :=
  ensures_update ensures_quiet fun _ healthy =>
    ⟨healthy.1, congrArg write healthy.2.1, healthy.2.2⟩

theorem healthy_note {event : Rf69Event} :
    Ensures (Healthy rf fifo) (note event) (fun _ => Healthy rf fifo) early :=
  ensures_note fun _ healthy => healthy

theorem healthy_readReg {reg : UInt8} (other : reg ≠ regFifo) :
    Ensures (Healthy rf fifo) (iRf69ReadReg quiet reg) (fun _ => Healthy rf fifo) early := by
  apply ensures_bind _ ensures_quiet
  intro _
  apply ensures_bind fun _ => Healthy rf fifo
  · apply healthy_transact
    intro w healthy
    have kept : w.chip.after (.readReg reg) = w.chip := if_neg other
    exact ⟨healthy.1, healthy.2.1, (congrArg _ kept).trans healthy.2.2⟩
  · intro reply
    exact ensures_pure fun _ => id

theorem healthy_muted {α : Type} {m : Driver α} {after : α → Rf69World → Prop}
    {fifo' : List UInt8}
    (finishes : Finishes (Healthy rf fifo) m fun a w => after a w ∧ Healthy rf fifo' w)
    (insensitive : ∀ a w flag, after a w → after a { w with muted := flag }) :
    Ensures (Healthy rf fifo) (muted m) (fun a w => after a w ∧ Healthy rf fifo' w) early :=
  Finishes.ensures (finishes_muted (fun _ healthy => healthy) finishes
    fun a w flag reached => ⟨insensitive a w flag reached.1, reached.2⟩)

theorem healthy_readByte {reg : UInt8} (other : reg ≠ regFifo) :
    Ensures (Healthy rf fifo) (tryByte (iRf69ReadReg quiet reg)) (fun _ => Healthy rf fifo)
      early := by
  apply ensures_bind fun _ => Healthy rf fifo
  · exact Finishes.ensures (finishes_muted (fun _ healthy => healthy) (healthy_readReg other)
      fun _ _ _ healthy => healthy)
  · intro r
    exact ensures_pure fun _ => id

theorem healthy_tryWrite {reg data : UInt8} :
    Ensures (Healthy rf fifo) (tryInt (iRf69WriteReg quiet reg data)) (fun _ => Healthy rf fifo)
      early := by
  apply ensures_tryInt fun r w => r = 1 ∧ Healthy rf fifo w
  · apply ensures_writeReg ensures_quiet
    · intro w healthy failed
      exact absurd failed (Int.not_lt.mpr (healthy.1 _))
    · intro w healthy _
      have kept : (w.chip.after (.writeReg reg data)).rxFifo = w.chip.rxFifo :=
        (apply_ite Rf69Module.rxFifo _ _ _).trans (ite_self _)
      exact ⟨rfl, healthy.1, healthy.2.1, kept.trans healthy.2.2⟩
  · exact fun _ _ reached _ => reached.2
  · rintro r w ⟨rfl, _⟩ negative
    exact absurd negative (by decide)

/-! ### The operating mode -/

theorem healthy_waitForReady {timeout : ℤ} :
    Ensures (Healthy rf fifo) (ignored (iRf69WaitForReady quiet timeout))
      (fun _ => Healthy rf fifo) early := by
  have waits : Finishes (Healthy rf fifo) (iRf69WaitForReady quiet timeout)
      fun _ => Healthy rf fifo := by
    apply ensures_bind fun _ => Healthy rf fifo
    · apply ensures_bind fun _ => Healthy rf fifo
      · exact ensures_nextAnswer fun _ healthy => healthy
      · intro answer
        exact ensures_pure fun _ => id
    · intro turns
      apply ensures_bind fun _ => Healthy rf fifo
      · apply ensures_whileRunning
        exact (healthy_readByte (by decide)).weaken (fun _ => id)
          (fun _ _ healthy => ⟨healthy, fun _ => healthy⟩) fun _ _ => id
      · intro b
        exact ensures_pure fun _ => id
  apply ensures_bind fun _ => Healthy rf fifo
  · exact Finishes.ensures (finishes_muted (fun _ healthy => healthy) waits
      fun _ _ _ healthy => healthy)
  · intro r
    exact ensures_pure fun _ => id

theorem healthy_setHighPowerRegs {bOn : Bool} :
    Ensures (Healthy rf fifo) (tryInt (iRf69SetHighPowerRegs quiet bOn))
      (fun _ => Healthy rf fifo) early := by
  have sets : Finishes (Healthy rf fifo) (iRf69SetHighPowerRegs quiet bOn)
      fun r w => r = 0 ∧ Healthy rf fifo w := by
    apply finishes_called
    apply ensures_bind _ healthy_tryWrite
    intro _
    apply ensures_bind _ healthy_tryWrite
    intro _
    exact ensures_pure fun _ healthy => ⟨rfl, healthy⟩
  apply ensures_tryInt _ sets.ensures
  · exact fun _ _ reached _ => reached.2
  · rintro r w ⟨rfl, _⟩ negative
    exact absurd negative (by decide)

theorem healthy_amplify {bOn : Bool} {data : UInt8} :
    Ensures (Healthy rf fifo) (do
        tryInt (iRf69WriteReg quiet regOpmode data)
        let isRfm69hw ← access quiet (·.isRfm69hw)
        whenever isRfm69hw (tryInt (iRf69SetHighPowerRegs quiet bOn)))
      (fun _ => Healthy rf fifo) early := by
  apply ensures_bind _ healthy_tryWrite
  intro _
  apply ensures_bind_value healthy_access
  apply ensures_whenever
  · intro _
    exact healthy_setHighPowerRegs
  · exact fun _ _ => id

theorem healthy_switchMode {b : UInt8} :
    Ensures (Healthy rf fifo) (rf69SwitchMode quiet newMode b) (fun _ => Healthy rf fifo)
      early := by
  cases newMode with
  | tx => exact healthy_amplify
  | rx => exact healthy_amplify
  | synth => exact healthy_tryWrite
  | standby => exact healthy_tryWrite
  | sleep => exact healthy_tryWrite

/-- The mode is set, and the FIFO is left alone. -/
theorem healthy_setMode :
    Finishes (Healthy rf fifo) (iRf69SetMode quiet newMode)
      fun r w => r = 0 ∧ Healthy { rf with mode := newMode } fifo w := by
  apply finishes_called
  apply ensures_bind_value healthy_access
  apply ensures_bind fun _ => Healthy { rf with mode := newMode } fifo
  · apply ensures_whenever
    · intro _
      apply ensures_bind _ (healthy_readByte (by decide))
      intro b
      apply ensures_bind _ healthy_switchMode
      intro _
      apply ensures_bind_value healthy_access
      apply ensures_bind fun _ => Healthy rf fifo
      · apply ensures_whenever
        · intro _
          exact healthy_waitForReady
        · exact fun _ _ => id
      · intro _
        exact healthy_update
    · intro same w healthy
      have isMode : newMode = rf.mode := by simpa using same
      subst isMode
      exact healthy
  · intro _
    apply ensures_bind fun _ => Healthy { rf with mode := newMode } fifo
    · exact ensures_noteMode fun _ healthy => healthy
    · intro _
      exact ensures_pure fun _ healthy => ⟨rfl, healthy⟩

theorem healthy_trySetMode :
    Ensures (Healthy rf fifo) (tryInt (iRf69SetMode quiet newMode))
      (fun _ => Healthy { rf with mode := newMode } fifo) early := by
  apply ensures_tryInt _ healthy_setMode.ensures
  · exact fun _ _ reached _ => reached.2
  · rintro r w ⟨rfl, _⟩ negative
    exact absurd negative (by decide)

/-! ### The interrupt routine -/

/-- How many bytes are read behind the header of a frame whose first byte is `b`. -/
def dataLength (b : UInt8) : ℕ := (min b 66 - 3).toNat

/-- The bytes that the FIFO gives for them. -/
def dataBytes (b : UInt8) (fifo : List UInt8) : List UInt8 :=
  (fifo ++ List.replicate (dataLength b) 0).take (dataLength b)

/-- The bytes that are read as data, from the length of the frame. -/
theorem dataLength_eq {b : UInt8} (header : 3 ≤ b) : dataLength b = min b.toNat 66 - 3 := by
  by_cases small : b ≤ 66
  · have least : min b 66 = b := if_pos small
    have small' : b.toNat ≤ 66 := UInt8.le_iff_toNat_le.mp small
    rw [dataLength, least, UInt8.toNat_sub_of_le _ _ header, min_eq_left small']
    rfl
  · have least : min b 66 = 66 := if_neg small
    have large : 66 ≤ b.toNat := by
      rw [UInt8.le_iff_toNat_le] at small
      exact Nat.le_of_lt (Nat.lt_of_not_le small)
    rw [dataLength, least, min_eq_right large]
    rfl

theorem dataLength_of_length {b : UInt8} {n : ℕ} (length : b.toNat = n + 3) (fits : n ≤ 61) :
    dataLength b = n := by
  have header : (3 : UInt8) ≤ b := by
    rw [UInt8.le_iff_toNat_le, length]
    exact Nat.le_add_left 3 n
  rw [dataLength_eq header, length]
  omega

theorem dataBytes_length (b : UInt8) (fifo : List UInt8) :
    (dataBytes b fifo).length = dataLength b := by
  rw [dataBytes, List.length_take, List.length_append, List.length_replicate]
  exact min_eq_left (Nat.le_add_left _ _)

theorem dataBytes_of_length {b : UInt8} {payload : List UInt8}
    (length : dataLength b = payload.length) : dataBytes b payload = payload := by
  rw [dataBytes, length, List.take_left]

/-- The first byte of the FIFO is the length of the frame. -/
theorem healthy_readFifo {b : UInt8} :
    Finishes (Healthy rf (b :: fifo)) (iRf69ReadReg quiet regFifo)
      fun r w => r = b.toNat ∧ Healthy rf fifo w := by
  apply ensures_bind _ ensures_quiet
  intro _
  apply ensures_bind fun reply w => reply.1 = (b.toNat : ℤ) ∧ Healthy rf fifo w
  · apply healthy_transact
    intro w healthy
    rcases healthy with ⟨served, sameRf, sameFifo⟩
    have reply : (w.chip.reply (w.env w.clock).value (.readReg regFifo)).1 = b.toNat := by
      change ((w.chip.rxFifo.headD 0).toNat : ℤ) = b.toNat
      rw [sameFifo]
      rfl
    exact ⟨reply, served, sameRf, congrArg List.tail sameFifo⟩
  · intro reply
    exact ensures_pure fun _ => id

/-- The bytes behind it are read in a block. -/
theorem healthy_readBlock {len : ℕ} {write : List UInt8 → XRf69 → XRf69} :
    Ensures (Healthy rf fifo) (tryInt (iRf69ReadBlock quiet regFifo len write))
      (fun _ => Healthy (write ((fifo ++ List.replicate len 0).take len) rf) (fifo.drop len))
      early := by
  have read : Finishes (Healthy rf fifo) (iRf69ReadBlock quiet regFifo len write) fun r w =>
      r = len ∧
        Healthy (write ((fifo ++ List.replicate len 0).take len) rf) (fifo.drop len) w := by
    apply ensures_bind _ ensures_quiet
    intro _
    have block : Finishes (Healthy rf fifo) (transact (.readBlock regFifo len)) fun reply w =>
        reply = ((len : ℤ), (fifo ++ List.replicate len 0).take len) ∧
          Healthy rf (fifo.drop len) w := by
      apply healthy_transact
      intro w healthy
      rcases healthy with ⟨served, sameRf, sameFifo⟩
      have bytes : (w.chip.rxFifo ++ List.replicate len 0).take len =
          (fifo ++ List.replicate len 0).take len := by rw [sameFifo]
      exact ⟨Prod.ext rfl bytes, served, sameRf, congrArg (List.drop len) sameFifo⟩
    apply ensures_bind_value block
    apply ensures_bind fun _ =>
      Healthy (write ((fifo ++ List.replicate len 0).take len) rf) (fifo.drop len)
    · apply ensures_whenever
      · intro _
        exact healthy_update
      · intro negative
        exact absurd (Int.natCast_nonneg len) (of_decide_eq_false negative)
    · intro _
      exact ensures_pure fun _ healthy => ⟨rfl, healthy⟩
  apply ensures_tryInt _ read.ensures
  · exact fun _ _ reached _ => reached.2
  · rintro r w ⟨rfl, _⟩ negative
    exact absurd negative (Int.not_lt.mpr (Int.natCast_nonneg len))

theorem healthy_rssi :
    Ensures (Healthy rf fifo) (muted (iRf69Rssi quiet false)) (fun _ => Healthy rf fifo)
      early := by
  have reads : Finishes (Healthy rf fifo) (iRf69Rssi quiet false) fun _ => Healthy rf fifo := by
    apply finishes_called
    apply ensures_bind fun _ => Healthy rf fifo
    · exact ensures_pure fun _ => id
    · intro _
      apply ensures_bind _ (healthy_readByte (by decide))
      intro b
      exact ensures_pure fun _ => id
  exact Finishes.ensures (finishes_muted (fun _ healthy => healthy) reads
    fun _ _ _ healthy => healthy)

/-- The destination is one that this node listens to. -/
def XRf69.listensTo (rf : XRf69) (dest : UInt8) : Bool :=
  rf.promiscuous || dest == rf.nodeId || dest == rf69BroadcastAddr

/-- The buffer after `n` bytes have been read into it. -/
def XRf69.storedData (rf : XRf69) (n : ℕ) (bytes : List UInt8) : Vector UInt8 rfFifoSize :=
  if 0 < n then
    if n < rf69MaxDataLen then (rf.data.fill bytes).setIfInBounds n 0 else rf.data.fill bytes
  else rf.data

/-- A frame with this header has been taken, and what follows it in the FIFO. -/
def Taken (rf : XRf69) (hdr : XRf69Header) (payload : List UInt8) (rf' : XRf69) : Prop :=
  rf'.mode = .rx ∧ rf'.hdr = hdr ∧ rf'.dataLen = min hdr.payloadLen 66 - 3 ∧
    rf'.data = rf.storedData (dataLength hdr.payloadLen) (dataBytes hdr.payloadLen payload)

/-- The frame has been received. -/
def Arrived (hdr : XRf69Header) (payload : List UInt8) (rf : XRf69) : Prop :=
  rf.mode = .rx ∧ rf.hdr = hdr ∧ rf.dataLen.toNat = payload.length ∧
    rf.data.toList.take payload.length = payload

section Reception

variable {payload : List UInt8} {b dest sender ctl : UInt8}

/-- The buffer starts with the bytes, whatever ends them. -/
theorem take_storedData {n : ℕ} {bytes : List UInt8} (length : bytes.length = n)
    (room : n ≤ rfFifoSize) : (rf.storedData n bytes).toList.take n = bytes := by
  subst length
  have filled := Vector.take_fill rf.data room
  rw [XRf69.storedData]
  split
  · split
    · rw [Vector.toList_setIfInBounds, List.take_set_of_le (Nat.le_refl _)]
      exact filled
    · exact filled
  · rename_i empty
    have none_ := List.eq_nil_of_length_eq_zero (Nat.eq_zero_of_not_pos empty)
    subst none_
    rfl

/-- A frame whose length is right has arrived as it was sent. -/
theorem Taken.arrived {rf' : XRf69} {hdr : XRf69Header} (taken : Taken rf hdr payload rf')
    (length : hdr.payloadLen.toNat = payload.length + 3) (fits : payload.length ≤ 61) :
    Arrived hdr payload rf' := by
  rcases taken with ⟨isRx, isHdr, dataLen, data⟩
  have isLength := dataLength_of_length length fits
  refine ⟨isRx, isHdr, ?_, ?_⟩
  · rw [dataLen]
    exact isLength
  · rw [data, dataBytes_of_length isLength, isLength]
    exact take_storedData rfl (Nat.le_trans fits (by decide))

/-- The data of the frame are in the structure. -/
theorem ensures_storeData :
    Ensures (Healthy rf payload)
      (whenever (0 < min b 66 - 3) do
        tryInt (iRf69ReadBlock quiet regFifo (min b 66 - 3).toNat
          fun bytes rf => { rf with data := rf.data.fill bytes })
        whenever ((min b 66 - 3).toNat < rf69MaxDataLen)
          (update quiet fun rf => { rf with data := rf.data.setIfInBounds (min b 66 - 3).toNat 0 }))
      (fun _ w => ∃ fifo', Healthy
        { rf with data := rf.storedData (dataLength b) (dataBytes b payload) } fifo' w)
      early := by
  apply ensures_whenever
  · intro some_
    have some_ : 0 < dataLength b := UInt8.lt_iff_toNat_lt.mp (of_decide_eq_true some_)
    rw [XRf69.storedData, if_pos some_]
    apply ensures_bind _ healthy_readBlock
    intro _
    apply ensures_whenever
    · intro short
      have short : dataLength b < rf69MaxDataLen := of_decide_eq_true short
      rw [if_pos short]
      exact healthy_update.weaken (fun _ => id) (fun _ _ healthy => ⟨_, healthy⟩) fun _ _ => id
    · intro long w healthy
      have long : ¬dataLength b < rf69MaxDataLen := of_decide_eq_false long
      rw [if_neg long]
      exact ⟨_, healthy⟩
  · intro none_ w healthy
    have none_ : ¬0 < dataLength b := fun some_ =>
      of_decide_eq_false none_ (UInt8.lt_iff_toNat_lt.mpr some_)
    rw [XRf69.storedData, if_neg none_]
    exact ⟨_, healthy⟩

/-- A frame for this node is taken, and others are not. -/
theorem ensures_takeFrame :
    Ensures (Healthy rf (dest :: sender :: ctl :: payload)) (rf69TakeFrame b.toNat)
      (fun _ w => ∃ rf', rf.listensTo dest = false ∧ Healthy rf' payload w)
      (fun stop w => ∃ r, stop = .returned r ∧ rf.listensTo dest = true ∧
        ∃ rf' fifo', Taken rf ⟨b, dest, sender, ctl⟩ payload rf' ∧ Healthy rf' fifo' w) := by
  rw [rf69TakeFrame, ofInt_toNat]
  apply ensures_bind _ healthy_update
  intro _
  apply ensures_bind _ healthy_readBlock
  intro _
  apply ensures_bind_value healthy_access
  apply ensures_whenever
  · intro listens
    apply ensures_bind _ healthy_update
    intro _
    apply ensures_bind_value healthy_access
    apply ensures_bind _ ensures_storeData
    rintro _ w ⟨fifo', healthy⟩
    refine ensures_bind_value healthy_access ?_ w healthy
    apply ensures_bind _ healthy_note
    intro _
    apply ensures_bind _ healthy_trySetMode
    intro _
    apply ensures_bind _ healthy_rssi
    intro rssi
    apply ensures_bind fun _ w =>
      ∃ rf' fifo', Taken rf ⟨b, dest, sender, ctl⟩ payload rf' ∧ Healthy rf' fifo' w
    · apply ensures_whenever
      · intro _
        apply healthy_update.weaken (fun _ => id) _ fun _ _ => id
        exact fun _ _ healthy => ⟨_, _, ⟨rfl, rfl, rfl, rfl⟩, healthy⟩
      · exact fun _ _ healthy => ⟨_, _, ⟨rfl, rfl, rfl, rfl⟩, healthy⟩
    · intro _
      exact ensures_returns fun _ taken => ⟨0, rfl, listens, taken⟩
  · exact fun ignores _ healthy => ⟨_, ignores, healthy⟩

theorem healthy_avoidRxDeadLocks :
    Ensures (Healthy rf fifo) (tryInt (iRf69AvoidRxDeadLocks quiet)) (fun _ => Healthy rf fifo)
      early := by
  have avoids : Finishes (Healthy rf fifo) (iRf69AvoidRxDeadLocks quiet)
      fun r w => r = 0 ∧ Healthy rf fifo w := by
    apply finishes_called
    apply ensures_bind _ (healthy_readByte (by decide))
    intro _
    apply ensures_bind _ healthy_tryWrite
    intro _
    exact ensures_pure fun _ healthy => ⟨rfl, healthy⟩
  apply ensures_tryInt _ avoids.ensures
  · exact fun _ _ reached _ => reached.2
  · rintro r w ⟨rfl, _⟩ negative
    exact absurd negative (by decide)

theorem healthy_startReceiving :
    Ensures (Healthy rf fifo) (ignored (iRf69StartReceiving quiet))
      (fun _ w => w.rf.hdr.payloadLen = 0) early := by
  have starts : Finishes (Healthy rf fifo) (iRf69StartReceiving quiet)
      fun _ w => w.rf.hdr.payloadLen = 0 := by
    apply finishes_called
    apply ensures_bind _ healthy_update
    intro _
    apply ensures_bind _ healthy_avoidRxDeadLocks
    intro _
    apply ensures_bind _ (healthy_readByte (by decide))
    intro _
    apply ensures_bind _ healthy_tryWrite
    intro _
    apply healthy_setMode.ensures.weaken (fun _ => id) _ fun _ _ => id
    intro r w reached
    rw [reached.2.2.1]
  apply ensures_bind fun _ w => w.rf.hdr.payloadLen = 0
  · exact Finishes.ensures (finishes_muted (fun _ healthy => healthy) starts
      fun _ _ _ zero => zero)
  · intro _
    exact ensures_pure fun _ => id

/-- The module says that it has a frame. -/
def HasFrame (rf : XRf69) (fifo : List UInt8) (w : Rf69World) : Prop :=
  Healthy rf fifo w ∧ (w.env w.clock).value &&& rfIrqflags2Payloadready ≠ 0

theorem hasFrame_readFlags :
    Ensures (HasFrame rf fifo) (tryByte (iRf69ReadReg quiet regIrqflags2))
      (fun flags w => flags &&& rfIrqflags2Payloadready ≠ 0 ∧ Healthy rf fifo w) early := by
  have reads : Finishes (HasFrame rf fifo) (iRf69ReadReg quiet regIrqflags2) fun r w =>
      UInt8.ofInt r &&& rfIrqflags2Payloadready ≠ 0 ∧ Healthy rf fifo w := by
    apply ensures_bind _ ensures_quiet
    intro _
    apply ensures_bind fun reply w =>
      UInt8.ofInt reply.1 &&& rfIrqflags2Payloadready ≠ 0 ∧ Healthy rf fifo w
    · apply ensures_transact
      · intro w frame failed
        exact absurd failed (Int.not_lt.mpr (frame.1.1 _))
      · intro w frame _
        rcases frame with ⟨healthy, ready⟩
        refine ⟨?_, healthy⟩
        change UInt8.ofInt (w.env w.clock).value.toNat &&& _ ≠ 0
        rw [ofInt_toNat]
        exact ready
    · intro reply
      exact ensures_pure fun _ => id
  apply ensures_bind fun r w =>
    UInt8.ofInt r &&& rfIrqflags2Payloadready ≠ 0 ∧ Healthy rf fifo w
  · exact Finishes.ensures (finishes_muted (fun _ frame => frame) reads
      fun _ _ _ reached => reached)
  · intro r
    exact ensures_pure fun _ => id

/-- The interrupt routine takes a frame that is in the FIFO. -/
theorem finishes_isr (receives : rf.mode = .rx) :
    Finishes (HasFrame rf (b :: dest :: sender :: ctl :: payload)) vRf69Isr fun _ w =>
      (3 ≤ b ∧ rf.listensTo dest = true ∧ ∃ rf' fifo',
          Taken rf ⟨b, dest, sender, ctl⟩ payload rf' ∧ Healthy rf' fifo' w) ∨
        ((3 ≤ b → rf.listensTo dest = false) ∧ w.rf.hdr.payloadLen = 0) := by
  have isLong : (3 : ℤ) ≤ b.toNat ↔ 3 ≤ b := by
    rw [UInt8.le_iff_toNat_le]
    exact Int.ofNat_le
  apply finishes_voided
  apply ensures_bind fun mode w =>
    mode = rf.mode ∧ HasFrame rf (b :: dest :: sender :: ctl :: payload) w
  · exact ensures_access ensures_quiet fun w frame => ⟨congrArg _ frame.1.2.1, frame⟩
  · intro mode
    apply ensures_whenever
    · intro _
      apply ensures_bind _ (hasFrame_readFlags.weaken (fun _ start => start.2)
        (fun _ _ => id) fun _ _ => id)
      intro flags
      apply ensures_whenever
      · intro _
        apply ensures_bind _ (healthy_trySetMode.weaken (fun _ start => start.2)
          (fun _ _ => id) fun _ _ => id)
        intro _
        apply ensures_bind_value (healthy_muted healthy_readFifo fun _ _ _ => id)
        apply ensures_bind fun _ w => ∃ rf' fifo',
          (3 ≤ b → rf.listensTo dest = false) ∧ Healthy rf' fifo' w
        · apply ensures_whenever
          · intro long
            have long := isLong.mp (of_decide_eq_true long)
            apply ensures_takeFrame.weaken (fun _ => id)
            · rintro _ w ⟨rf', ignores, healthy⟩
              exact ⟨rf', _, fun _ => ignores, healthy⟩
            · rintro stop w ⟨r, isReturn, listens, taken⟩
              exact ⟨r, isReturn, .inl ⟨long, listens, taken⟩⟩
          · intro short w healthy
            exact ⟨_, _, fun long => absurd (isLong.mpr long) (of_decide_eq_false short), healthy⟩
        · rintro _ w ⟨rf', fifo', ignores, healthy⟩
          refine ensures_bind _ healthy_update (fun _ => ?_) w healthy
          apply healthy_startReceiving.weaken (fun _ => id) _ fun _ _ => id
          exact fun _ _ zero => .inr ⟨ignores, zero⟩
      · intro unset w reached
        exact absurd reached.1 (of_decide_eq_false unset)
    · intro other w reached
      rw [reached.1, receives] at other
      cases other

/-- An ACK of the node has arrived. -/
theorem finishes_ackReceived (arrived : Arrived ⟨b, dest, sender, ctl⟩ payload rf) (filled : 0 < b)
    (fromNodeId : UInt8) :
    Finishes (Healthy rf fifo) (iRf69AckReceived quiet quiet fromNodeId) fun r _ =>
      r = if (sender = fromNodeId ∨ fromNodeId = rf69BroadcastAddr) ∧ ctl &&& rf69Ack ≠ 0 then 1
        else 0 := by
  rcases arrived with ⟨isRx, isHdr, -, -⟩
  have received : Finishes (Healthy rf fifo) (iRf69ReceiveDone quiet quiet)
      fun r w => r = 1 ∧ Healthy { rf with mode := .standby } fifo w := by
    apply ensures_bind _ ensures_quiet
    intro _
    apply ensures_bind _ ensures_quiet
    intro _
    apply ensures_bind_value healthy_access
    rw [if_pos isRx]
    apply ensures_bind_value healthy_access
    have taken : 0 < rf.hdr.payloadLen := by rw [isHdr]; exact filled
    rw [if_pos taken]
    apply ensures_bind_value healthy_setMode
    exact ensures_pure fun _ healthy => ⟨rfl, healthy⟩
  apply ensures_bind_value received
  rw [if_pos rfl]
  apply ensures_bind_value healthy_access
  apply ensures_bind_value healthy_access
  apply ensures_pure
  intro _ _
  simp only [isHdr]

/-- The frame that has arrived asks for an ACK. -/
theorem finishes_ackRequested (arrived : Arrived ⟨b, dest, sender, ctl⟩ payload rf) :
    Finishes (Healthy rf fifo) (iRf69AckRequested quiet) fun r _ =>
      r = if ctl &&& rf69AckReq ≠ 0 ∧ dest ≠ rf69BroadcastAddr then 1 else 0 := by
  rcases arrived with ⟨-, isHdr, -, -⟩
  apply ensures_bind_value healthy_access
  apply ensures_bind_value healthy_access
  apply ensures_pure
  intro _ _
  simp only [isHdr]

end Reception

/-! ### Sending -/

section Sending

variable {nodeId : UInt8} {frame : List UInt8}

/-- Nothing else is written into the FIFO by this node. -/
def WritesOnly (nodeId : UInt8) (frame : List UInt8) (w : Rf69World) : Prop :=
  w.rf.nodeId = nodeId ∧
    ∀ entry ∈ w.spi, ∀ data, entry.transfer = .writeBlock regFifo data → data = frame

theorem WritesOnly.asked {w : Rf69World} {transfer : Rf69Transfer}
    (only : WritesOnly nodeId frame w)
    (same : ∀ data, transfer = .writeBlock regFifo data → data = frame) :
    WritesOnly nodeId frame (w.asked transfer) := by
  refine ⟨only.1, fun entry among data isWrite => ?_⟩
  rcases List.mem_append.mp among with before | new
  · exact only.2 entry before data isWrite
  · rw [List.mem_singleton.mp new] at isWrite
    exact same data isWrite

theorem IsPlain.notBlock {transfer : Rf69Transfer} (plain : transfer.IsPlain) (data : List UInt8)
    (isBlock : transfer = .writeBlock regFifo data) : data = frame := by
  rw [isBlock] at plain
  exact plain.elim

theorem writesOnly_frame : Rf69Frame (WritesOnly nodeId frame) where
  nextAnswer _ _ only := only
  muted _ _ only := only
  fails _ _ plain _ only := only.asked (IsPlain.notBlock plain)
  serves _ _ plain _ only := only.asked (IsPlain.notBlock plain)

theorem keeps_writesOnly_transact {transfer : Rf69Transfer}
    (same : ∀ data, transfer = .writeBlock regFifo data → data = frame) :
    Keeps (WritesOnly nodeId frame) (transact transfer) := by
  apply Ensures.keeps
  apply ensures_transact
  · exact fun _ only _ => only.asked same
  · exact fun _ only _ => only.asked same

theorem keeps_writesOnly_setMode :
    Keeps (WritesOnly nodeId frame) (tryInt (iRf69SetMode quiet newMode)) := by
  have rules := (@writesOnly_frame nodeId frame).rules
  apply rules.tryInt
  exact rules.setModeOf rules.noPause (fun _ _ => keeps_writesOnly_transact (by nofun))
    (Keeps.bind (keeps_ended (.ok ())) fun _ _ only => only) (fun _ only => only)

theorem keeps_writesOnly_writeBlock :
    Keeps (WritesOnly nodeId frame) (iRf69WriteBlock quiet regFifo frame) := by
  have same : ∀ data, Rf69Transfer.writeBlock regFifo frame = .writeBlock regFifo data →
      data = frame := by
    rintro data ⟨⟩
    rfl
  exact Keeps.bind (keeps_ended (.ok ())) fun _ =>
    Keeps.bind (keeps_writesOnly_transact same) fun reply => keeps_ended (.ok reply.1)

theorem rf69Frame_length (toAddress : UInt8) (txBuffer : List UInt8) (bSendAck : Bool) :
    (rf69Frame nodeId toAddress txBuffer bSendAck).length =
      rf69HeaderSize + (txBuffer.take rf69MaxDataLen).length := by
  rw [rf69Frame, List.length_append]
  rfl

/-- Nothing but the frame is written to the FIFO. -/
theorem keeps_sendFrame {toAddress : UInt8} {txBuffer : List UInt8} {bRequestAck bSendAck : Bool} :
    Keeps (WritesOnly nodeId (rf69Frame nodeId toAddress txBuffer bSendAck))
      (iRf69SendFrame quiet toAddress txBuffer bRequestAck bSendAck) := by
  have room : (rf69Frame nodeId toAddress txBuffer bSendAck).length ≤ rfFifoSize := by
    rw [rf69Frame_length, List.length_take]
    have least := Nat.min_le_left rf69MaxDataLen txBuffer.length
    exact Nat.le_trans (Nat.add_le_add_left least _) (by decide)
  have rules := (@writesOnly_frame nodeId (rf69Frame nodeId toAddress txBuffer bSendAck)).rules
  have writeBlock : ∀ data : Vector UInt8 rfFifoSize,
      data.toList.take (rf69Frame nodeId toAddress txBuffer bSendAck).length =
        rf69Frame nodeId toAddress txBuffer bSendAck →
      Keeps (WritesOnly nodeId (rf69Frame nodeId toAddress txBuffer bSendAck))
        (tryInt (iRf69WriteBlock quiet regFifo
          (data.toList.take (rf69HeaderSize + (txBuffer.take rf69MaxDataLen).length)))) := by
    intro data filled
    rw [rf69Frame_length] at filled
    rw [filled]
    exact rules.tryInt keeps_writesOnly_writeBlock
  apply Keeps.called
  apply Ensures.keeps
  apply ensures_bind _ keeps_writesOnly_setMode.ensures
  intro _
  apply ensures_bind _ (Keeps.ensures (rules.tryBool (rules.waitForReady rules.noPause)))
  intro bIsOk
  by_cases isOk : bIsOk = true
  · rw [if_pos isOk]
    apply ensures_bind _ (Keeps.ensures (rules.readByte rules.noPause))
    intro b
    apply ensures_bind _ (Keeps.ensures (rules.write rules.noPause (by decide)))
    intro _
    apply ensures_bind fun _ w =>
      w.rf.data.toList.take (rf69Frame nodeId toAddress txBuffer bSendAck).length =
          rf69Frame nodeId toAddress txBuffer bSendAck ∧
        WritesOnly nodeId (rf69Frame nodeId toAddress txBuffer bSendAck) w
    · apply ensures_update ensures_quiet
      intro w only
      refine ⟨?_, only.1, only.2⟩
      rw [only.1]
      exact Vector.take_fill w.rf.data room
    · intro _
      apply ensures_bind fun (data : Vector UInt8 rfFifoSize) w =>
        data.toList.take (rf69Frame nodeId toAddress txBuffer bSendAck).length =
            rf69Frame nodeId toAddress txBuffer bSendAck ∧
          WritesOnly nodeId (rf69Frame nodeId toAddress txBuffer bSendAck) w
      · exact ensures_access ensures_quiet fun _ filled => filled
      · intro data
        apply ensures_bind fun _ => WritesOnly nodeId (rf69Frame nodeId toAddress txBuffer bSendAck)
        · rintro w ⟨filled, only⟩
          exact (writeBlock data filled).ensures w only
        · intro _
          apply ensures_bind _ keeps_writesOnly_setMode.ensures
          intro _
          apply ensures_bind _ (Keeps.ensures (rules.tryBool (rules.waitIrq rules.noPause)))
          intro bIsOk
          apply ensures_bind _ keeps_writesOnly_setMode.ensures
          intro _
          exact ensures_pure fun _ => id
  · rw [if_neg isOk]
    exact ensures_pure fun _ => id

end Sending

/-! ### From one node to the other -/

/-- What is expected of a frame in the FIFO of a receiver. -/
def FrameArrives (nodeId toAddress : UInt8) (txBuffer : List UInt8) (bRequestAck bSendAck : Bool)
    (w : Rf69World) : Prop :=
  if w.rf.listensTo toAddress = true then
    ((vRf69Isr w).2.rf.hdr.dest = toAddress ∧ (vRf69Isr w).2.rf.hdr.sender = nodeId ∧
      (vRf69Isr w).2.rf.dataLen.toNat = txBuffer.length ∧
      (vRf69Isr w).2.rf.data.toList.take txBuffer.length = txBuffer) ∧
    (∀ fromNodeId, (iRf69AckReceived quiet quiet fromNodeId (vRf69Isr w).2).1 =
      .ok (if (nodeId = fromNodeId ∨ fromNodeId = rf69BroadcastAddr) ∧ bSendAck = true then 1
        else 0)) ∧
    (iRf69AckRequested quiet (vRf69Isr w).2).1 =
      .ok (if bRequestAck = true ∧ bSendAck = false ∧ toAddress ≠ rf69BroadcastAddr then 1 else 0)
  else (vRf69Isr w).2.rf.hdr.payloadLen = 0

section

variable {ws wr : Rf69World} {toAddress : UInt8} {txBuffer frame : List UInt8}
  {bRequestAck bSendAck : Bool}

/-- The block that is written into the FIFO is the frame. -/
theorem frame_of_written {entry : Rf69Entry}
    (among : entry ∈
      (iRf69SendFrame quiet toAddress txBuffer bRequestAck bSendAck ws.recorded).2.spi)
    (written : entry.transfer = .writeBlock regFifo frame) :
    frame = rf69Frame ws.rf.nodeId toAddress txBuffer bSendAck := by
  have start : WritesOnly ws.rf.nodeId (rf69Frame ws.rf.nodeId toAddress txBuffer bSendAck)
      ws.recorded :=
    ⟨rfl, fun _ among => absurd among List.not_mem_nil⟩
  exact (keeps_sendFrame ws.recorded start).2 entry among frame written

theorem result_of_finishes {before : Rf69World → Prop} {m : Driver ℤ} {result : ℤ} {w : Rf69World}
    (finishes : Finishes before m fun r _ => r = result) (start : before w) :
    (m w).1 = .ok result := by
  rcases finishes.run start with ⟨r, next, runs, rfl⟩
  rw [runs]

theorem requested_eq_iff :
    (Except.ok (if bSendAck = false ∧ toAddress ≠ rf69BroadcastAddr then 1 else 0) :
        Except Stop ℤ) =
      .ok (if bRequestAck = true ∧ bSendAck = false ∧ toAddress ≠ rf69BroadcastAddr then 1
        else 0) ↔
      bRequestAck = true ∨ bSendAck = true ∨ toAddress = rf69BroadcastAddr := by
  by_cases broadcast : toAddress = rf69BroadcastAddr
  · simp [broadcast]
  · cases bRequestAck <;> cases bSendAck <;> simp [broadcast]

/-- The control byte says which of the two frames it is, not whether an answer is wanted. -/
theorem frameArrives_iff (fits : txBuffer.length ≤ rf69MaxDataLen)
    {entry : Rf69Entry}
    (among : entry ∈
      (iRf69SendFrame quiet toAddress txBuffer bRequestAck bSendAck ws.recorded).2.spi)
    (written : entry.transfer = .writeBlock regFifo frame)
    (receives : wr.rf.mode = .rx) (serves : ∀ i, 0 ≤ (wr.env i).fault)
    (ready : (wr.env wr.clock).value &&& rfIrqflags2Payloadready ≠ 0)
    (presented : wr.chip.rxFifo = frame) :
    FrameArrives ws.rf.nodeId toAddress txBuffer bRequestAck bSendAck wr ↔
      wr.rf.listensTo toAddress = false ∨ bRequestAck = true ∨ bSendAck = true ∨
        toAddress = rf69BroadcastAddr := by
  have whole : txBuffer.take rf69MaxDataLen = txBuffer := List.take_of_length_le fits
  have length : (UInt8.ofNat (txBuffer.length + 3)).toNat = txBuffer.length + 3 := by
    have small : txBuffer.length ≤ 61 := fits
    rw [UInt8.toNat_ofNat', Nat.mod_eq_of_lt (by omega)]
  have isFrame : wr.chip.rxFifo = UInt8.ofNat (txBuffer.length + 3) :: toAddress ::
      ws.rf.nodeId :: (if bSendAck then rf69Ack else rf69AckReq) :: txBuffer := by
    rw [presented, frame_of_written among written, rf69Frame, whole]
    rfl
  have hasFrame : HasFrame wr.rf (UInt8.ofNat (txBuffer.length + 3) :: toAddress ::
      ws.rf.nodeId :: (if bSendAck then rf69Ack else rf69AckReq) :: txBuffer) wr :=
    ⟨⟨serves, rfl, isFrame⟩, ready⟩
  have isAck : (if bSendAck then rf69Ack else rf69AckReq) &&& rf69Ack ≠ 0 ↔ bSendAck = true := by
    cases bSendAck <;> decide
  have isAckReq : (if bSendAck then rf69Ack else rf69AckReq) &&& rf69AckReq ≠ 0 ↔
      bSendAck = false := by
    cases bSendAck <;> decide
  have header : (3 : UInt8) ≤ UInt8.ofNat (txBuffer.length + 3) := by
    rw [UInt8.le_iff_toNat_le, length]
    exact Nat.le_add_left 3 _
  rcases finishes_isr receives wr hasFrame with
    ⟨_, after, runs, reached⟩ | ⟨_, _, _, impossible⟩
  · rw [FrameArrives, runs]
    rcases reached with ⟨-, listens, rf', fifo', taken, healthy⟩ | ⟨ignores, zero⟩
    · have arrived := taken.arrived length fits
      have filled : 0 < UInt8.ofNat (txBuffer.length + 3) := by
        rw [UInt8.lt_iff_toNat_lt, length]
        exact Nat.succ_pos _
      have received : ∀ fromNodeId, (iRf69AckReceived quiet quiet fromNodeId after).1 = _ :=
        fun fromNodeId => result_of_finishes
          (finishes_ackReceived arrived filled fromNodeId) healthy
      have requested := result_of_finishes (finishes_ackRequested arrived) healthy
      rw [if_pos listens, healthy.2.1, requested]
      simp only [received, isAck, isAckReq]
      rcases arrived with ⟨-, isHdr, dataLen, data⟩
      rw [isHdr, requested_eq_iff]
      constructor
      · rintro ⟨-, -, same⟩
        exact .inr same
      · rintro (ignores | same)
        · rw [listens] at ignores
          cases ignores
        · exact ⟨⟨rfl, rfl, dataLen, data⟩, fun _ => trivial, same⟩
    · rw [if_neg (by rw [ignores header]; decide)]
      exact iff_of_true zero (.inl (ignores header))
  · exact impossible.elim

end

/-- A node whose module is ready and answers, in this mode and with this in its FIFO. -/
def readyNode (nodeId : UInt8) (mode : ERf69Mode) (fifo : List UInt8) : Rf69World where
  rf := ⟨.replicate 66 0, 0, ⟨0, 0, 0, 0⟩, 0, mode, false, false, true, nodeId, 0⟩
  chip := ⟨mode.opmode, fifo, []⟩
  env _ := ⟨0, rfIrqflags1Modeready ||| rfIrqflags2Payloadready, [], 1, 0, 0⟩
  clock := 0
  muted := false
  spi := []
  events := []
  modes := []
  changes := []

theorem frameArrives_twoBytes :
    FrameArrives 1 2 [10, 20] true false (readyNode 2 .rx [5, 2, 1, rf69AckReq, 10, 20]) := by
  have among : (⟨.writeBlock regFifo [5, 2, 1, rf69AckReq, 10, 20], false, true⟩ : Rf69Entry) ∈
      (iRf69SendFrame quiet 2 [10, 20] true false (readyNode 1 .standby []).recorded).2.spi := by
    decide +kernel
  exact (frameArrives_iff (by decide) among rfl rfl (fun _ => le_refl 0) (by decide) rfl).mpr
    (.inr (.inl rfl))

/-- An answer is asked for that the sender does not want. -/
theorem not_frameArrives_noRequest :
    (⟨.writeBlock regFifo [5, 2, 1, rf69AckReq, 10, 20], false, true⟩ : Rf69Entry) ∈
        (iRf69SendFrame quiet 2 [10, 20] false false (readyNode 1 .standby [])).2.spi ∧
      ¬FrameArrives 1 2 [10, 20] false false
        (readyNode 2 .rx [5, 2, 1, rf69AckReq, 10, 20]) := by
  refine ⟨by decide +kernel, fun arrives => ?_⟩
  rw [FrameArrives, if_pos (by decide)] at arrives
  exact absurd arrives.2.2 (by decide +kernel)

end Sysio.Rf69
