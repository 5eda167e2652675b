import Sysio.Rf69.Driver

/-!
# The poll thread

`vRf69Isr` runs in the thread that watches the interrupt pin, under `rcv_mutex`; of the functions of
the driver `iRf69ReceiveDone` alone takes this lock. Elsewhere the statements of the two threads
take turns. Here the interrupt routine is a script of accesses to the structure and to the module,
so that it may be held between any two of them; its functions are those of the driver under the
same names. The thread takes the lock and looks at the mode in one step.
-/

namespace Sysio.Rf69

/-- A part of the interrupt routine, as operations of the poll thread. -/
abbrev PollScript (α : Type) : Type := Script Rf69Op Rf69Op.Reply α

/-- The poll thread does not look at the result of a transfer before it has tested its sign, or as
an `int`; none of its transfers is reported. -/
def Rf69Op.handle : Script.Handler Rf69Op Rf69Op.Reply Rf69World
  | access, w => (w.rf, w)
  | update write, w => ((), { w with rf := write w.rf })
  | transact transfer, w =>
      let silent := { w with muted := true }
      if (w.env w.clock).fault < 0 then
        (((w.env w.clock).fault, []), { silent.asked transfer with muted := w.muted })
      else
        (w.chip.reply (w.env w.clock).value transfer,
          { silent.served transfer with muted := w.muted })
  | nextAnswer ask, w => (w.env w.clock, w.answered ask)
  | note event, w => ((), { w with events := w.events ++ [event] })
  | noteMode newMode, w => ((), { w with
      modes := w.modes ++ [(newMode, w.chip.opmode, w.rf.mode)]
      changes := w.changes ++ [(w.rf, w.spi)] })

namespace Poll

open Script

variable {α : Type}

/-! ### Single operations -/

/-- Read the structure. -/
def loadStructure : PollScript XRf69 := perform Rf69Op.access

/-- Write to the structure. -/
def update (write : XRf69 → XRf69) : PollScript Unit := perform (Rf69Op.update write)

/-- One transfer. -/
def transact (transfer : Rf69Transfer) : PollScript (ℤ × List UInt8) :=
  perform (Rf69Op.transact transfer)

/-- Ask the environment. -/
def nextAnswer (ask : Rf69Ask) : PollScript Rf69Answer := perform (Rf69Op.nextAnswer ask)

/-- Record an event. -/
def note (event : Rf69Event) : PollScript Unit := perform (Rf69Op.note event)

/-- Record that `iRf69SetMode` returns 0. -/
def noteMode (newMode : ERf69Mode) : PollScript Unit := perform (Rf69Op.noteMode newMode)

/-! ### The functions of the driver -/

/-- Read a part of the structure. -/
def access (read : XRf69 → α) : PollScript α := do
  let rf ← loadStructure
  pure (read rf)

/-- The function of the same name in the poll thread, as are those below. -/
def iRf69ReadReg (reg : UInt8) : PollScript ℤ := do
  let reply ← transact (.readReg reg)
  pure reply.1

/-- A negative number if the transfer fails. -/
def iRf69WriteReg (reg data : UInt8) : PollScript ℤ := do
  let reply ← transact (.writeReg reg data)
  pure reply.1

/-- The bytes that are read go where `write` puts them. -/
def iRf69ReadBlock (reg : UInt8) (len : ℕ) (write : List UInt8 → XRf69 → XRf69) :
    PollScript ℤ := do
  let reply ← transact (.readBlock reg len)
  whenever (0 ≤ reply.1) (update (write reply.2))
  pure reply.1

/-- The result as a `uint8_t`. -/
def tryByte (call : PollScript ℤ) : PollScript UInt8 := do
  let r ← call
  pure (UInt8.ofInt r)

/-- The result is not looked at. -/
def ignored (call : PollScript ℤ) : PollScript Unit := do
  let _ ← call
  pure ()

/-- How often the timer will be found running. -/
def vRf69TimerStart (_timeout : ℤ) : PollScript ℕ := do
  let answer ← nextAnswer .timer
  pure answer.patience

/-- Wait until the module is in its mode. -/
def iRf69WaitForReady (timeout : ℤ) : PollScript ℤ := do
  let turns ← vRf69TimerStart timeout
  let b ← whileRunning turns (tryByte (iRf69ReadReg regIrqflags1))
    fun b => b &&& rfIrqflags1Modeready = 0
  pure (if b &&& rfIrqflags1Modeready ≠ 0 then 1 else 0)

/-- The boost of high power. -/
def iRf69SetHighPowerRegs (bOn : Bool) : PollScript ℤ := called do
  tryInt (iRf69WriteReg regTestpa1 (if bOn then 0x5D else 0x55))
  tryInt (iRf69WriteReg regTestpa2 (if bOn then 0x7C else 0x70))
  pure 0

/-- Restart the receiver. -/
def iRf69AvoidRxDeadLocks : PollScript ℤ := called do
  let b ← tryByte (iRf69ReadReg regPacketconfig2)
  tryInt (iRf69WriteReg regPacketconfig2 (b &&& 0xFB ||| rfPacket2Rxrestart))
  pure 0

/-- The `switch` of `iRf69SetMode`. -/
def rf69SwitchMode (newMode : ERf69Mode) (b : UInt8) : PollScript Unit :=
  match newMode with
  | .tx => do
      tryInt (iRf69WriteReg regOpmode (b ||| rfOpmodeTransmitter))
      let isRfm69hw ← access (·.isRfm69hw)
      whenever isRfm69hw (tryInt (iRf69SetHighPowerRegs true))
  | .rx => do
      tryInt (iRf69WriteReg regOpmode (b ||| rfOpmodeReceiver))
      let isRfm69hw ← access (·.isRfm69hw)
      whenever isRfm69hw (tryInt (iRf69SetHighPowerRegs false))
  | .synth => tryInt (iRf69WriteReg regOpmode (b ||| rfOpmodeSynthesizer))
  | .standby => tryInt (iRf69WriteReg regOpmode (b ||| rfOpmodeStandby))
  | .sleep => tryInt (iRf69WriteReg regOpmode (b ||| rfOpmodeSleep))

/-- The whole of it may be held, between the register and the cache too. -/
def iRf69SetMode (newMode : ERf69Mode) : PollScript ℤ := called do
  let mode ← access (·.mode)
  whenever (newMode ≠ mode) do
    let b ← tryByte (iRf69ReadReg regOpmode)
    rf69SwitchMode newMode (b &&& 0xE3)
    let mode ← access (·.mode)
    whenever (mode = .sleep) (ignored (iRf69WaitForReady 50))
    update fun rf => { rf with mode := newMode }
  noteMode newMode
  pure 0

/-- Without a trigger, as the interrupt routine calls it. -/
def iRf69Rssi : PollScript ℤ := called do
  let b ← tryByte (iRf69ReadReg regRssivalue)
  pure (-(b / 2).toNat)

/-- What was received is forgotten. -/
def iRf69StartReceiving : PollScript ℤ := called do
  update fun rf => { rf with dataLen := 0, hdr := ⟨0, 0, 0, 0⟩, rssi := 0 }
  tryInt iRf69AvoidRxDeadLocks
  let b ← tryByte (iRf69ReadReg regDiomapping1)
  tryInt (iRf69WriteReg regDiomapping1 (b ||| rfDiomapping1Dio0_01))
  iRf69SetMode .rx

/-- The frame is in the structure before the receiver is on again. -/
def rf69TakeFrame (len : ℤ) : PollScript Unit := do
  update fun rf => { rf with hdr := { rf.hdr with payloadLen := UInt8.ofInt len } }
  tryInt (iRf69ReadBlock regFifo (rf69HeaderSize - 1) XRf69.storeHeader)
  let accepts ← access XRf69.accepts
  whenever accepts do
    update fun rf => { rf with dataLen := min rf.hdr.payloadLen 66 - 3 }
    let dataLen ← access (·.dataLen)
    whenever (0 < dataLen) do
      tryInt (iRf69ReadBlock regFifo dataLen.toNat
        fun bytes rf => { rf with data := rf.data.fill bytes })
      whenever (dataLen.toNat < rf69MaxDataLen)
        (update fun rf => { rf with data := rf.data.setIfInBounds dataLen.toNat 0 })
    let hdr ← access (·.hdr)
    note (.received hdr)
    tryInt (iRf69SetMode .rx)
    let rssi ← iRf69Rssi
    whenever (rssi ≠ intMax) (update fun rf => { rf with rssi := rssi })
    returns 0

/-- The interrupt routine. -/
def vRf69Isr : PollScript Unit := voided do
  let mode ← access (·.mode)
  whenever (mode = .rx) do
    let irqflags ← tryByte (iRf69ReadReg regIrqflags2)
    whenever (irqflags &&& rfIrqflags2Payloadready ≠ 0) do
      tryInt (iRf69SetMode .standby)
      let ret ← iRf69ReadReg regFifo
      whenever (3 ≤ ret) (rf69TakeFrame ret)
      update fun rf => { rf with hdr := { rf.hdr with payloadLen := 0 } }
      ignored iRf69StartReceiving

end Poll

/-! ### The two threads -/

/-- If the poll thread is idle, the pin rises for a frame of the environment that is in the FIFO. -/
def Rf69World.begun (w : Rf69World) : Rf69World :=
  if w.isr.isEnded then
    { w.answered .frame with
      chip := { w.chip with rxFifo := (w.env w.clock).frame }
      isr := Poll.vRf69Isr }
  else w

/-- The next operation of the interrupt routine, or the first. -/
def pollStep : Driver Unit := fun w =>
  let stepped := w.begun.isr.advance Rf69Op.handle w.begun
  (.ok (), { stepped.2 with isr := stepped.1 })

/-- The poll thread goes on for as long as the environment lets it. -/
def pollThread : Driver Unit := do
  let answer ← nextAnswer .steps
  answer.steps.rec (pure ()) fun _ later => do
    pollStep
    later

/-- `pthread_mutex_lock (&rf->rcv_mutex)`: the interrupt routine gets to its end before. -/
def lockRcvMutex : Driver Unit := fun w =>
  (.ok (), { (w.isr.run Rf69Op.handle w).2 with isr := .ended (.ok ()) })

/-! ### An interrupt routine that is not held -/

open Script

variable {α β : Type}

/-- Nothing is reported, and no interrupt routine is held. -/
def Rf69World.Alone (w : Rf69World) : Prop := w.muted = true ∧ w.isr.isEnded = true

/-- The script does what the routine does. -/
def Mirrors (script : PollScript α) (m : Driver α) : Prop :=
  ∀ w : Rf69World, w.Alone → script.run Rf69Op.handle w = m w ∧ (m w).2.Alone

section Mirrors

variable {script : PollScript α} {m : Driver α}

theorem mirrors_pure (a : α) : Mirrors (pure a) (pure a) := fun _ alone => ⟨rfl, alone⟩

theorem mirrors_returns (r : ℤ) : Mirrors (Script.returns r : PollScript α) (Routine.returns r) :=
  fun _ alone => ⟨rfl, alone⟩

/-- One after the other. -/
theorem Mirrors.bind {next : α → PollScript β} {f : α → Driver β} (first : Mirrors script m)
    (rest : ∀ a, Mirrors (next a) (f a)) : Mirrors (script >>= next) (m >>= f) := by
  intro w alone
  have ⟨same, aloneThen⟩ := first w alone
  rw [run_andThen]
  rcases ran : m w with ⟨stop | a, w'⟩
  · rw [ran] at same aloneThen
    rw [Routine.bind_of_error ran, Routine.bind_of_error same]
    exact ⟨rfl, aloneThen⟩
  · rw [ran] at same aloneThen
    rw [Routine.bind_of_ok ran, Routine.bind_of_ok same]
    exact rest a w' aloneThen

theorem mirrors_called {script : PollScript ℤ} {m : Driver ℤ} (mirrors : Mirrors script m) :
    Mirrors script.called (Routine.called m) := by
  intro w alone
  have ⟨same, aloneThen⟩ := mirrors w alone
  rw [run_called, Routine.called, Routine.called, same]
  refine ⟨rfl, ?_⟩
  rcases ran : m w with ⟨(r | _) | r, w'⟩ <;> rw [ran] at aloneThen <;> exact aloneThen

theorem mirrors_voided {script : PollScript Unit} {m : Driver Unit} (mirrors : Mirrors script m) :
    Mirrors script.voided (Routine.voided m) := by
  intro w alone
  have ⟨same, aloneThen⟩ := mirrors w alone
  rw [run_voided, Routine.voided, Routine.voided, same]
  refine ⟨rfl, ?_⟩
  rcases ran : m w with ⟨(r | _) | r, w'⟩ <;> rw [ran] at aloneThen <;> exact aloneThen

theorem mirrors_tryInt {script : PollScript ℤ} {m : Driver ℤ} (mirrors : Mirrors script m) :
    Mirrors (tryInt script) (Routine.tryInt m) := by
  have flat : Routine.tryInt m = m >>= fun r =>
      if r < 0 then Routine.returns r else pure () := by
    rw [Routine.tryInt, Routine.tryIntVal, Routine.bind_bind]
    congr 1
    funext r
    by_cases negative : r < 0
    · rw [if_pos negative, if_pos negative]
      rfl
    · rw [if_neg negative, if_neg negative]
      rfl
  rw [flat]
  apply mirrors.bind
  intro r
  by_cases negative : r < 0
  · rw [if_pos negative, if_pos negative]
    exact mirrors_returns r
  · rw [if_neg negative, if_neg negative]
    exact mirrors_pure ()

theorem mirrors_whenever {condition : Bool} {script : PollScript Unit} {m : Driver Unit}
    (mirrors : Mirrors script m) :
    Mirrors (whenever condition script) (Routine.whenever condition m) := by
  cases condition with
  | true => exact mirrors
  | false => exact mirrors_pure ()

theorem mirrors_whileRunning (mirrors : Mirrors script m) (turns : ℕ) (again : α → Bool) :
    Mirrors (whileRunning turns script again) (Routine.whileRunning turns m again) := by
  induction turns with
  | zero => exact mirrors
  | succ turns ih =>
      apply mirrors.bind
      intro a
      by_cases goesOn : again a = true
      · rw [if_pos goesOn, if_pos goesOn]
        exact ih
      · rw [if_neg goesOn, if_neg goesOn]
        exact mirrors_pure a

/-- The poll thread reports nothing anyway. -/
theorem Mirrors.muted (mirrors : Mirrors script m) : Mirrors script (Rf69.muted m) := by
  intro w alone
  have ⟨same, aloneThen⟩ := mirrors w alone
  have already : { w with muted := true } = w := by
    rw [← alone.1]
  have kept : Rf69.muted m w = m w := by
    rw [Rf69.muted, already, alone.1, ← aloneThen.1]
  rw [kept]
  exact ⟨same, aloneThen⟩

end Mirrors

namespace Poll

theorem mirrors_access {read : XRf69 → α} : Mirrors (access read) (Rf69.access quiet read) :=
  fun _ alone => ⟨rfl, alone⟩

theorem mirrors_update {write : XRf69 → XRf69} : Mirrors (update write) (Rf69.update quiet write) :=
  fun _ alone => ⟨rfl, alone⟩

theorem mirrors_nextAnswer {ask : Rf69Ask} : Mirrors (nextAnswer ask) (Rf69.nextAnswer ask) :=
  fun _ alone => ⟨rfl, alone⟩

theorem mirrors_note {event : Rf69Event} : Mirrors (note event) (Rf69.note event) :=
  fun _ alone => ⟨rfl, alone⟩

theorem mirrors_noteMode {newMode : ERf69Mode} :
    Mirrors (noteMode newMode) (Rf69.noteMode newMode) := by
  intro w alone
  have apart : (w.collided || !w.isr.isEnded) = w.collided := by
    rw [alone.2]
    exact Bool.or_false _
  refine ⟨?_, alone⟩
  rw [Rf69.noteMode, Rf69World.noted, apart]
  rfl

theorem mirrors_transact {transfer : Rf69Transfer} :
    Mirrors (transact transfer) (Rf69.transact transfer) := by
  intro w alone
  have already : { w with muted := true } = w := by
    rw [← alone.1]
  have runs : (transact transfer).run Rf69Op.handle w =
      (.ok (Rf69Op.handle (.transact transfer) w).1, (Rf69Op.handle (.transact transfer) w).2) :=
    rfl
  rw [runs, Rf69Op.handle, Rf69.transact, already]
  by_cases failed : (w.env w.clock).fault < 0
  · rw [if_pos failed, if_pos failed]
    exact ⟨rfl, alone⟩
  · rw [if_neg failed, if_neg failed]
    exact ⟨rfl, alone⟩

theorem mirrors_readReg {reg : UInt8} :
    Mirrors (iRf69ReadReg reg) (Rf69.iRf69ReadReg quiet reg) := by
  exact mirrors_transact.bind fun reply => mirrors_pure reply.1

theorem mirrors_writeReg {reg data : UInt8} :
    Mirrors (iRf69WriteReg reg data) (Rf69.iRf69WriteReg quiet reg data) :=
  mirrors_transact.bind fun reply => mirrors_pure reply.1

theorem mirrors_readBlock {reg : UInt8} {len : ℕ} {write : List UInt8 → XRf69 → XRf69} :
    Mirrors (iRf69ReadBlock reg len write) (Rf69.iRf69ReadBlock quiet reg len write) :=
  mirrors_transact.bind fun reply => (mirrors_whenever mirrors_update).bind fun _ =>
    mirrors_pure reply.1

theorem mirrors_tryByte {script : PollScript ℤ} {m : Driver ℤ} (mirrors : Mirrors script m) :
    Mirrors (tryByte script) (Rf69.tryByte m) :=
  mirrors.muted.bind fun r => mirrors_pure (UInt8.ofInt r)

theorem mirrors_ignored {script : PollScript ℤ} {m : Driver ℤ} (mirrors : Mirrors script m) :
    Mirrors (ignored script) (Rf69.ignored m) :=
  mirrors.muted.bind fun _ => mirrors_pure ()

theorem mirrors_write {reg data : UInt8} :
    Mirrors (tryInt (iRf69WriteReg reg data))
      (Routine.tryInt (Rf69.iRf69WriteReg quiet reg data)) :=
  mirrors_tryInt mirrors_writeReg

theorem mirrors_waitForReady {timeout : ℤ} :
    Mirrors (iRf69WaitForReady timeout) (Rf69.iRf69WaitForReady quiet timeout) := by
  apply (mirrors_nextAnswer.bind fun answer => mirrors_pure answer.patience).bind
  intro turns
  exact (mirrors_whileRunning (mirrors_tryByte mirrors_readReg) turns _).bind fun b =>
    mirrors_pure _

theorem mirrors_setHighPowerRegs {bOn : Bool} :
    Mirrors (iRf69SetHighPowerRegs bOn) (Rf69.iRf69SetHighPowerRegs quiet bOn) :=
  mirrors_called (mirrors_write.bind fun _ => mirrors_write.bind fun _ => mirrors_pure 0)

theorem mirrors_avoidRxDeadLocks :
    Mirrors iRf69AvoidRxDeadLocks (Rf69.iRf69AvoidRxDeadLocks quiet) :=
  mirrors_called ((mirrors_tryByte mirrors_readReg).bind fun _ =>
    mirrors_write.bind fun _ => mirrors_pure 0)

theorem mirrors_switchMode {newMode : ERf69Mode} {b : UInt8} :
    Mirrors (rf69SwitchMode newMode b) (Rf69.rf69SwitchMode quiet newMode b) := by
  have amplified : ∀ bOn (isRfm69hw : Bool),
      Mirrors (whenever isRfm69hw (tryInt (iRf69SetHighPowerRegs bOn)))
        (Routine.whenever isRfm69hw (Routine.tryInt (Rf69.iRf69SetHighPowerRegs quiet bOn))) :=
    fun _ _ => mirrors_whenever (mirrors_tryInt mirrors_setHighPowerRegs)
  cases newMode with
  | tx => exact mirrors_write.bind fun _ => mirrors_access.bind (amplified true)
  | rx => exact mirrors_write.bind fun _ => mirrors_access.bind (amplified false)
  | synth => exact mirrors_write
  | standby => exact mirrors_write
  | sleep => exact mirrors_write

/-- The changes of mode do the same. -/
theorem mirrors_setMode {newMode : ERf69Mode} :
    Mirrors (iRf69SetMode newMode) (Rf69.iRf69SetMode quiet newMode) := by
  apply mirrors_called
  apply mirrors_access.bind
  intro mode
  apply Mirrors.bind
  · apply mirrors_whenever
    apply (mirrors_tryByte mirrors_readReg).bind
    intro b
    apply mirrors_switchMode.bind
    intro _
    apply mirrors_access.bind
    intro mode
    apply (mirrors_whenever (mirrors_ignored mirrors_waitForReady)).bind
    intro _
    exact mirrors_update
  · intro _
    exact mirrors_noteMode.bind fun _ => mirrors_pure 0

theorem mirrors_rssi : Mirrors iRf69Rssi (Rf69.iRf69Rssi quiet false) :=
  mirrors_called ((mirrors_tryByte mirrors_readReg).bind fun _ => mirrors_pure _)

theorem mirrors_startReceiving :
    Mirrors iRf69StartReceiving (Rf69.iRf69StartReceiving quiet) := by
  apply mirrors_called
  apply mirrors_update.bind
  intro _
  apply (mirrors_tryInt mirrors_avoidRxDeadLocks).bind
  intro _
  apply (mirrors_tryByte mirrors_readReg).bind
  intro b
  exact mirrors_write.bind fun _ => mirrors_setMode

/-- So does the rest of the interrupt routine. -/
theorem mirrors_takeFrame {len : ℤ} : Mirrors (rf69TakeFrame len) (Rf69.rf69TakeFrame len) := by
  apply mirrors_update.bind
  intro _
  apply (mirrors_tryInt mirrors_readBlock).bind
  intro _
  apply mirrors_access.bind
  intro accepts
  apply mirrors_whenever
  apply mirrors_update.bind
  intro _
  apply mirrors_access.bind
  intro dataLen
  apply Mirrors.bind
  · apply mirrors_whenever
    apply (mirrors_tryInt mirrors_readBlock).bind
    intro _
    exact mirrors_whenever mirrors_update
  · intro _
    apply mirrors_access.bind
    intro hdr
    apply mirrors_note.bind
    intro _
    apply (mirrors_tryInt mirrors_setMode).bind
    intro _
    apply mirrors_rssi.muted.bind
    intro rssi
    apply (mirrors_whenever mirrors_update).bind
    intro _
    exact mirrors_returns 0

/-- The interrupt routine that is not held anywhere. -/
theorem mirrors_isr : Mirrors vRf69Isr Rf69.vRf69Isr := by
  apply mirrors_voided
  apply mirrors_access.bind
  intro mode
  apply mirrors_whenever
  apply (mirrors_tryByte mirrors_readReg).bind
  intro irqflags
  apply mirrors_whenever
  apply (mirrors_tryInt mirrors_setMode).bind
  intro _
  apply mirrors_readReg.muted.bind
  intro ret
  apply (mirrors_whenever mirrors_takeFrame).bind
  intro _
  apply mirrors_update.bind
  intro _
  exact mirrors_ignored mirrors_startReceiving

end Poll

/-- With another script held, and the results reported or not. -/
def Rf69World.holding (w : Rf69World) (isr : PollScript Unit) (flag : Bool) : Rf69World :=
  { w with
    isr := isr
    muted := flag }

theorem handle_holding (op : Rf69Op) (w : Rf69World) (isr : PollScript Unit) (flag : Bool) :
    op.handle (w.holding isr flag) = ((op.handle w).1, (op.handle w).2.holding isr flag) := by
  cases op with
  | transact transfer =>
      by_cases failed : (w.env w.clock).fault < 0
      · have held : Rf69Op.handle (.transact transfer) (w.holding isr flag) = _ := if_pos failed
        have free : Rf69Op.handle (.transact transfer) w = _ := if_pos failed
        rw [held, free]
        rfl
      · have held : Rf69Op.handle (.transact transfer) (w.holding isr flag) = _ := if_neg failed
        have free : Rf69Op.handle (.transact transfer) w = _ := if_neg failed
        rw [held, free]
        rfl
  | _ => rfl

/-- What is held of another script does not matter. -/
theorem run_holding (script : PollScript α) (w : Rf69World) (isr : PollScript Unit) (flag : Bool) :
    script.run Rf69Op.handle (w.holding isr flag) =
      ((script.run Rf69Op.handle w).1, (script.run Rf69Op.handle w).2.holding isr flag) := by
  induction script generalizing w with
  | ended outcome => rfl
  | next op rest ih =>
      rw [run_next, run_next, handle_holding]
      exact ih _ _

/-- An interrupt routine that is begun by the idle poll thread and waited for is `interrupt`. -/
theorem pollStep_lock_eq {w : Rf69World} (idle : w.isr = .ended (.ok ())) :
    ((pollStep >>= fun _ => lockRcvMutex) w).2 = (interrupt w).2 := by
  let arrived : Rf69World :=
    { w.answered .frame with chip := { w.chip with rxFifo := (w.env w.clock).frame } }
  let ran := (Poll.vRf69Isr.run Rf69Op.handle arrived).2
  have isBegun : w.begun = arrived.holding Poll.vRf69Isr w.muted := by
    rw [Rf69World.begun, idle]
    rfl
  have locked : ((pollStep >>= fun _ => lockRcvMutex) w).2 = ran.holding w.isr w.muted := by
    -- the first operation only looks at the structure
    let left := (Poll.vRf69Isr.advance Rf69Op.handle arrived).1
    have steps : pollStep w = (.ok (), arrived.holding left w.muted) := by
      rw [pollStep, isBegun]
      rfl
    have rest : left.run Rf69Op.handle (arrived.holding left w.muted) =
        Poll.vRf69Isr.run Rf69Op.handle (arrived.holding left w.muted) :=
      run_advance Poll.vRf69Isr (arrived.holding left w.muted)
    rw [Routine.bind_of_ok steps, lockRcvMutex]
    change ((left.run Rf69Op.handle (arrived.holding left w.muted)).2.holding (.ended (.ok ()))
      (left.run Rf69Op.handle (arrived.holding left w.muted)).2.muted) = _
    rw [rest, run_holding, idle]
    rfl
  have alone : (arrived.holding w.isr true).Alone := by
    refine ⟨rfl, ?_⟩
    change w.isr.isEnded = true
    rw [idle]
    rfl
  have same := (Poll.mirrors_isr _ alone).1
  rw [run_holding] at same
  rw [locked]
  change _ = { (Rf69.vRf69Isr (arrived.holding w.isr true)).2 with muted := w.muted }
  rw [← same]
  rfl

end Sysio.Rf69
