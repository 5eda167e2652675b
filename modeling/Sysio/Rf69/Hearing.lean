import Sysio.Rf69.PollThread
import Sysio.Rf69.Modes
import Mathlib.Data.List.Induction

/-!
# What the interrupt routine makes of a frame

The interrupt routine at any point, with transfers that fail anywhere: all that it does to what is
known of the driver is to receive frames. When it ends, the header in the structure is that of the
last frame that it has taken if the receiver is on.
-/

namespace Sysio.Rf69

open Script

/-- A packet was sent. -/
def Rf69Event.isSent : Rf69Event → Bool
  | sent _ => true
  | _ => false

/-- A wait for a free channel ended. -/
def Rf69Event.isWaited : Rf69Event → Bool
  | waited _ => true
  | _ => false

/-- The headers received since a packet was sent last. -/
def Rf69Event.hear (heard : List XRf69Header) : Rf69Event → List XRf69Header
  | waited _ => heard
  | sent _ => []
  | received hdr => hdr :: heard

/-- The headers that have been received since the last transmission. -/
def heard (events : List Rf69Event) : List XRf69Header := events.foldl Rf69Event.hear []

theorem heard_append (events : List Rf69Event) (event : Rf69Event) :
    heard (events ++ [event]) = event.hear (heard events) := by
  rw [heard, heard, List.foldl_append]
  rfl

/-- What is heard was received, and nothing was sent since. -/
theorem exists_received_of_mem_heard {hdr : XRf69Header} {events : List Rf69Event}
    (among : hdr ∈ heard events) :
    ∃ before after, events = before ++ .received hdr :: after ∧
      after.any Rf69Event.isSent = false := by
  induction events using List.reverseRecOn with
  | nil => exact absurd among List.not_mem_nil
  | append_singleton events event ih =>
      rw [heard_append] at among
      have later : hdr ∈ heard events → event.isSent = false →
          ∃ before after, events ++ [event] = before ++ .received hdr :: after ∧
            after.any Rf69Event.isSent = false := by
        intro early unsent
        rcases ih early with ⟨before, after, rfl, none_⟩
        refine ⟨before, after ++ [event], by simp, ?_⟩
        rw [List.any_append, none_, List.any_cons, unsent]
        rfl
      cases event with
      | waited free => exact later among rfl
      | sent packet => exact absurd among List.not_mem_nil
      | received hdr' =>
          rcases List.mem_cons.mp among with rfl | early
          · exact ⟨events, [], rfl, rfl⟩
          · exact later early rfl

/-- What was received is heard until something is sent. -/
theorem mem_heard_of_received {hdr : XRf69Header} {before after : List Rf69Event}
    (unsent : after.any Rf69Event.isSent = false) :
    hdr ∈ heard (before ++ .received hdr :: after) := by
  induction after using List.reverseRecOn with
  | nil =>
      rw [heard_append]
      exact List.mem_cons_self ..
  | append_singleton after event ih =>
      rw [List.any_append, Bool.or_eq_false_iff] at unsent
      have early := ih unsent.1
      rw [← List.cons_append, ← List.append_assoc, heard_append]
      cases event with
      | waited free => exact early
      | sent packet => cases unsent.2
      | received hdr' => exact List.mem_cons_of_mem _ early

/-- The structure of the driver, the packet in the FIFO, and what has been received since the last
transmission. -/
structure Rf69View where
  rf : XRf69
  txFifo : List UInt8
  heard : List XRf69Header

/-- What there is to know of a world. -/
def Rf69World.view (w : Rf69World) : Rf69View := ⟨w.rf, w.chip.txFifo, heard w.events⟩

/-- Any transfer may reply anything. -/
def pollSpec : Spec Rf69Op Rf69Op.Reply Rf69View
  | .access, holds, v => holds v.rf v
  | .update write, holds, v => holds () { v with rf := write v.rf }
  | .transact _, holds, v => ∀ reply, holds reply v
  | .nextAnswer _, holds, v => ∀ answer, holds answer v
  | .note event, holds, v => holds () { v with heard := event.hear v.heard }
  | .noteMode _, holds, v => holds () v

theorem pollSpec_monotone : pollSpec.Monotone := by
  intro op holds holds' follows v reached
  cases op with
  | access => exact follows _ _ reached
  | update write => exact follows _ _ reached
  | transact transfer => exact fun reply => follows reply v (reached reply)
  | nextAnswer ask => exact fun answer => follows answer v (reached answer)
  | note event => exact follows _ _ reached
  | noteMode newMode => exact follows _ _ reached

theorem pollSpec_total : pollSpec.Total := by
  intro op v
  cases op with
  | transact transfer => exact fun _ => trivial
  | nextAnswer ask => exact fun _ => trivial
  | _ => trivial

/-- It sends nothing, leaves the FIFO to the sender, and notes only what it receives. -/
def Rf69Op.IsHarmless : Rf69Op → Prop
  | .update write => ∀ rf, (write rf).nodeId = rf.nodeId
  | .transact transfer =>
      (∀ reg data, transfer ≠ .writeBlock reg data) ∧
        ∀ chip : Rf69Module, chip.transmits transfer = []
  | .note event => ∃ hdr, event = .received hdr
  | _ => True

theorem after_txFifo {chip : Rf69Module} {transfer : Rf69Transfer}
    (spares : ∀ reg data, transfer ≠ .writeBlock reg data) :
    (chip.after transfer).txFifo = chip.txFifo := by
  cases transfer with
  | readReg reg => exact apply_ite Rf69Module.txFifo _ _ _ |>.trans (ite_self _)
  | writeReg reg data => exact apply_ite Rf69Module.txFifo _ _ _ |>.trans (ite_self _)
  | readBlock reg len => exact apply_ite Rf69Module.txFifo _ _ _ |>.trans (ite_self _)
  | writeBlock reg data => exact absurd rfl (spares reg data)

theorem events_served {w : Rf69World} {transfer : Rf69Transfer}
    (sends : w.chip.transmits transfer = []) : (w.served transfer).events = w.events := by
  change w.events ++ w.chip.transmits transfer = w.events
  rw [sends, List.append_nil]

/-- A transfer that leaves the FIFO for sending, and sends nothing, is not seen. -/
theorem view_served {w : Rf69World} {transfer : Rf69Transfer}
    (sameFifo : (w.chip.after transfer).txFifo = w.chip.txFifo)
    (sends : w.chip.transmits transfer = []) : (w.served transfer).view = w.view := by
  rw [Rf69World.view, events_served sends]
  exact congrArg (fun fifo => (⟨w.rf, fifo, heard w.events⟩ : Rf69View)) sameFifo

/-- The view has a harmless operation do just what the specification says. -/
theorem pollSpec_sound : pollSpec.Sound Rf69Op.handle Rf69World.view Rf69Op.IsHarmless := by
  intro op harmless holds w reached
  cases op with
  | transact transfer =>
      by_cases failed : (w.env w.clock).fault < 0
      · have handled : Rf69Op.handle (.transact transfer) w = _ := if_pos failed
        rw [handled]
        exact reached _
      · have handled : Rf69Op.handle (.transact transfer) w = _ := if_neg failed
        have same : (w.served transfer).view = w.view :=
          view_served (after_txFifo harmless.1) (harmless.2 w.chip)
        have view : (Rf69Op.handle (.transact transfer) w).2.view = w.view := by
          rw [handled, ← same]
          rfl
        rw [view, handled]
        exact reached _
  | note event =>
      have view : (Rf69Op.handle (.note event) w).2.view =
          { w.view with heard := event.hear w.view.heard } :=
        congrArg (fun heard => (⟨w.rf, w.chip.txFifo, heard⟩ : Rf69View))
          (heard_append w.events event)
      rw [view]
      exact reached
  | access => exact reached
  | update write => exact reached
  | nextAnswer ask => exact reached _
  | noteMode newMode => exact reached

theorem transmits_of_other {chip : Rf69Module} {reg data : UInt8} (other : reg ≠ regOpmode) :
    chip.transmits (.writeReg reg data) = [] := if_neg fun both => other both.1

/-- A change to another mode does not switch the transmitter on. -/
theorem opmode_ne_transmitter {newMode : ERf69Mode} (notTx : newMode ≠ .tx) (b : UInt8) :
    (b &&& 0xE3 ||| newMode.opmode) &&& rfOpmodeMask ≠ rfOpmodeTransmitter := by
  rw [opmode_bits]
  cases newMode with
  | tx => exact absurd rfl notTx
  | sleep => decide
  | standby => decide
  | synth => decide
  | rx => decide

/-- Of a frame that is in the structure while the receiver is on. -/
def Pending (got : XRf69Header → List XRf69Header → Prop) (v : Rf69View) : Prop :=
  v.rf.mode = .rx → 0 < v.rf.hdr.payloadLen → got v.rf.hdr v.heard

/-- The header in the structure is that of a frame received since the last transmission. -/
def Caught (v : Rf69View) : Prop := v.rf.hdr ∈ v.heard

/-- There is no payload. -/
def Cleared (v : Rf69View) : Prop := v.rf.hdr.payloadLen = 0

/-- The receiver is off. -/
def Resting (v : Rf69View) : Prop := v.rf.mode ≠ .rx

section Pending

variable {got : XRf69Header → List XRf69Header → Prop} {v : Rf69View}

theorem Resting.pending (resting : Resting v) : Pending got v :=
  fun isRx => absurd isRx resting

theorem Cleared.pending (cleared : Cleared v) : Pending got v := by
  intro _ taken
  rw [show v.rf.hdr.payloadLen = 0 from cleared] at taken
  exact absurd taken (by decide)

end Pending

namespace Poll

variable {α : Type}

/-! ### Nothing but harmless operations -/

/-- Nothing is sent, and no wait ends. -/
abbrev IsHarmless (script : PollScript α) : Prop := script.All Rf69Op.IsHarmless

theorem harmless_access {read : XRf69 → α} : IsHarmless (access read) :=
  all_bind (all_perform trivial) fun rf => all_pure (read rf)

theorem harmless_update {write : XRf69 → XRf69} (sameNode : ∀ rf, (write rf).nodeId = rf.nodeId) :
    IsHarmless (update write) := all_perform sameNode

theorem harmless_readByte {reg : UInt8} : IsHarmless (tryByte (iRf69ReadReg reg)) := by
  have reads : IsHarmless (iRf69ReadReg reg) :=
    all_bind (all_perform ⟨nofun, fun _ => rfl⟩) fun reply => all_pure reply.1
  exact all_bind reads fun r => all_pure _

theorem harmless_write {reg data : UInt8} (spares : ∀ chip : Rf69Module,
    chip.transmits (.writeReg reg data) = []) : IsHarmless (tryInt (iRf69WriteReg reg data)) :=
  all_tryInt (all_bind (all_perform ⟨nofun, spares⟩) fun reply => all_pure reply.1)

theorem harmless_readBlock {reg : UInt8} {len : ℕ} {write : List UInt8 → XRf69 → XRf69}
    (sameNode : ∀ bytes rf, (write bytes rf).nodeId = rf.nodeId) :
    IsHarmless (tryInt (iRf69ReadBlock reg len write)) :=
  all_tryInt (all_bind (all_perform ⟨nofun, fun _ => rfl⟩) fun reply =>
    all_bind (all_whenever (harmless_update (sameNode reply.2))) fun _ => all_pure reply.1)

theorem harmless_waitForReady {timeout : ℤ} : IsHarmless (ignored (iRf69WaitForReady timeout)) := by
  have turns : IsHarmless (vRf69TimerStart timeout) :=
    all_bind (all_perform trivial) fun answer => all_pure answer.patience
  have waits : IsHarmless (iRf69WaitForReady timeout) :=
    all_bind turns fun _ => all_bind (all_whileRunning harmless_readByte) fun _ => all_pure _
  exact all_bind waits fun _ => all_pure ()

/-- Only a change to Tx sends anything. -/
theorem harmless_setMode {newMode : ERf69Mode} (notTx : newMode ≠ .tx) :
    IsHarmless (iRf69SetMode newMode) := by
  have opmode : ∀ b : UInt8, IsHarmless
      (tryInt (iRf69WriteReg regOpmode (b &&& 0xE3 ||| newMode.opmode))) := fun b =>
    harmless_write fun _ => if_neg fun both => opmode_ne_transmitter notTx b both.2
  have amplified : ∀ bOn (isRfm69hw : Bool),
      IsHarmless (whenever isRfm69hw (tryInt (iRf69SetHighPowerRegs bOn))) := by
    intro bOn isRfm69hw
    apply all_whenever
    apply all_tryInt
    apply all_through
    apply all_bind (harmless_write fun _ => transmits_of_other (by decide))
    intro _
    apply all_bind (harmless_write fun _ => transmits_of_other (by decide))
    intro _
    exact all_pure 0
  have switches : ∀ b : UInt8, IsHarmless (rf69SwitchMode newMode (b &&& 0xE3)) := by
    intro b
    cases newMode with
    | tx => exact absurd rfl notTx
    | rx =>
        apply all_bind (opmode b)
        intro _
        exact all_bind harmless_access (amplified false)
    | synth => exact opmode b
    | standby => exact opmode b
    | sleep => exact opmode b
  apply all_through
  apply all_bind harmless_access
  intro mode
  apply all_bind
  · apply all_whenever
    apply all_bind harmless_readByte
    intro b
    apply all_bind (switches b)
    intro _
    apply all_bind harmless_access
    intro mode
    apply all_bind (all_whenever harmless_waitForReady)
    intro _
    exact harmless_update fun _ => rfl
  · intro _
    exact all_bind (all_perform trivial) fun _ => all_pure 0

theorem harmless_startReceiving : IsHarmless iRf69StartReceiving := by
  have restarts : IsHarmless iRf69AvoidRxDeadLocks :=
    all_through (all_bind harmless_readByte fun _ =>
      all_bind (harmless_write fun _ => transmits_of_other (by decide)) fun _ => all_pure 0)
  apply all_through
  apply all_bind (harmless_update (by exact fun _ => rfl))
  intro _
  apply all_bind (all_tryInt restarts)
  intro _
  apply all_bind harmless_readByte
  intro b
  apply all_bind (harmless_write fun _ => transmits_of_other (by decide))
  intro _
  exact harmless_setMode (by decide)

theorem harmless_takeFrame {len : ℤ} : IsHarmless (rf69TakeFrame len) := by
  apply all_bind (harmless_update (by exact fun _ => rfl))
  intro _
  apply all_bind (harmless_readBlock (by exact fun _ _ => rfl))
  intro _
  apply all_bind harmless_access
  intro accepts
  apply all_whenever
  apply all_bind (harmless_update (by exact fun _ => rfl))
  intro _
  apply all_bind harmless_access
  intro dataLen
  apply all_bind
  · apply all_whenever
    apply all_bind (harmless_readBlock (by exact fun _ _ => rfl))
    intro _
    exact all_whenever (harmless_update (by exact fun _ => rfl))
  · intro _
    apply all_bind harmless_access
    intro hdr
    apply all_bind (all_perform ⟨hdr, rfl⟩)
    intro _
    apply all_bind (all_tryInt (harmless_setMode (by decide)))
    intro _
    have level : IsHarmless iRf69Rssi :=
      all_through (all_bind harmless_readByte fun _ => all_pure _)
    apply all_bind level
    intro rssi
    exact all_bind (all_whenever (harmless_update (by exact fun _ => rfl))) fun _ => trivial

/-- The interrupt routine does nothing but harmless operations. -/
theorem harmless_isr : IsHarmless vRf69Isr := by
  have readLength : IsHarmless (iRf69ReadReg regFifo) :=
    all_bind (all_perform ⟨nofun, fun _ => rfl⟩) fun reply => all_pure reply.1
  apply all_through
  apply all_bind harmless_access
  intro mode
  apply all_whenever
  apply all_bind harmless_readByte
  intro irqflags
  apply all_whenever
  apply all_bind (all_tryInt (harmless_setMode (by decide)))
  intro _
  apply all_bind readLength
  intro ret
  apply all_bind (all_whenever harmless_takeFrame)
  intro _
  apply all_bind (harmless_update (by exact fun _ => rfl))
  intro _
  exact all_bind harmless_startReceiving fun _ => all_pure ()

/-! ### Where the interrupt routine leads -/

section Leads

variable {before before' after : Rf69View → Prop} {early : Stop → Rf69View → Prop}

/-- `Script.Ensures` of the poll thread. -/
abbrev Ensures (before : Rf69View → Prop) (script : PollScript α) (after : α → Rf69View → Prop)
    (early : Stop → Rf69View → Prop) : Prop := Script.Ensures pollSpec before script after early

theorem ensures_next {β : Type} {script : PollScript β} {f : β → PollScript α}
    {after : α → Rf69View → Prop} (middle : β → Rf69View → Prop)
    (first : Ensures before script middle early)
    (second : ∀ b, Ensures (middle b) (f b) after early) :
    Ensures before (script >>= f) after early :=
  ensures_bind pollSpec_monotone middle first second

theorem ensures_access {read : XRf69 → α} :
    Ensures before (access read) (fun a v => before v ∧ read v.rf = a) early :=
  fun _ holds => ⟨holds, rfl⟩

theorem ensures_update {write : XRf69 → XRf69}
    (writes : ∀ v, before v → after { v with rf := write v.rf }) :
    Ensures before (update write) (fun _ => after) early := writes

theorem ensures_note {event : Rf69Event}
    (notes : ∀ v, before v → after { v with heard := event.hear v.heard }) :
    Ensures before (note event) (fun _ => after) early := notes

theorem ensures_noteMode {newMode : ERf69Mode} :
    Ensures before (noteMode newMode) (fun _ => before) early := fun _ => id

/-- The registers are of no interest. -/
theorem ensures_transact {transfer : Rf69Transfer} :
    Ensures before (transact transfer) (fun _ => before) early := fun _ holds _ => holds

theorem ensures_readReg {reg : UInt8} :
    Ensures before (iRf69ReadReg reg) (fun _ => before) early :=
  ensures_next _ ensures_transact fun _ => ensures_pure fun _ => id

theorem ensures_readByte {reg : UInt8} :
    Ensures before (tryByte (iRf69ReadReg reg)) (fun _ => before) early :=
  ensures_next _ ensures_readReg fun _ => ensures_pure fun _ => id

/-- The function has returned a negative value. -/
def FailsFrom (before : Rf69View → Prop) (stop : Stop) (v : Rf69View) : Prop :=
  ∃ r, stop = .returned r ∧ r < 0 ∧ before v

theorem ensures_trying {call : PollScript ℤ}
    (calls : Ensures before call (fun _ => before) (FailsFrom before)) :
    Ensures before (tryInt call) (fun _ => before) (FailsFrom before) :=
  ensures_tryInt pollSpec_monotone _ calls (fun _ _ holds _ => holds)
    fun r _ holds negative => ⟨r, rfl, negative, holds⟩

theorem ensures_write {reg data : UInt8} :
    Ensures before (tryInt (iRf69WriteReg reg data)) (fun _ => before) (FailsFrom before) :=
  ensures_trying (ensures_next _ ensures_transact fun _ => ensures_pure fun _ => id)

theorem ensures_readBlock {reg : UInt8} {len : ℕ} {write : List UInt8 → XRf69 → XRf69}
    (writes : ∀ bytes v, before v → before { v with rf := write bytes v.rf }) :
    Ensures before (tryInt (iRf69ReadBlock reg len write)) (fun _ => before)
      (FailsFrom before) := by
  apply ensures_trying
  apply ensures_next _ ensures_transact
  intro reply
  apply ensures_next fun _ => before
  · apply ensures_whenever
    · exact fun _ => ensures_update (writes reply.2)
    · exact fun _ _ => id
  · exact fun _ => ensures_pure fun _ => id

theorem ensures_waitForReady {timeout : ℤ} :
    Ensures before (ignored (iRf69WaitForReady timeout)) (fun _ => before) early := by
  have timer : Ensures before (vRf69TimerStart timeout) (fun _ => before) early :=
    fun _ holds _ => holds
  have waits : Ensures before (iRf69WaitForReady timeout) (fun _ => before) early := by
    apply ensures_next _ timer
    intro turns
    apply ensures_next fun _ => before
    · apply ensures_whileRunning pollSpec_monotone
      apply ensures_readByte.weaken pollSpec_monotone (fun _ => id) _ fun _ _ => id
      exact fun _ _ holds => ⟨holds, fun _ => holds⟩
    · exact fun _ => ensures_pure fun _ => id
  exact ensures_next _ waits fun _ => ensures_pure fun _ => id

/-- What a function does that ends early only when it fails. -/
theorem ensures_calling {body : PollScript ℤ} {after : ℤ → Rf69View → Prop}
    (ensures : Ensures before body after (FailsFrom before))
    (fails : ∀ r v, r < 0 → before v → after r v) :
    Ensures before body.called after early := by
  apply ensures_called pollSpec_monotone
  apply ensures.weaken pollSpec_monotone (fun _ => id) fun _ _ => id
  rintro stop v ⟨r, isReturn, negative, holds⟩
  exact ⟨r, isReturn, fails r v negative holds⟩

theorem ensures_setHighPowerRegs {bOn : Bool} :
    Ensures before (tryInt (iRf69SetHighPowerRegs bOn)) (fun _ => before) (FailsFrom before) := by
  apply ensures_trying
  apply ensures_calling _ fun _ _ _ => id
  apply ensures_next _ ensures_write
  intro _
  apply ensures_next _ ensures_write
  exact fun _ => ensures_pure fun _ => id

theorem ensures_switchMode {newMode : ERf69Mode} {b : UInt8} :
    Ensures before (rf69SwitchMode newMode b) (fun _ => before) (FailsFrom before) := by
  have amplified : ∀ bOn (isRfm69hw : Bool), Ensures
      (fun v => before v ∧ v.rf.isRfm69hw = isRfm69hw)
      (whenever isRfm69hw (tryInt (iRf69SetHighPowerRegs bOn))) (fun _ => before)
      (FailsFrom before) := by
    intro bOn isRfm69hw
    apply ensures_whenever
    · exact fun _ => ensures_setHighPowerRegs.weaken pollSpec_monotone (fun _ => And.left)
        (fun _ _ => id) fun _ _ => id
    · exact fun _ _ => And.left
  cases newMode with
  | tx =>
      apply ensures_next _ ensures_write
      intro _
      exact ensures_next _ ensures_access (amplified true)
  | rx =>
      apply ensures_next _ ensures_write
      intro _
      exact ensures_next _ ensures_access (amplified false)
  | synth => exact ensures_write
  | standby => exact ensures_write
  | sleep => exact ensures_write

/-- The mode is stored last. -/
theorem ensures_setMode {newMode : ERf69Mode}
    (stores : ∀ v, before v → after { v with rf := { v.rf with mode := newMode } }) :
    Ensures before (iRf69SetMode newMode)
      (fun r v => (r = 0 ∧ after v) ∨ (r < 0 ∧ before v)) early := by
  apply ensures_calling _ fun _ _ negative holds => .inr ⟨negative, holds⟩
  apply ensures_next _ ensures_access
  intro mode
  apply ensures_next fun _ => after
  · apply ensures_whenever
    · intro _
      apply ensures_next fun _ => before
      · exact ensures_readByte.weaken pollSpec_monotone (fun _ => And.left) (fun _ _ => id)
          fun _ _ => id
      · intro b
        apply ensures_next _ ensures_switchMode
        intro _
        apply ensures_next _ ensures_access
        intro mode
        apply ensures_next fun _ => before
        · apply ensures_whenever
          · intro _
            exact ensures_waitForReady.weaken pollSpec_monotone (fun _ => And.left) (fun _ _ => id)
              fun _ _ => id
          · exact fun _ _ => And.left
        · exact fun _ => ensures_update stores
    · rintro same v ⟨holds, isMode⟩
      have isNew : newMode = mode := by simpa using same
      have stored := stores v holds
      rw [isNew, ← isMode] at stored
      exact stored
  · intro _
    apply ensures_next _ ensures_noteMode
    exact fun _ => ensures_pure fun _ reached => .inl ⟨rfl, reached⟩

theorem ensures_trySetMode {newMode : ERf69Mode}
    (stores : ∀ v, before v → after { v with rf := { v.rf with mode := newMode } }) :
    Ensures before (tryInt (iRf69SetMode newMode)) (fun _ => after) (FailsFrom before) := by
  apply ensures_tryInt pollSpec_monotone _ (ensures_setMode stores)
  · rintro r v (⟨-, reached⟩ | ⟨negative, -⟩) nonneg
    · exact reached
    · exact absurd negative (Int.not_lt.mpr nonneg)
  · rintro r v (⟨rfl, -⟩ | ⟨-, holds⟩) negative
    · exact absurd negative (lt_irrefl 0)
    · exact ⟨r, rfl, negative, holds⟩

/-- The header is cleared first, so that whatever fails it stays so. -/
theorem ensures_startReceiving :
    Ensures before (ignored iRf69StartReceiving) (fun _ => Cleared) early := by
  have changes : Ensures Cleared (iRf69SetMode .rx)
      (fun r v => (r = 0 ∧ Cleared v) ∨ (r < 0 ∧ Cleared v)) (FailsFrom Cleared) :=
    ensures_setMode fun _ cleared => cleared
  have sets : Ensures Cleared (iRf69SetMode .rx) (fun _ => Cleared) (FailsFrom Cleared) :=
    changes.weaken pollSpec_monotone (fun _ => id) (fun _ _ ended => ended.elim And.right And.right)
      fun _ _ => id
  have restarts : Ensures Cleared iRf69AvoidRxDeadLocks (fun _ => Cleared)
      (FailsFrom Cleared) := by
    apply ensures_calling _ fun _ _ _ => id
    apply ensures_next _ ensures_readByte
    intro b
    apply ensures_next _ ensures_write
    exact fun _ => ensures_pure fun _ => id
  have starts : Ensures before iRf69StartReceiving (fun _ => Cleared) early := by
    apply ensures_called pollSpec_monotone
    apply ensures_next fun _ => Cleared
    · exact ensures_update fun _ _ => rfl
    · intro _
      apply Ensures.weaken pollSpec_monotone _ (fun _ => id) (fun _ _ => id)
      · exact fun stop v (failed : FailsFrom Cleared stop v) =>
          failed.imp fun r ended => ⟨ended.1, ended.2.2⟩
      · apply ensures_next _ (ensures_trying restarts)
        intro _
        apply ensures_next _ ensures_readByte
        intro b
        exact ensures_next _ ensures_write fun _ => sets
  exact ensures_next _ starts fun _ => ensures_pure fun _ => id

/-- How `vRf69Isr` may return where it takes a frame. -/
def Taking (stop : Stop) (v : Rf69View) : Prop := ∃ r, stop = .returned r ∧ (Resting v ∨ Caught v)

/-- The frame that is taken is recorded before the receiver is on again. -/
theorem ensures_takeFrame {len : ℤ} :
    Ensures Resting (rf69TakeFrame len) (fun _ => Resting) Taking := by
  have store : ∀ write : XRf69 → XRf69, (∀ rf, (write rf).mode = rf.mode) →
      Ensures Resting (update write) (fun _ => Resting) Taking := by
    intro write same
    exact ensures_update fun v resting => ne_of_eq_of_ne (same v.rf) resting
  have readBlock : ∀ (len : ℕ) (write : List UInt8 → XRf69 → XRf69),
      (∀ bytes rf, (write bytes rf).mode = rf.mode) →
      Ensures Resting (tryInt (iRf69ReadBlock regFifo len write)) (fun _ => Resting) Taking := by
    intro len write same
    apply (ensures_readBlock _).weaken pollSpec_monotone (fun _ => id) (fun _ _ => id)
    · rintro stop v ⟨r, isReturn, -, resting⟩
      exact ⟨r, isReturn, .inl resting⟩
    · exact fun bytes v resting => ne_of_eq_of_ne (same bytes v.rf) resting
  have read : ∀ {β : Type} (read : XRf69 → β),
      Ensures Resting (access read) (fun _ => Resting) Taking := fun read =>
    ensures_access.weaken pollSpec_monotone (fun _ => id) (fun _ _ => And.left) fun _ _ => id
  apply ensures_next _ (store _ (by exact fun _ => rfl))
  intro _
  apply ensures_next _ (readBlock _ _ (by exact fun _ _ => rfl))
  intro _
  apply ensures_next _ (read _)
  intro accepts
  apply ensures_whenever
  · intro _
    apply ensures_next _ (store _ (by exact fun _ => rfl))
    intro _
    apply ensures_next _ (read _)
    intro dataLen
    apply ensures_next fun _ => Resting
    · apply ensures_whenever
      · intro _
        apply ensures_next _ (readBlock _ _ (by exact fun _ _ => rfl))
        intro _
        apply ensures_whenever
        · exact fun _ => store _ (by exact fun _ => rfl)
        · exact fun _ _ => id
      · exact fun _ _ => id
    · intro _
      apply ensures_next _ ensures_access
      intro hdr
      apply ensures_next fun _ v => Resting v ∧ Caught v
      · apply ensures_note
        rintro v ⟨resting, rfl⟩
        exact ⟨resting, List.mem_cons_self⟩
      · intro _
        apply ensures_next fun _ => Caught
        · apply (ensures_trySetMode _).weaken pollSpec_monotone (fun _ => id) (fun _ _ => id)
          · rintro stop v ⟨r, isReturn, -, resting, -⟩
            exact ⟨r, isReturn, .inl resting⟩
          · exact fun v caught => caught.2
        · intro _
          have level : Ensures Caught iRf69Rssi (fun _ => Caught) Taking := by
            apply ensures_calling _ fun _ _ _ => id
            exact ensures_next _ ensures_readByte fun _ => ensures_pure fun _ => id
          apply ensures_next _ level
          intro rssi
          apply ensures_next fun _ => Caught
          · apply ensures_whenever
            · exact fun _ => ensures_update fun v caught => caught
            · exact fun _ _ => id
          · exact fun _ => ensures_returns fun v caught => ⟨0, rfl, .inr caught⟩
  · exact fun _ _ => id

/-- The interrupt routine keeps a payload pending that is there, and takes new ones. -/
theorem ensures_isr {got : XRf69Header → List XRf69Header → Prop}
    (fresh : ∀ hdr heard, hdr ∈ heard → got hdr heard) :
    Ensures (Pending got) vRf69Isr (fun _ => Pending got) early := by
  have failing : ∀ stop v, FailsFrom (Pending got) stop v →
      ∃ r, stop = .returned r ∧ Pending got v :=
    fun stop v failed => failed.imp fun r ended => ⟨ended.1, ended.2.2⟩
  apply ensures_voided pollSpec_monotone
  apply ensures_next fun _ => Pending got
  · exact ensures_access.weaken pollSpec_monotone (fun _ => id) (fun _ _ => And.left) fun _ _ => id
  · intro mode
    apply ensures_whenever
    · intro _
      apply ensures_next _ ensures_readByte
      intro irqflags
      apply ensures_whenever
      · intro _
        apply ensures_next fun _ => Resting
        · apply (ensures_trySetMode _).weaken pollSpec_monotone (fun _ => id) (fun _ _ => id)
            failing
          exact fun _ _ => nofun
        · intro _
          apply ensures_next _ ensures_readReg
          intro ret
          apply ensures_next fun _ => Resting
          · apply ensures_whenever
            · intro _
              apply ensures_takeFrame.weaken pollSpec_monotone (fun _ => id) (fun _ _ => id)
              rintro stop v ⟨r, isReturn, resting | caught⟩
              · exact ⟨r, isReturn, resting.pending⟩
              · exact ⟨r, isReturn, fun _ _ => fresh _ _ caught⟩
            · exact fun _ _ => id
          · intro _
            apply ensures_next fun _ => Resting
            · exact ensures_update fun _ resting => resting
            · intro _
              exact ensures_startReceiving.weaken pollSpec_monotone (fun _ => id)
                (fun _ _ => Cleared.pending) fun _ _ => id
      · exact fun _ _ => id
    · exact fun _ _ => id

end Leads

end Poll

end Sysio.Rf69
