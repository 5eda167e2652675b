import Sysio.Rf69.Hearing
import Mathlib.Data.List.Chain

/-!
# What is heard between transmissions

The receiving side of `iRf69SendWithRetry`, with the poll thread at any point of the interrupt
routine and transfers that fail anywhere. While the thread is idle and the receiver off, nothing
comes in; otherwise the interrupt routine may be anywhere, and what is known is where it leads.
-/

namespace Sysio.Rf69

open Routine

/-- The packet of a node, how often the channel has been waited for, and whether it has become free
for a transmission that is still to come. -/
structure Rf69Tally where
  nodeId : UInt8
  packet : List UInt8
  attempts : ℕ
  owed : ℕ

/-- Nothing is owed. -/
def Rf69Tally.settled (tally : Rf69Tally) : Rf69Tally := { tally with owed := 0 }

/-- A wait has ended, with a free channel or without. -/
def Rf69Tally.waited (tally : Rf69Tally) (free : Bool) : Rf69Tally :=
  { tally with
    attempts := tally.attempts + 1
    owed := free.toNat }

/-- Wherever the channel has become free, the packet has been sent. -/
def Rf69Tally.Counts (tally : Rf69Tally) (events : List Rf69Event) : Prop :=
  events.countP Rf69Event.isWaited = tally.attempts ∧
    events.count (.waited true) = events.countP Rf69Event.isSent + tally.owed ∧
    ∀ packet, .sent packet ∈ events → packet = tally.packet

section Counts

variable {tally : Rf69Tally} {events : List Rf69Event}

/-- What is received does not count. -/
theorem Rf69Tally.Counts.received (counts : tally.Counts events) (hdr : XRf69Header) :
    tally.Counts (events ++ [.received hdr]) := by
  simpa [Rf69Tally.Counts, Rf69Event.isWaited, Rf69Event.isSent] using counts

/-- A wait that ends is an attempt, which owes a transmission if the channel is free. -/
theorem Rf69Tally.Counts.waited (counts : tally.settled.Counts events) (free : Bool) :
    (tally.waited free).Counts (events ++ [.waited free]) := by
  cases free <;> simpa [Rf69Tally.Counts, Rf69Tally.settled, Rf69Tally.waited,
    Rf69Event.isWaited, Rf69Event.isSent] using counts

/-- A transmission settles what is owed. -/
theorem Rf69Tally.Counts.sent (counts : tally.Counts events) (owes : tally.owed = 1) :
    tally.settled.Counts (events ++ [.sent tally.packet]) := by
  rcases counts with ⟨waits, sends, packets⟩
  refine ⟨?_, ?_, fun packet among => ?_⟩
  · simpa [Rf69Tally.settled, Rf69Event.isWaited] using waits
  · simpa [Rf69Tally.settled, Rf69Event.isSent, owes] using sends
  · rcases List.mem_append.mp among with before | new
    · exact packets packet before
    · cases List.mem_singleton.mp new
      rfl

end Counts

/-! ### The environment -/

/-- What a `uint8_t` makes of the result of reading a register. -/
def Rf69Answer.byte (answer : Rf69Answer) : UInt8 :=
  UInt8.ofInt (if answer.fault < 0 then answer.fault else answer.value.toNat)

/-- The module shows at this look that it is not ready. -/
def LooksUnready (ask : Rf69Ask × Rf69Answer) : Prop :=
  ask.1 = .transfer (.readReg regIrqflags1) ∧ ask.2.byte &&& rfIrqflags1Modeready = 0

/-- No timer is started right behind a look at a module that is not ready: it is looked at again. -/
def LooksAgain (ask later : Rf69Ask × Rf69Answer) : Prop := LooksUnready ask → later.1 ≠ .timer

instance (ask : Rf69Ask × Rf69Answer) : Decidable (LooksUnready ask) :=
  inferInstanceAs (Decidable (_ ∧ _))

instance : DecidableRel LooksAgain := fun _ _ => inferInstanceAs (Decidable (_ → _))

/-- The interrupt pin has always been found low, the module has become ready before it was given up,
and `iRf69SetMode` has not set the mode while the interrupt routine was under way. -/
structure Fair (w : Rf69World) : Prop where
  low : ∀ ask ∈ w.asks, ask.1 = .pin → ask.2.pin = 0
  patient : w.asks.IsChain LooksAgain
  apart : w.collided = false

section Fair

variable {w w' : Rf69World}

/-- What is fair in the end has been fair before. -/
theorem Fair.earlier {more : List (Rf69Ask × Rf69Answer)} (fair : Fair w')
    (asks : w'.asks = w.asks ++ more) (collided : w'.collided = w.collided) : Fair w := by
  have chain := fair.patient
  rw [asks] at chain
  refine ⟨fun ask among => fair.low ask ?_, chain.left_of_append, collided ▸ fair.apart⟩
  rw [asks]
  exact List.mem_append_left _ among

theorem Fair.answered {ask : Rf69Ask} (fair : Fair (w.answered ask)) : Fair w :=
  fair.earlier rfl rfl

theorem Fair.asked {transfer : Rf69Transfer} (fair : Fair (w.asked transfer)) : Fair w :=
  fair.earlier rfl rfl

theorem Fair.served {transfer : Rf69Transfer} (fair : Fair (w.served transfer)) : Fair w :=
  fair.earlier rfl rfl

/-- The mode has been set with the poll thread idle. -/
theorem Fair.noted {newMode : ERf69Mode} (fair : Fair (w.noted newMode)) :
    Fair w ∧ w.isr.isEnded = true := by
  have apart : (w.collided || !w.isr.isEnded) = false := fair.apart
  rw [Bool.or_eq_false_iff, Bool.not_eq_false'] at apart
  exact ⟨⟨fair.low, fair.patient, apart.1⟩, apart.2⟩

theorem Fair.handled {op : Rf69Op} (fair : Fair (op.handle w).2) : Fair w := by
  cases op with
  | transact transfer =>
      by_cases failed : (w.env w.clock).fault < 0
      · have handled : Rf69Op.handle (.transact transfer) w = _ := if_pos failed
        rw [handled] at fair
        exact fair.earlier rfl rfl
      · have handled : Rf69Op.handle (.transact transfer) w = _ := if_neg failed
        rw [handled] at fair
        exact fair.earlier rfl rfl
  | nextAnswer ask => exact fair.answered
  | access => exact fair
  | update write => exact ⟨fair.low, fair.patient, fair.apart⟩
  | note event => exact ⟨fair.low, fair.patient, fair.apart⟩
  | noteMode newMode => exact ⟨fair.low, fair.patient, fair.apart⟩

theorem Fair.advanced {script : PollScript Unit} (fair : Fair (script.advance Rf69Op.handle w).2) :
    Fair w := by
  cases script with
  | ended outcome => exact fair
  | next op rest => exact fair.handled

theorem Fair.ran {script : PollScript Unit} (fair : Fair (script.run Rf69Op.handle w).2) :
    Fair w := by
  induction script generalizing w with
  | ended outcome => exact fair
  | next op rest ih => exact (ih _ fair).handled

theorem Fair.begun (fair : Fair w.begun) : Fair w := by
  by_cases idle : w.isr.isEnded = true
  · rw [Rf69World.begun, if_pos idle] at fair
    exact fair.earlier rfl rfl
  · rw [Rf69World.begun, if_neg idle] at fair
    exact fair

end Fair

/-! ### The two threads -/

/-- What is known of the driver, of the packet in the FIFO and of what has been received. -/
abbrev Rf69Known : Type := Rf69View → Prop

/-- How the attempts stand with the poll thread idle, and what else is known. -/
structure Attempted (tally : Rf69Tally) (known : Rf69Known) (w : Rf69World) : Prop where
  nodeId : w.rf.nodeId = tally.nodeId
  counts : tally.Counts w.events
  idle : w.isr.isEnded = true
  known : known w.view

/-- How the attempts stand with the poll thread anywhere. -/
structure Listened (tally : Rf69Tally) (got : XRf69Header → List XRf69Header → Prop)
    (w : Rf69World) : Prop where
  nodeId : w.rf.nodeId = tally.nodeId
  counts : tally.Counts w.events
  harmless : Poll.IsHarmless w.isr
  leads : w.isr.Leads pollSpec (fun _ => Pending got) w.view

/-- The attempts made so far are those of the tally, and more is known of the world. -/
def Attempting (tally : Rf69Tally) (known : Rf69Known) (w : Rf69World) : Prop :=
  Fair w → Attempted tally known w

/-- Unless an assumption on the poll thread fails, the attempts stand as the tally says. -/
def Listening (tally : Rf69Tally) (got : XRf69Header → List XRf69Header → Prop)
    (w : Rf69World) : Prop :=
  Fair w → Listened tally got w

/-- It has been received since the last transmission. -/
def Fresh (hdr : XRf69Header) (heard : List XRf69Header) : Prop := hdr ∈ heard

/-- Whatever has been received. -/
def Anything (_ : XRf69Header) (_ : List XRf69Header) : Prop := True

/-- The driver is in Standby. -/
def Standing : Rf69Known := fun v => v.rf.mode = .standby

/-- Both are known. -/
def Both (known known' : Rf69Known) : Rf69Known := fun v => known v ∧ known' v

variable {tally : Rf69Tally} {known known' : Rf69Known} {newMode : ERf69Mode} {irq : Driver Unit}
  {got : XRf69Header → List XRf69Header → Prop} {w : Rf69World} {early : Stop → Rf69World → Prop}

theorem Standing.resting {v : Rf69View} (standing : Standing v) : Resting v := by
  intro isRx
  rw [show v.rf.mode = .standby from standing] at isRx
  cases isRx

theorem Attempted.weaken (attempted : Attempted tally known w)
    (follows : ∀ v, known v → known' v) : Attempted tally known' w :=
  ⟨attempted.nodeId, attempted.counts, attempted.idle, follows _ attempted.known⟩

theorem Attempting.weaken (attempting : Attempting tally known w)
    (follows : ∀ v, known v → known' v) : Attempting tally known' w :=
  fun fair => (attempting fair).weaken follows

/-- An idle poll thread leads nowhere else. -/
theorem Attempting.listening (attempting : Attempting tally (Pending got) w) :
    Listening tally got w := by
  intro fair
  rcases attempting fair with ⟨isNode, counts, idle, pending⟩
  rcases isr : w.isr with outcome | ⟨op, rest⟩
  · refine ⟨isNode, counts, ?_, ?_⟩
    · rw [isr]
      trivial
    · rw [isr]
      exact pending
  · rw [isr] at idle
    cases idle

theorem Listening.weaken {got' : XRf69Header → List XRf69Header → Prop}
    (listening : Listening tally got w) (follows : ∀ hdr heard, got hdr heard → got' hdr heard) :
    Listening tally got' w := by
  intro fair
  rcases listening fair with ⟨isNode, counts, harmless, leads⟩
  refine ⟨isNode, counts, harmless, leads.weaken pollSpec_monotone fun _ v pending isRx taken => ?_⟩
  exact follows _ _ (pending isRx taken)

theorem Attempting.asked (transfer : Rf69Transfer) (attempting : Attempting tally known w) :
    Attempting tally known (w.asked transfer) := by
  intro fair
  rcases attempting fair.asked with ⟨isNode, counts, idle, isKnown⟩
  exact ⟨isNode, counts, idle, isKnown⟩

theorem Listening.asked (transfer : Rf69Transfer) (listening : Listening tally got w) :
    Listening tally got (w.asked transfer) := by
  intro fair
  rcases listening fair.asked with ⟨isNode, counts, harmless, leads⟩
  exact ⟨isNode, counts, harmless, leads⟩

/-- A transfer that leaves the packet in the FIFO and sends nothing. -/
theorem Attempting.served {transfer : Rf69Transfer} (attempting : Attempting tally known w)
    (sameFifo : (w.chip.after transfer).txFifo = w.chip.txFifo)
    (sends : w.chip.transmits transfer = []) : Attempting tally known (w.served transfer) := by
  intro fair
  rcases attempting fair.served with ⟨isNode, counts, idle, isKnown⟩
  refine ⟨isNode, ?_, idle, ?_⟩
  · rw [events_served sends]
    exact counts
  · rw [view_served sameFifo sends]
    exact isKnown

theorem Listening.served {transfer : Rf69Transfer} (listening : Listening tally got w)
    (sameFifo : (w.chip.after transfer).txFifo = w.chip.txFifo)
    (sends : w.chip.transmits transfer = []) : Listening tally got (w.served transfer) := by
  intro fair
  rcases listening fair.served with ⟨isNode, counts, harmless, leads⟩
  refine ⟨isNode, ?_, harmless, ?_⟩
  · rw [events_served sends]
    exact counts
  · rw [view_served sameFifo sends]
    exact leads

theorem IsPlain.sparesFifo {chip : Rf69Module} {transfer : Rf69Transfer}
    (plain : transfer.IsPlain) :
    (chip.after transfer).txFifo = chip.txFifo ∧ chip.transmits transfer = [] := by
  cases transfer with
  | readReg reg => exact ⟨after_txFifo nofun, rfl⟩
  | writeReg reg data =>
      exact ⟨after_txFifo nofun, transmits_of_other fun isOpmode => plain (.inl isOpmode)⟩
  | readBlock reg len => exact plain.elim
  | writeBlock reg data => exact plain.elim

/-- What is known of an idle poll thread is left alone by the registers. -/
theorem attempting_frame : Rf69Frame (Attempting tally known) where
  nextAnswer _ _ attempting fair := by
    rcases attempting fair.answered with ⟨isNode, counts, idle, isKnown⟩
    exact ⟨isNode, counts, idle, isKnown⟩
  muted _ _ attempting fair := by
    rcases attempting ⟨fair.low, fair.patient, fair.apart⟩ with ⟨isNode, counts, idle, isKnown⟩
    exact ⟨isNode, counts, idle, isKnown⟩
  fails _ transfer _ _ attempting := attempting.asked transfer
  serves _ _ plain _ attempting :=
    attempting.served (IsPlain.sparesFifo plain).1 (IsPlain.sparesFifo plain).2

/-- So is what is known of one under way. -/
theorem listening_frame : Rf69Frame (Listening tally got) where
  nextAnswer _ _ listening fair := by
    rcases listening fair.answered with ⟨isNode, counts, harmless, leads⟩
    exact ⟨isNode, counts, harmless, leads⟩
  muted _ _ listening fair := by
    rcases listening ⟨fair.low, fair.patient, fair.apart⟩ with ⟨isNode, counts, harmless, leads⟩
    exact ⟨isNode, counts, harmless, leads⟩
  fails _ transfer _ _ listening := listening.asked transfer
  serves _ _ plain _ listening :=
    listening.served (IsPlain.sparesFifo plain).1 (IsPlain.sparesFifo plain).2

theorem attempting_update {write : XRf69 → XRf69}
    (pauses : Finishes (Attempting tally known) irq fun _ => Attempting tally known)
    (sameNode : ∀ rf, (write rf).nodeId = rf.nodeId)
    (writes : ∀ v, v.rf.nodeId = tally.nodeId → known v → known' { v with rf := write v.rf }) :
    Ensures (Attempting tally known) (update irq write) (fun _ => Attempting tally known')
      early := by
  apply ensures_update pauses.ensures
  intro w attempting fair
  rcases attempting ⟨fair.low, fair.patient, fair.apart⟩ with ⟨isNode, counts, idle, isKnown⟩
  exact ⟨(sameNode w.rf).trans isNode, counts, idle, writes _ isNode isKnown⟩

theorem attempting_access {α : Type} {read : XRf69 → α}
    (pauses : Finishes (Attempting tally known) irq fun _ => Attempting tally known) :
    Ensures (Attempting tally known) (access irq read)
      (fun a => Attempting tally (Both known fun v => read v.rf = a)) early := by
  apply ensures_access pauses.ensures
  intro w attempting fair
  rcases attempting fair with ⟨isNode, counts, idle, isKnown⟩
  exact ⟨isNode, counts, idle, isKnown, rfl⟩

/-! ### The poll thread goes on -/

/-- What a harmless operation leaves alone. -/
theorem Rf69Op.IsHarmless.leaves {op : Rf69Op} (harmless : op.IsHarmless)
    (counts : tally.Counts w.events) :
    (op.handle w).2.rf.nodeId = w.rf.nodeId ∧ tally.Counts (op.handle w).2.events := by
  cases op with
  | transact transfer =>
      by_cases failed : (w.env w.clock).fault < 0
      · have handled : Rf69Op.handle (.transact transfer) w = _ := if_pos failed
        rw [handled]
        exact ⟨rfl, counts⟩
      · have handled : Rf69Op.handle (.transact transfer) w = _ := if_neg failed
        rw [handled]
        refine ⟨rfl, ?_⟩
        change tally.Counts (w.served transfer).events
        rw [events_served (harmless.2 w.chip)]
        exact counts
  | update write => exact ⟨harmless w.rf, counts⟩
  | note event =>
      rcases harmless with ⟨hdr, rfl⟩
      exact ⟨rfl, counts.received hdr⟩
  | access => exact ⟨rfl, counts⟩
  | nextAnswer ask => exact ⟨rfl, counts⟩
  | noteMode newMode => exact ⟨rfl, counts⟩

/-- An interrupt routine that begins leads to where it has to. -/
theorem listening_begun (fresh : ∀ hdr heard, hdr ∈ heard → got hdr heard)
    (listening : Listening tally got w) : Listening tally got w.begun := by
  intro fair
  rcases listening fair.begun with ⟨isNode, counts, harmless, leads⟩
  by_cases idle : w.isr.isEnded = true
  · rw [Rf69World.begun, if_pos idle]
    refine ⟨isNode, counts, Poll.harmless_isr, ?_⟩
    have pending : Pending got w.view := by
      rcases isr : w.isr with outcome | ⟨op, rest⟩
      · rw [isr] at leads
        exact leads
      · rw [isr] at idle
        cases idle
    have started := @Poll.ensures_isr (fun _ => Pending got) got fresh w.view pending
    apply started.weaken pollSpec_monotone
    rintro (stop | _) v reached
    · exact reached
    · exact reached
  · rw [Rf69World.begun, if_neg idle]
    exact ⟨isNode, counts, harmless, leads⟩

/-- So it does after each of its operations. -/
theorem listening_pollStep (fresh : ∀ hdr heard, hdr ∈ heard → got hdr heard) :
    Finishes (Listening tally got) pollStep fun _ => Listening tally got := by
  intro w listening
  refine .inl ⟨(), _, rfl, fun fair => ?_⟩
  have advanced : Fair (w.begun.isr.advance Rf69Op.handle w.begun).2 :=
    ⟨fair.low, fair.patient, fair.apart⟩
  rcases listening_begun fresh listening advanced.advanced with ⟨isNode, counts, harmless, leads⟩
  have kept : (w.begun.isr.advance Rf69Op.handle w.begun).2.rf.nodeId = w.begun.rf.nodeId ∧
      tally.Counts (w.begun.isr.advance Rf69Op.handle w.begun).2.events := by
    rcases isr : w.begun.isr with outcome | ⟨op, rest⟩
    · exact ⟨rfl, counts⟩
    · rw [isr] at harmless
      exact harmless.1.leaves counts
  exact ⟨kept.1.trans isNode, kept.2, harmless.advance, leads.advance pollSpec_sound harmless⟩

/-- With the receiver off there is nothing to handle. -/
theorem attempting_pollStep (rests : ∀ v, known v → Resting v) :
    Finishes (Attempting tally known) pollStep fun _ => Attempting tally known := by
  intro w attempting
  refine .inl ⟨(), _, rfl, fun fair => ?_⟩
  have advanced : Fair (w.begun.isr.advance Rf69Op.handle w.begun).2 :=
    ⟨fair.low, fair.patient, fair.apart⟩
  rcases attempting advanced.advanced.begun with ⟨isNode, counts, idle, isKnown⟩
  have isOther : decide (w.rf.mode = .rx) = false := decide_eq_false (rests _ isKnown)
  have isBegun : w.begun = { w.answered .frame with
      chip := { w.chip with rxFifo := (w.env w.clock).frame }
      isr := Poll.vRf69Isr } := by
    rw [Rf69World.begun, if_pos idle]
  rw [isBegun]
  refine ⟨isNode, counts, ?_, isKnown⟩
  change (Script.voided (Script.whenever (decide (w.rf.mode = .rx)) _)).isEnded = true
  rw [isOther]
  rfl

/-- What one step keeps, any number of steps keeps. -/
theorem finishes_pollThread {invariant : Rf69World → Prop} (frame : Rf69Frame invariant)
    (step : Finishes invariant pollStep fun _ => invariant) :
    Finishes invariant pollThread fun _ => invariant := by
  apply ensures_bind fun _ => invariant
  · exact ensures_nextAnswer fun w => frame.nextAnswer w _
  · intro answer
    induction answer.steps with
    | zero => exact ensures_pure fun _ => id
    | succ count later =>
        apply ensures_bind _ step
        intro _
        exact later

/-- The poll thread may go on for as long as it likes. -/
theorem listening_pollThread (fresh : ∀ hdr heard, hdr ∈ heard → got hdr heard) :
    Finishes (Listening tally got) pollThread fun _ => Listening tally got :=
  finishes_pollThread listening_frame (listening_pollStep fresh)

/-- With the receiver off an interrupt routine ends without a trace. -/
theorem attempting_pollThread (rests : ∀ v, known v → Resting v) :
    Finishes (Attempting tally known) pollThread fun _ => Attempting tally known :=
  finishes_pollThread attempting_frame (attempting_pollStep rests)

/-- The interrupt routine has got to where it has been leading. -/
theorem listening_lock :
    Finishes (Listening tally got) lockRcvMutex
      fun _ => Attempting tally (Pending got) := by
  intro w listening
  refine .inl ⟨(), _, rfl, fun fair => ?_⟩
  have ran : Fair (w.isr.run Rf69Op.handle w).2 := ⟨fair.low, fair.patient, fair.apart⟩
  rcases listening ran.ran with ⟨isNode, counts, harmless, leads⟩
  have keeps : Keeps (fun s => s.rf.nodeId = tally.nodeId ∧ tally.Counts s.events)
      (w.isr.run Rf69Op.handle) :=
    Script.All.keeps (fun op isHarmless s holds =>
      ⟨(isHarmless.leaves holds.2).1.trans holds.1, (isHarmless.leaves holds.2).2⟩) harmless
  have kept := keeps w ⟨isNode, counts⟩
  exact ⟨kept.1, kept.2, rfl, leads.run pollSpec_sound harmless⟩

/-! ### A change of mode -/

/-- The steps of a change of mode, with the receiver off before and after. -/
theorem attempting_change (notTx : newMode ≠ .tx)
    (pauses : Finishes (Attempting tally known) irq fun _ => Attempting tally known)
    (stores : ∀ v, known v → known' { v with rf := { v.rf with mode := newMode } }) :
    Rf69ModeChange irq newMode (Attempting tally known) (Attempting tally known)
      (Attempting tally known') (Attempting tally known') Rf69World.HasFailed where
  frame := attempting_frame
  frameSwitched := attempting_frame
  pauses := pauses
  pausesSwitched := pauses
  opmodeFails _ _ failed _ := hasFailed_asked failed
  opmodeServed _ b attempting :=
    attempting.served (after_txFifo nofun) (if_neg fun both => opmode_ne_transmitter notTx b both.2)
  testpaFails _ _ _ _ failed _ := hasFailed_asked failed
  testpaServed _ reg data isTestpa attempting := by
    refine attempting.served (after_txFifo nofun) (transmits_of_other ?_)
    rcases isTestpa with rfl | rfl <;> decide
  stores w attempting fair := by
    rcases attempting ⟨fair.low, fair.patient, fair.apart⟩ with ⟨isNode, counts, idle, isKnown⟩
    exact ⟨isNode, counts, idle, stores _ isKnown⟩
  skips w attempting isMode fair := by
    rcases attempting fair with ⟨isNode, counts, idle, isKnown⟩
    subst isMode
    exact ⟨isNode, counts, idle, stores _ isKnown⟩
  notes w attempting fair := by
    rcases attempting fair.noted.1 with ⟨isNode, counts, idle, isKnown⟩
    exact ⟨isNode, counts, idle, isKnown⟩

/-- Where the interrupt routine may be, the mode is set for good only if it has not been under way
then. -/
theorem listening_change (fresh : ∀ hdr heard, hdr ∈ heard → got hdr heard) :
    Rf69ModeChange pollThread .standby (Listening tally got) (Listening tally got)
      (fun w => Fair w → w.isr.isEnded = true → Attempted tally Standing w)
      (Attempting tally Standing) (fun w => Listening tally got w ∧ w.HasFailed) where
  frame := listening_frame
  frameSwitched := listening_frame
  pauses := listening_pollThread fresh
  pausesSwitched := listening_pollThread fresh
  opmodeFails _ _ failed listening := ⟨listening.asked _, hasFailed_asked failed⟩
  opmodeServed _ b listening :=
    listening.served (after_txFifo nofun)
      (if_neg fun both => opmode_ne_transmitter (by decide) b both.2)
  testpaFails _ _ _ _ failed listening := ⟨listening.asked _, hasFailed_asked failed⟩
  testpaServed _ reg data isTestpa listening := by
    refine listening.served (after_txFifo nofun) (transmits_of_other ?_)
    rcases isTestpa with rfl | rfl <;> decide
  stores w listening fair idle := by
    rcases listening ⟨fair.low, fair.patient, fair.apart⟩ with ⟨isNode, counts, -, -⟩
    exact ⟨isNode, counts, idle, rfl⟩
  skips w listening isMode fair idle := by
    rcases listening fair with ⟨isNode, counts, -, -⟩
    exact ⟨isNode, counts, idle, isMode⟩
  notes w stored fair := by
    rcases stored fair.noted.1 fair.noted.2 with ⟨isNode, counts, idle, isKnown⟩
    exact ⟨isNode, counts, idle, isKnown⟩

/-- A body that fails for no other reason than a transfer makes a function that does so. -/
theorem finishes_failing {body : Driver ℤ} {before : Rf69World → Prop}
    {after : ℤ → Rf69World → Prop} (ensures : Ensures before body after Fails)
    (failed : ∀ r w, r < 0 → w.HasFailed → after r w) : Finishes before (called body) after := by
  apply finishes_called
  apply ensures.weaken (fun _ => id) (fun _ _ => id)
  rintro stop w ⟨r, isReturn, negative, hasFailed⟩
  exact ⟨r, isReturn, failed r w negative hasFailed⟩

theorem attempting_trySetMode (notTx : newMode ≠ .tx)
    (pauses : Finishes (Attempting tally known) irq fun _ => Attempting tally known)
    (stores : ∀ v, known v → known' { v with rf := { v.rf with mode := newMode } }) :
    Ensures (Attempting tally known) (tryInt (iRf69SetMode irq newMode))
      (fun _ => Attempting tally known') Fails :=
  (attempting_change notTx pauses stores).trySetMode

/-- Behind a change to Standby the poll thread is idle, or it has collided. -/
theorem listening_trySetMode (fresh : ∀ hdr heard, hdr ∈ heard → got hdr heard) :
    Ensures (Listening tally got) (tryInt (iRf69SetMode pollThread .standby))
      (fun _ => Attempting tally Standing) Fails := by
  apply (listening_change fresh).trySetMode.weaken (fun _ => id) (fun _ _ => id)
  rintro stop w ⟨r, isReturn, negative, -, hasFailed⟩
  exact ⟨r, isReturn, negative, hasFailed⟩

/-! ### What the code makes of what it has heard -/

/-- The header is that of an acknowledgement by this node. -/
def XRf69Header.IsAckFrom (hdr : XRf69Header) (fromNodeId : UInt8) : Prop :=
  (hdr.sender = fromNodeId ∨ fromNodeId = rf69BroadcastAddr) ∧ hdr.ctl &&& rf69Ack ≠ 0

/-- It has been received since the last transmission, unless the environment is not fair. -/
def Acked (fromNodeId : UInt8) (w : Rf69World) : Prop :=
  Fair w → ∃ hdr : XRf69Header, hdr.IsAckFrom fromNodeId ∧ hdr ∈ heard w.events

/-- How a function may end that returns whether it has succeeded. It is an error only if a transfer
has failed. -/
def Results (failed succeeded : Rf69World → Prop) (r : ℤ) (w : Rf69World) : Prop :=
  (r < 0 ∧ w.HasFailed) ∨ (r = 0 ∧ failed w) ∨ (r = 1 ∧ succeeded w)

/-- The receiver is on, and nothing has been received. -/
theorem attempting_startReceiving :
    Finishes (Attempting tally known) (iRf69StartReceiving quiet)
      fun r w => (r = 0 ∧ Attempting tally Cleared w) ∨ (r < 0 ∧ w.HasFailed) := by
  have frame := @attempting_frame tally Cleared
  apply finishes_failing _ fun _ _ negative hasFailed => .inr ⟨negative, hasFailed⟩
  apply ensures_bind fun _ => Attempting tally Cleared
  · exact attempting_update ensures_quiet (fun _ => rfl) fun _ _ _ => rfl
  · intro _
    apply ensures_bind _ (frame.avoidRxDeadLocks ensures_quiet)
    intro _
    apply ensures_bind _ (frame.readByte ensures_quiet).ensures
    intro b
    apply ensures_bind _ (frame.tryWriteReg ensures_quiet (by decide))
    intro _
    exact (attempting_change (by decide) ensures_quiet (by exact fun _ => id)).setMode.ensures

/-- What is heard is looked at with the interrupt routine at its end. -/
theorem listening_receiveDone (fresh : ∀ hdr heard, hdr ∈ heard → got hdr heard) :
    Finishes (Listening tally got) (iRf69ReceiveDone pollThread lockRcvMutex)
      (Results (Listening tally Fresh)
        (Attempting tally (Both Resting fun v => got v.rf.hdr v.heard))) := by
  apply ensures_bind _ (listening_pollThread fresh)
  intro _
  apply ensures_bind _ listening_lock
  intro _
  apply ensures_bind _ (attempting_access ensures_quiet)
  intro mode
  by_cases receives : mode = .rx
  · rw [if_pos receives]
    apply ensures_bind _ (attempting_access ensures_quiet)
    intro payloadLen
    by_cases taken : 0 < payloadLen
    · rw [if_pos taken]
      apply ensures_bind
      · apply Finishes.ensures
        apply (@attempting_change _ _ (Both Resting fun v => got v.rf.hdr v.heard) _ _ (by decide)
          ensures_quiet _).setMode
        rintro v ⟨⟨pending, rfl⟩, rfl⟩
        exact ⟨nofun, pending receives taken⟩
      · intro ret
        apply ensures_pure
        rintro w (⟨rfl, caught⟩ | ⟨negative, hasFailed⟩)
        · exact .inr (.inr ⟨rfl, caught⟩)
        · rw [if_neg negative.ne]
          exact .inl ⟨negative, hasFailed⟩
    · rw [if_neg taken]
      apply ensures_pure
      intro w attempting
      refine .inr (.inl ⟨rfl, (attempting.weaken ?_).listening⟩)
      rintro v ⟨-, rfl⟩ _ positive
      exact absurd positive taken
  · rw [if_neg receives]
    apply attempting_startReceiving.ensures.weaken (fun _ => id) _ fun _ _ => id
    rintro r w (⟨isZero, cleared⟩ | error)
    · exact .inr (.inl ⟨isZero, (cleared.weaken fun _ => Cleared.pending).listening⟩)
    · exact .inl error

/-- An ACK that is found was received since the last transmission. -/
theorem listening_ackReceived {fromNodeId : UInt8} :
    Finishes (Listening tally Fresh) (iRf69AckReceived pollThread lockRcvMutex fromNodeId)
      (Results (Listening tally Fresh) (Acked fromNodeId)) := by
  apply ensures_bind _ (listening_receiveDone fun _ _ => id)
  intro ret
  by_cases done : ret = 1
  · rw [if_pos done]
    have caught : ∀ w, Results (Listening tally Fresh)
        (Attempting tally (Both Resting fun v => Fresh v.rf.hdr v.heard)) ret w →
        Attempting tally (Both Resting fun v => Fresh v.rf.hdr v.heard) w := by
      rintro w (negative | ⟨isZero, -⟩ | ⟨-, caught⟩)
      · omega
      · omega
      · exact caught
    refine Ensures.weaken ?_ caught (fun _ _ => id) fun _ _ => id
    apply ensures_bind _ (attempting_access (attempting_pollThread fun _ => And.left))
    intro sender
    apply ensures_bind _ (attempting_access (attempting_pollThread fun _ known => known.1.1))
    intro ctl
    apply ensures_pure
    intro w attempting
    by_cases isAck : (sender = fromNodeId ∨ fromNodeId = rf69BroadcastAddr) ∧ ctl &&& rf69Ack ≠ 0
    · rw [if_pos isAck]
      refine .inr (.inr ⟨rfl, fun fair => ?_⟩)
      rcases (attempting fair).known with ⟨⟨⟨-, isFresh⟩, rfl⟩, rfl⟩
      exact ⟨w.rf.hdr, isAck, isFresh⟩
    · rw [if_neg isAck]
      exact .inr (.inl ⟨rfl, (attempting.weaken fun _ known => known.1.1.1.pending).listening⟩)
  · rw [if_neg done]
    apply ensures_pure
    rintro w (negative | zero | ⟨isDone, -⟩)
    · exact .inl negative
    · exact .inr (.inl zero)
    · exact absurd isDone done

end Sysio.Rf69
