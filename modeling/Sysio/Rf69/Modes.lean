import Sysio.Rf69.Primitives

/-!
# The operating mode

After the driver has been opened, each successful `iRf69SetMode` leaves the mode that it was asked
for in the register and in the cache, whatever transfers fail, unless one of them writes the
registers of the high power amplifier. `iRf69SetMode` writes these after the register of the
operating mode, and returns before it has stored the new mode if that fails.
-/

namespace Sysio.Rf69

open Routine

/-! ### Runs -/

/-- What is done one at a time. -/
inductive Rf69Step where
  | operation (call : Rf69Call)
  | interrupt

/-- The world after a step. -/
def Rf69Step.next : Rf69Step → Rf69World → Rf69World
  | operation call, w => (call.run w).2
  | interrupt, w => (Rf69.interrupt w).2

/-- The world after a run. -/
def Rf69World.run (w : Rf69World) (steps : List Rf69Step) : Rf69World :=
  steps.foldl (fun w step => step.next w) w

/-- The same world, with nothing recorded yet. -/
def Rf69World.recorded (w : Rf69World) : Rf69World := { w with spi := [], modes := [] }

/-- The register and the cache have the mode. -/
def ModeRight (entry : ERf69Mode × UInt8 × ERf69Mode) : Prop :=
  entry.2.1 &&& rfOpmodeMask = entry.1.opmode ∧ entry.2.2 = entry.1

instance (entry : ERf69Mode × UInt8 × ERf69Mode) : Decidable (ModeRight entry) :=
  inferInstanceAs (Decidable (_ ∧ _))

/-- A write to one of the registers of the boost. -/
def Rf69Transfer.isTestpa : Rf69Transfer → Bool
  | .writeReg reg _ => reg == regTestpa1 || reg == regTestpa2
  | _ => false

/-- Such a write, and it failed. -/
def Rf69Entry.isTestpaFault (entry : Rf69Entry) : Bool := entry.failed && entry.transfer.isTestpa

/-! ### The invariant -/

/-- A write to one of the registers of the boost has failed. -/
def TestpaFault (w : Rf69World) : Prop := ∃ entry ∈ w.spi, entry.isTestpaFault = true

/-- The register has this mode, and `iRf69SetMode` has been right so far. -/
def Booked (isOpen : Bool) (mode : ERf69Mode) (w : Rf69World) : Prop :=
  w.rf.isOpen = isOpen ∧
    (TestpaFault w ∨
      (w.chip.opmode &&& rfOpmodeMask = mode.opmode ∧ ∀ entry ∈ w.modes, ModeRight entry))

/-- The mode in the register is the one in the cache. -/
def Cached (isOpen : Bool) (w : Rf69World) : Prop := Booked isOpen w.rf.mode w

variable {isOpen : Bool} {mode newMode : ERf69Mode} {w : Rf69World} {transfer : Rf69Transfer}

/-- The mode bits of what `rf69SwitchMode` writes. -/
theorem opmode_bits (b : UInt8) (mode : ERf69Mode) :
    (b &&& 0xE3 ||| mode.opmode) &&& rfOpmodeMask = mode.opmode := by
  have others : (0xE3 : UInt8).toBitVec &&& rfOpmodeMask.toBitVec = 0 := by decide
  have own : mode.opmode.toBitVec &&& rfOpmodeMask.toBitVec = mode.opmode.toBitVec := by
    cases mode <;> decide
  apply UInt8.eq_of_toBitVec_eq
  calc (b.toBitVec &&& (0xE3 : UInt8).toBitVec ||| mode.opmode.toBitVec) &&& rfOpmodeMask.toBitVec
      = b.toBitVec &&& ((0xE3 : UInt8).toBitVec &&& rfOpmodeMask.toBitVec) |||
          mode.opmode.toBitVec &&& rfOpmodeMask.toBitVec := by
        rw [BitVec.and_or_distrib_right, BitVec.and_assoc]
    _ = 0 ||| mode.opmode.toBitVec := by
        rw [others, own]
        exact congrArg (· ||| _) BitVec.and_zero
    _ = mode.opmode.toBitVec := BitVec.zero_or

theorem TestpaFault.asked (transfer : Rf69Transfer) (fault : TestpaFault w) :
    TestpaFault (w.asked transfer) := by
  rcases fault with ⟨entry, among, failed⟩
  exact ⟨entry, List.mem_append_left _ among, failed⟩

theorem testpaFault_asked {reg data : UInt8}
    (isTestpa : (Rf69Transfer.writeReg reg data).isTestpa = true)
    (failed : (w.env w.clock).fault < 0) : TestpaFault (w.asked (.writeReg reg data)) := by
  refine ⟨_, List.mem_append_right _ (List.mem_singleton_self _), ?_⟩
  rw [Rf69Entry.isTestpaFault, isTestpa, decide_eq_true failed]
  rfl

theorem Booked.asked (transfer : Rf69Transfer) (booked : Booked isOpen mode w) :
    Booked isOpen mode (w.asked transfer) := by
  rcases booked with ⟨same, fault | right⟩
  · exact ⟨same, .inl (fault.asked transfer)⟩
  · exact ⟨same, .inr right⟩

theorem after_opmode {chip : Rf69Module} {transfer : Rf69Transfer}
    (spares : ∀ reg data, transfer = .writeReg reg data → reg ≠ regOpmode) :
    (chip.after transfer).opmode = chip.opmode := by
  cases transfer with
  | readReg reg => exact apply_ite Rf69Module.opmode _ _ _ |>.trans (ite_self _)
  | writeReg reg data => exact congrArg _ (if_neg (spares reg data rfl))
  | readBlock reg len => exact apply_ite Rf69Module.opmode _ _ _ |>.trans (ite_self _)
  | writeBlock reg data => exact apply_ite Rf69Module.opmode _ _ _ |>.trans (ite_self _)

/-- Other registers leave the mode alone. -/
theorem Booked.served (spares : ∀ reg data, transfer = .writeReg reg data → reg ≠ regOpmode)
    (booked : Booked isOpen mode w) : Booked isOpen mode (w.served transfer) := by
  rcases booked with ⟨same, fault | ⟨opmode, right⟩⟩
  · exact ⟨same, .inl (fault.asked transfer)⟩
  · exact ⟨same, .inr ⟨(congrArg (· &&& rfOpmodeMask) (after_opmode spares)).trans opmode, right⟩⟩

/-- The register has the mode that is written to it. -/
theorem Booked.opmodeServed {b : UInt8} (booked : Booked isOpen mode w) :
    Booked isOpen newMode (w.served (.writeReg regOpmode (b &&& 0xE3 ||| newMode.opmode))) := by
  rcases booked with ⟨same, fault | ⟨-, right⟩⟩
  · exact ⟨same, .inl (fault.asked _)⟩
  · exact ⟨same, .inr ⟨opmode_bits b newMode, right⟩⟩

/-- The change is done: the register and the cache have the mode. -/
def Reached (isOpen : Bool) (mode : ERf69Mode) (w : Rf69World) : Prop :=
  Booked isOpen mode w ∧ w.rf.mode = mode

theorem Reached.cached (reached : Reached isOpen mode w) : Cached isOpen w := by
  rw [Cached, reached.2]
  exact reached.1

/-- A change that is made is right. -/
theorem Reached.noted (reached : Reached isOpen mode w) :
    Reached isOpen mode (w.noted mode) := by
  rcases reached with ⟨⟨same, fault | ⟨opmode, right⟩⟩, cached⟩
  · exact ⟨⟨same, .inl fault⟩, cached⟩
  · refine ⟨⟨same, .inr ⟨opmode, fun entry among => ?_⟩⟩, cached⟩
    rcases List.mem_append.mp among with before | new
    · exact right entry before
    · rw [List.mem_singleton.mp new]
      exact ⟨opmode, cached⟩

theorem IsPlain.spares (plain : transfer.IsPlain) (reg data : UInt8)
    (writes : transfer = .writeReg reg data) : reg ≠ regOpmode := by
  subst writes
  exact fun isOpmode => plain (.inl isOpmode)

theorem booked_frame (isOpen : Bool) (mode : ERf69Mode) : Rf69Frame (Booked isOpen mode) where
  nextAnswer _ _ booked := booked
  muted _ _ booked := booked
  fails _ transfer _ _ booked := booked.asked transfer
  serves _ _ plain _ booked := booked.served (IsPlain.spares plain)

theorem cached_frame (isOpen : Bool) : Rf69Frame (Cached isOpen) where
  nextAnswer _ _ cached := cached
  muted _ _ cached := cached
  fails _ transfer _ _ cached := Booked.asked transfer cached
  serves _ _ plain _ cached := Booked.served (IsPlain.spares plain) cached

/-! ### A change of mode -/

/-- What may hold before a change, and again if it fails. -/
structure Rf69Change (isOpen : Bool) (before : Rf69World → Prop) : Prop extends
    Rf69Frame before where
  asked : ∀ w transfer, before w → before (w.asked transfer)
  faulted : ∀ w, w.rf.isOpen = isOpen → TestpaFault w → before w
  booked : ∀ w, before w → ∃ mode, Booked isOpen mode w

theorem booked_change (isOpen : Bool) (mode : ERf69Mode) :
    Rf69Change isOpen (Booked isOpen mode) where
  toRf69Frame := booked_frame isOpen mode
  asked _ transfer booked := booked.asked transfer
  faulted _ same fault := ⟨same, .inl fault⟩
  booked _ booked := ⟨mode, booked⟩

theorem cached_change (isOpen : Bool) : Rf69Change isOpen (Cached isOpen) where
  toRf69Frame := cached_frame isOpen
  asked _ transfer cached := Booked.asked transfer cached
  faulted _ same fault := ⟨same, .inl fault⟩
  booked w cached := ⟨w.rf.mode, cached⟩

theorem Rf69Change.modeChange {before : Rf69World → Prop} (change : Rf69Change isOpen before)
    (skips : ∀ w, before w → w.rf.mode = newMode → Booked isOpen newMode w) :
    Rf69ModeChange quiet newMode before (Booked isOpen newMode) (Reached isOpen newMode)
      (Reached isOpen newMode) before where
  frame := change.toRf69Frame
  frameSwitched := booked_frame isOpen newMode
  pauses := ensures_quiet
  pausesSwitched := ensures_quiet
  opmodeFails w _ _ kept := change.asked w _ kept
  opmodeServed w b kept := by
    rcases change.booked w kept with ⟨mode, booked⟩
    exact booked.opmodeServed
  testpaFails w reg data isTestpa failed booked := by
    refine change.faulted _ (booked.asked _).1 (testpaFault_asked ?_ failed)
    rcases isTestpa with rfl | rfl <;> rfl
  testpaServed w reg data isTestpa booked := by
    apply booked.served
    rintro _ _ ⟨⟩
    rcases isTestpa with rfl | rfl <;> decide
  stores _ booked := ⟨booked, rfl⟩
  skips w kept cached := ⟨skips w kept cached, cached⟩
  notes _ reached := reached.noted

/-! ### Every operation -/

theorem Cached.store {write : XRf69 → XRf69} (keeps : KeepsMode write)
    (cached : Cached isOpen w) : Cached isOpen { w with rf := write w.rf } := by
  rcases keeps w.rf with ⟨sameMode, sameOpen, -⟩
  rcases cached with ⟨same, right⟩
  refine ⟨sameOpen.trans same, ?_⟩
  change TestpaFault w ∨ (w.chip.opmode &&& rfOpmodeMask = (write w.rf).mode.opmode ∧ _)
  rw [sameMode]
  exact right

/-- The register and the cache agree behind every change. -/
theorem keeps_setMode : Keeps (Cached isOpen) (iRf69SetMode quiet newMode) := by
  have skips : ∀ w, Cached isOpen w → w.rf.mode = newMode → Booked isOpen newMode w := by
    rintro w cached rfl
    exact cached
  apply Ensures.keeps
  apply ((cached_change isOpen).modeChange skips).setMode.ensures.weaken
  · exact fun _ => id
  · rintro r w (⟨-, reached⟩ | ⟨-, cached⟩)
    · exact reached.cached
    · exact cached
  · exact fun _ _ => id

/-- They agree behind every function. -/
theorem cached_rules (isOpen : Bool) : Rf69DriverRules (Kept (Cached isOpen)) where
  toRf69Rules := (cached_frame isOpen).rules
  setMode := keeps_setMode
  block others := by
    apply Ensures.keeps
    apply ensures_transact
    · intro w cached _
      exact Booked.asked _ cached
    · intro w cached _
      exact Booked.served (fun reg data writes => absurd writes (others reg data)) cached
  store keeps := fun _ cached => cached.store keeps
  note := fun _ cached => cached
  voided _ _ keeps := Keeps.voided keeps
  arrival := fun _ cached => cached
  restoring keeps keepsMode := Keeps.bind keeps fun r =>
    Keeps.bind (Keeps.bind (keeps_ended (.ok ())) fun _ _ cached => cached.store keepsMode)
      fun _ => keeps_ended (.ok r)

/-- A driver that is open is not opened again. -/
theorem keeps_open {invariant : Rf69World → Prop} (isOpen : ∀ w, invariant w → w.rf.isOpen = true)
    {eBand : ERf69Band} {ucNodeId ucNetId : UInt8} :
    Keeps invariant (iRf69Open quiet eBand ucNodeId ucNetId) := by
  apply Keeps.called
  apply Ensures.keeps
  apply ensures_bind fun found w => invariant w ∧ found = true
  · exact ensures_access ensures_quiet fun w holds => ⟨holds, isOpen w holds⟩
  · intro found
    apply ensures_bind fun _ => invariant
    · apply ensures_whenever
      · intro closed w holds
        rw [holds.2] at closed
        cases closed
      · intro _ w holds
        exact holds.1
    · intro _
      exact ensures_pure fun _ => id

theorem keeps_setHighPower {bOn : Bool} :
    Keeps (Cached isOpen) (iRf69SetHighPower quiet bOn) := by
  have rules := cached_rules isOpen
  apply rules.setHighPower rules.noPause
  exact Keeps.bind (keeps_ended (.ok ())) fun _ _ cached => cached

/-- A step keeps the invariant. -/
theorem Rf69Step.keeps (step : Rf69Step) (cached : Cached true w) :
    Cached true (step.next w) := by
  cases step with
  | operation call =>
      have keeps : Kept (Cached true) (Reported call.IsError) call.run := by
        apply (cached_rules true).call
        · rintro eBand ucNodeId ucNetId rfl
          exact keeps_open fun w cached => cached.1
        · rintro bOn rfl
          exact keeps_setHighPower
      exact keeps w cached
  | interrupt => exact (cached_rules true).interrupt w cached

/-- So does a run. -/
theorem cached_run (steps : List Rf69Step) (cached : Cached true w) :
    Cached true (w.run steps) := by
  induction steps generalizing w with
  | nil => exact cached
  | cons step steps ih => exact ih (step.keeps cached)

/-! ### Opening -/

/-- Not open, and `iRf69SetMode` has been right so far. -/
def Closed (w : Rf69World) : Prop := w.rf.isOpen = false ∧ ∀ entry ∈ w.modes, ModeRight entry

theorem closed_frame : Rf69Frame Closed where
  nextAnswer _ _ closed := closed
  muted _ _ closed := closed
  fails _ _ _ _ closed := closed
  serves _ _ _ _ closed := closed

/-- How `iRf69Open` may return before its end. -/
def Opened (stop : Stop) (w : Rf69World) : Prop := stop = .returned 0 → Cached true w

section Opening

variable {before after : Rf69World → Prop}

theorem opened_of_neg {r : ℤ} (negative : r < 0) : Opened (.returned r) w := by
  intro isZero
  cases isZero
  exact absurd negative (by decide)

theorem ensures_tryOpening {call : Driver ℤ}
    (finishes : Finishes before call fun r w => 0 ≤ r → after w) :
    Ensures before (tryInt call) (fun _ => after) Opened := by
  apply ensures_tryInt _ finishes.ensures
  · intro r w reached positive
    exact reached positive
  · intro r w _ negative
    exact opened_of_neg negative

theorem ensures_tryKept {body : Driver ℤ} (keeps : Keeps before (called body)) :
    Ensures before (tryInt (called body)) (fun _ => before) Opened := by
  have calls : Ensures before (called body) (fun _ => before) Opened := by
    apply keeps.called_ensures.weaken
    · exact fun _ => id
    · exact fun _ _ => id
    · rintro stop w rfl isZero
      cases isZero
  apply ensures_tryInt _ calls
  · exact fun _ _ kept _ => kept
  · exact fun _ _ _ => opened_of_neg

/-- What every write of the table keeps, all of them keep. -/
theorem ensures_configKeeps {early : Stop → Rf69World → Prop} {elmts : List (UInt8 × UInt8)}
    (writes : ∀ elmt ∈ elmts, Finishes before (iRf69WriteReg quiet elmt.1 elmt.2)
      fun _ => before)
    (fails : ∀ r w, r < 0 → early (.returned r) w) :
    Ensures before (rf69WriteConfig quiet elmts) (fun _ => before) early := by
  induction elmts with
  | nil => exact ensures_pure fun _ => id
  | cons elmt elmts ih =>
      have written : Finishes before (iRf69WriteConstElmt quiet elmt) fun _ => before := by
        rw [iRf69WriteConstElmt]
        split
        · exact writes elmt (List.mem_cons_self ..)
        · exact ensures_pure fun _ => id
      apply ensures_bind fun _ => before
      · apply ensures_tryIntVal _ written.ensures
        · exact fun _ _ kept _ => kept
        · exact fun r w _ negative => fails r w negative
      · intro ret
        apply ensures_whenever
        · exact fun _ => ih fun later among => writes later (List.mem_cons_of_mem _ among)
        · exact fun _ _ => id

/-- The table writes the register of the operating mode first, and not again. -/
theorem ensures_writeConfig :
    Ensures Closed (rf69WriteConfig quiet xInitConfigPgm) (fun _ => Booked false .standby)
      Opened := by
  apply ensures_bind fun _ => Booked false .standby
  · apply ensures_tryIntVal fun r w => 0 ≤ r → Booked false .standby w
    · apply Finishes.ensures
      apply ensures_writeReg ensures_quiet
      · intro w _ failed positive
        exact absurd failed (Int.not_lt.mpr positive)
      · intro w closed _ _
        have standby : rfOpmodeStandby &&& rfOpmodeMask = rfOpmodeStandby := by decide
        exact ⟨closed.1, .inr ⟨standby, closed.2⟩⟩
    · exact fun _ _ reached positive => reached positive
    · exact fun _ _ _ => opened_of_neg
  · intro ret
    apply ensures_whenever
    · intro _
      have spares : (xInitConfigPgm.tail.all fun elmt => !decide (ChangesMode elmt.1)) = true := by
        decide
      apply ensures_configKeeps
      · intro elmt among
        apply (booked_frame false .standby).writeReg ensures_quiet
        intro changes
        have spared := List.all_eq_true.mp spares elmt among
        rw [decide_eq_true changes] at spared
        cases spared
      · exact fun _ _ => opened_of_neg
    · intro _ w booked
      exact booked

theorem finishes_setEncryptKey :
    Finishes (Booked false .standby) (iRf69SetEncryptKey quiet none)
      fun r w => 0 ≤ r → Cached false w := by
  have skips : ∀ w, Booked false .standby w → w.rf.mode = .standby → Booked false .standby w :=
    fun _ booked _ => booked
  apply finishes_called
  apply ensures_bind fun _ => Cached false
  · apply ((booked_change false .standby).modeChange skips).trySetMode.weaken
    · exact fun _ => id
    · exact fun _ _ reached => reached.cached
    · rintro stop w ⟨r, isReturn, negative, -⟩
      exact ⟨r, isReturn, fun positive => absurd negative (Int.not_lt.mpr positive)⟩
  · intro _
    apply ensures_bind fun _ => Cached false
    · exact ensures_pure fun _ => id
    · intro _
      apply ensures_bind fun _ => Cached false
      · exact ((cached_frame false).readByte ensures_quiet).ensures
      · intro b
        apply ensures_bind fun _ => Cached false
        · apply ensures_tryInt _
            ((cached_frame false).writeReg ensures_quiet (by decide)).ensures
          · exact fun _ _ cached _ => cached
          · exact fun r _ _ negative => ⟨r, rfl, fun positive => absurd negative
              (Int.not_lt.mpr positive)⟩
        · intro _
          exact ensures_pure fun w cached _ => cached

/-- Opening begins with whatever is in the cache, and ends with what is in the register. -/
theorem ensures_open {eBand : ERf69Band} {ucNodeId ucNetId : UInt8} :
    Ensures Closed (iRf69Open quiet eBand ucNodeId ucNetId)
      (fun r w => r = 0 → Cached true w) fun stop _ => stop = .stuck := by
  have closed := closed_frame.rules
  have booked := (booked_frame false .standby).rules
  have rules := cached_rules false
  have sync : ∀ data, Keeps Closed (iRf69WriteRegWithCheck quiet regSyncvalue1 data 50) := by
    intro data
    have plain : (Rf69Transfer.writeReg regSyncvalue1 data).IsPlain :=
      (by decide : ¬ChangesMode regSyncvalue1)
    exact closed.writeRegWithCheck closed.noPause (closed.transact plain)
  have write : ∀ reg data, ¬ChangesMode reg → Ensures (Booked false .standby)
      (tryInt (iRf69WriteReg quiet reg data)) (fun _ => Booked false .standby) Opened := by
    intro reg data spares
    apply ensures_tryInt _ ((booked_frame false .standby).writeReg ensures_quiet spares).ensures
    · exact fun _ _ kept _ => kept
    · exact fun _ _ _ => opened_of_neg
  apply ensures_called
  apply ensures_bind fun _ => Closed
  · exact ensures_access ensures_quiet fun _ => id
  · intro isOpen
    apply ensures_bind fun _ _ => True
    · apply ensures_whenever
      · intro _
        have zero : ∀ stop w, Opened stop w →
            ∀ r, stop = .returned r → r = 0 → Cached true w := by
          rintro _ w opened r rfl rfl
          exact opened rfl
        refine Ensures.weaken ?_ (fun _ => id) (fun _ _ => id) zero
        apply ensures_bind _ (ensures_tryKept (sync 0xAA))
        intro _
        apply ensures_bind _ (ensures_tryKept (sync 0x55))
        intro _
        apply ensures_bind _ ensures_writeConfig
        intro _
        apply ensures_bind _ (ensures_tryKept (booked.setFrequencyRegs booked.noPause))
        intro _
        apply ensures_bind _ (write regSyncvalue2 ucNetId (by decide))
        intro _
        apply ensures_bind _ (write regNodeadrs ucNodeId (by decide))
        intro _
        apply ensures_bind _ (ensures_tryOpening finishes_setEncryptKey)
        intro _
        apply ensures_bind _ (ensures_tryKept keeps_setHighPower)
        intro _
        apply ensures_bind _ (ensures_tryKept (rules.setPowerLevel rules.noPause))
        intro _
        apply ensures_bind _ (ensures_tryKept keeps_setMode)
        intro _
        apply ensures_bind _ (ensures_tryKept (rules.setPromiscuous rules.noPause))
        intro _
        apply ensures_bind fun _ => Cached false
        · apply ensures_tryIntVal _ ((cached_frame false).waitForReady ensures_quiet).ensures
          · exact fun _ _ cached _ => cached
          · exact fun _ _ _ => opened_of_neg
        · intro ret
          apply ensures_whenever
          · intro _
            apply ensures_bind fun _ => Cached false
            · apply ensures_update ensures_quiet
              exact fun w cached => cached.store fun _ => ⟨rfl, rfl, rfl⟩
            · intro _
              apply ensures_bind fun _ => Cached true
              · exact ensures_update ensures_quiet fun w cached => ⟨rfl, cached.2⟩
              · intro _
                exact ensures_returns fun w cached _ => cached
          · exact fun _ _ _ => trivial
      · exact fun _ _ _ => trivial
    · intro _
      exact ensures_pure fun _ _ impossible => absurd impossible (by decide)

/-- A driver that is open is not opened. -/
theorem finishes_openAgain {eBand : ERf69Band} {ucNodeId ucNetId : UInt8} :
    Finishes (fun w => w.rf.isOpen = true) (iRf69Open quiet eBand ucNodeId ucNetId)
      fun r _ => r = -1 := by
  apply finishes_called
  apply ensures_bind fun isOpen _ => isOpen = true
  · exact ensures_access ensures_quiet fun _ => id
  · intro isOpen
    apply ensures_bind fun _ _ => True
    · apply ensures_whenever
      · intro closed w isOpen
        rw [isOpen] at closed
        cases closed
      · exact fun _ _ _ => trivial
    · intro _
      exact ensures_pure fun _ _ => rfl

end Opening

section

variable (w : Rf69World) (eBand : ERf69Band) (ucNodeId ucNetId : UInt8)

/-- The world of a driver that has been opened, with what is recorded from there on. -/
def Rf69World.opened : Rf69World := (iRf69Open quiet eBand ucNodeId ucNetId w.recorded).2

variable {w eBand ucNodeId ucNetId}

/-- The invariant holds when the driver is open. -/
theorem cached_opened
    (opens : (iRf69Open quiet eBand ucNodeId ucNetId w.recorded).1 = .ok 0) :
    Cached true (w.opened eBand ucNodeId ucNetId) := by
  cases isOpen : w.rf.isOpen with
  | true =>
      rcases @finishes_openAgain eBand ucNodeId ucNetId w.recorded isOpen with
        ⟨r, next, runs, rfl⟩ | ⟨_, _, _, impossible⟩
      · rw [runs] at opens
        cases opens
      · exact impossible.elim
  | false =>
      have closed : Closed w.recorded := ⟨isOpen, fun _ among => absurd among List.not_mem_nil⟩
      rcases @ensures_open eBand ucNodeId ucNetId w.recorded closed with
        ⟨r, next, runs, reached⟩ | ⟨stop, next, runs, rfl⟩
      · rw [Rf69World.opened, runs]
        rw [runs] at opens
        cases opens
        exact reached rfl
      · rw [runs] at opens
        cases opens

/-- Whatever fails besides the registers of the amplifier, each change of mode that succeeds has
reached the register and the cache. -/
theorem modesRight_run
    (opens : (iRf69Open quiet eBand ucNodeId ucNetId w.recorded).1 = .ok 0)
    (steps : List Rf69Step)
    (heard : ∀ entry ∈ ((w.opened eBand ucNodeId ucNetId).run steps).spi,
      entry.isTestpaFault = false) :
    ∀ entry ∈ ((w.opened eBand ucNodeId ucNetId).run steps).modes, ModeRight entry := by
  rcases (cached_run steps (cached_opened opens)).2 with ⟨entry, among, failed⟩ | ⟨_, right⟩
  · rw [heard entry among] at failed
    cases failed
  · exact right

end

/-- A new driver, of which one transfer fails. -/
def failingTransfer (i : ℕ) : Rf69World where
  rf := ⟨.replicate 66 0, 0, ⟨0, 0, 0, 0⟩, 0, .sleep, false, false, false, 0, 0⟩
  chip := ⟨0, [], []⟩
  env j := ⟨if j = i then -1 else 0, rfIrqflags1Modeready, [], 0, 0, 0⟩
  clock := 0
  muted := false
  spi := []
  events := []
  modes := []
  changes := []

/-- To Tx with high power, and to Standby. -/
def transmitThenStandby : List Rf69Step :=
  [.operation (.iRf69SetHighPower true), .operation (.iRf69SetMode .tx),
    .operation (.iRf69SetMode .standby)]

/-- The register of the operating mode is not written. -/
theorem modesRight_opmodeFails :
    (((failingTransfer 48).opened .band868Mhz 1 100).run transmitThenStandby).modes ≠ [] ∧
      ∀ entry ∈ (((failingTransfer 48).opened .band868Mhz 1 100).run transmitThenStandby).modes,
        ModeRight entry :=
  ⟨by decide +kernel,
    modesRight_run (by decide +kernel) transmitThenStandby (by decide +kernel)⟩

/-- The first register of the amplifier is not written: `iRf69SetMode` then returns 0 for standby,
with the transmitter on. -/
theorem not_modesRight_testpaFails :
    (iRf69Open quiet .band868Mhz 1 100 (failingTransfer 49).recorded).1 = .ok 0 ∧
      (.standby, rfOpmodeTransmitter, .standby) ∈
        (((failingTransfer 49).opened .band868Mhz 1 100).run transmitThenStandby).modes ∧
      ¬ModeRight (.standby, rfOpmodeTransmitter, .standby) := by
  decide +kernel

end Sysio.Rf69
