import Sysio.Rf69.Operations

/-!
# What the primitives do

The triples of what the driver is made of, and the invariants among the judgements of
`Rf69Rules`.
-/

namespace Sysio.Rf69

open Routine

variable {α : Type} {before middle : Rf69World → Prop} {early : Stop → Rf69World → Prop}

theorem ofInt_toNat (b : UInt8) : UInt8.ofInt b.toNat = b := by
  have reduced : ((b.toNat : ℤ) % 2 ^ 8).toNat = b.toNat := by
    have lt := b.toNat_lt
    omega
  rw [UInt8.ofInt, reduced, UInt8.ofNat_toNat]

theorem ensures_quiet : Ensures before quiet (fun _ => before) early := by
  apply ensures_pure
  intro w holds
  exact holds

theorem ensures_transact {transfer : Rf69Transfer} {after : ℤ × List UInt8 → Rf69World → Prop}
    (fails : ∀ w, before w → (w.env w.clock).fault < 0 →
      after ((w.env w.clock).fault, []) (w.asked transfer))
    (serves : ∀ w, before w → ¬ (w.env w.clock).fault < 0 →
      after (w.chip.reply (w.env w.clock).value transfer) (w.served transfer)) :
    Ensures before (transact transfer) after early := by
  intro w holds
  left
  by_cases failed : (w.env w.clock).fault < 0
  · exact ⟨_, _, if_pos failed, fails w holds failed⟩
  · exact ⟨_, _, if_neg failed, serves w holds failed⟩

theorem ensures_access {irq : Driver Unit} {read : XRf69 → α} {after : α → Rf69World → Prop}
    (pauses : Ensures before irq (fun _ => middle) early)
    (holds : ∀ w, middle w → after (read w.rf) w) :
    Ensures before (access irq read) after early := by
  apply ensures_bind _ pauses
  intro _ w reached
  exact Or.inl ⟨read w.rf, w, rfl, holds w reached⟩

theorem ensures_update {irq : Driver Unit} {write : XRf69 → XRf69}
    {after : Unit → Rf69World → Prop} (pauses : Ensures before irq (fun _ => middle) early)
    (holds : ∀ w, middle w → after () { w with rf := write w.rf }) :
    Ensures before (update irq write) after early := by
  apply ensures_bind _ pauses
  intro _ w reached
  exact Or.inl ⟨(), _, rfl, holds w reached⟩

theorem ensures_note {event : Rf69Event} {after : Unit → Rf69World → Prop}
    (holds : ∀ w, before w → after () { w with events := w.events ++ [event] }) :
    Ensures before (note event) after early := by
  intro w reached
  exact Or.inl ⟨(), _, rfl, holds w reached⟩

theorem ensures_noteMode {newMode : ERf69Mode} {after : Unit → Rf69World → Prop}
    (holds : ∀ w, before w → after () (w.noted newMode)) :
    Ensures before (noteMode newMode) after early := by
  intro w reached
  exact Or.inl ⟨(), _, rfl, holds w reached⟩

theorem ensures_nextAnswer {ask : Rf69Ask} {after : Rf69Answer → Rf69World → Prop}
    (holds : ∀ w, before w → after (w.env w.clock) (w.answered ask)) :
    Ensures before (nextAnswer ask) after early := by
  intro w reached
  exact Or.inl ⟨_, _, rfl, holds w reached⟩

theorem ensures_writeReg {irq : Driver Unit} {reg data : UInt8} {after : ℤ → Rf69World → Prop}
    (pauses : Ensures before irq (fun _ => middle) early)
    (fails : ∀ w, middle w → (w.env w.clock).fault < 0 →
      after (w.env w.clock).fault (w.asked (.writeReg reg data)))
    (serves : ∀ w, middle w → ¬ (w.env w.clock).fault < 0 →
      after 1 (w.served (.writeReg reg data))) :
    Ensures before (iRf69WriteReg irq reg data) after early := by
  apply ensures_bind _ pauses
  intro _
  apply ensures_bind (fun reply => after reply.1)
  · exact ensures_transact fails serves
  · intro reply
    apply ensures_pure
    intro w reached
    exact reached

/-! ### Invariants -/

/-- The judgement that an invariant is kept, however the routine ends. -/
def Kept (invariant : Rf69World → Prop) {α : Type} (_failing : Except Stop α → Prop)
    (m : Driver α) : Prop := Keeps invariant m

/-- What an access to the registers leaves as it is. -/
structure Rf69Frame (invariant : Rf69World → Prop) : Prop where
  nextAnswer : ∀ w ask, invariant w → invariant (w.answered ask)
  muted : ∀ w flag, invariant w → invariant { w with muted := flag }
  fails : ∀ w transfer, transfer.IsPlain → (w.env w.clock).fault < 0 → invariant w →
    invariant (w.asked transfer)
  serves : ∀ w transfer, transfer.IsPlain → ¬ (w.env w.clock).fault < 0 → invariant w →
    invariant (w.served transfer)

variable {invariant : Rf69World → Prop}

theorem keeps_muted {m : Driver α}
    (insensitive : ∀ w flag, invariant w → invariant { w with muted := flag })
    (keeps : Keeps invariant m) : Keeps invariant (muted m) := by
  intro w holds
  have kept := keeps _ (insensitive w true holds)
  exact insensitive _ w.muted kept

theorem Rf69Frame.rules (frame : Rf69Frame invariant) : Rf69Rules (Kept invariant) where
  weaken keeps _ := keeps
  ended outcome := keeps_ended outcome
  bind first second _ _ := Keeps.bind first second
  called keeps := Keeps.called keeps
  muted keeps := keeps_muted frame.muted keeps
  nextAnswer := fun w => frame.nextAnswer w _
  read _ := fun _ holds => holds
  transact plain := by
    apply Ensures.keeps
    apply ensures_transact
    · intro w holds failed
      exact frame.fails w _ plain failed holds
    · intro w holds served
      exact frame.serves w _ plain served holds

theorem finishes_muted {before' : Rf69World → Prop} {m : Driver α} {after : α → Rf69World → Prop}
    (start : ∀ w, before' w → before { w with muted := true }) (finishes : Finishes before m after)
    {after' : α → Rf69World → Prop}
    (finish : ∀ a w flag, after a w → after' a { w with muted := flag }) :
    Finishes before' (muted m) after' := by
  intro w holds
  left
  rcases finishes _ (start w holds) with ⟨a, next, runs, reached⟩ | ⟨_, _, _, impossible⟩
  · refine ⟨a, { next with muted := w.muted }, ?_, finish a next _ reached⟩
    rw [muted, runs]
  · exact impossible.elim

section Frame

variable {irq : Driver Unit} (frame : Rf69Frame invariant)
  (pauses : Finishes invariant irq fun _ => invariant)

include frame

theorem Rf69Frame.muted_finishes {m : Driver α}
    (finishes : Finishes invariant m fun _ => invariant) :
    Finishes invariant (Sysio.Rf69.muted m) fun _ => invariant :=
  finishes_muted (fun w => frame.muted w true) finishes fun _ w flag => frame.muted w flag

theorem Rf69Frame.tryBool {m : Driver ℤ} {early : Stop → Rf69World → Prop}
    (finishes : Finishes invariant m fun _ => invariant) :
    Ensures invariant (Sysio.Rf69.tryBool m) (fun _ => invariant) early := by
  apply ensures_bind _ (frame.muted_finishes finishes).ensures
  intro r
  exact ensures_pure fun _ => id

theorem Rf69Frame.timer {timeout : ℤ} :
    Finishes invariant (vRf69TimerStart timeout) fun _ => invariant := by
  apply ensures_bind fun _ => invariant
  · exact ensures_nextAnswer fun w => frame.nextAnswer w _
  · intro answer
    exact ensures_pure fun _ => id

include pauses

theorem Rf69Frame.readReg {reg : UInt8} :
    Finishes invariant (iRf69ReadReg irq reg) fun _ => invariant := by
  apply ensures_bind _ pauses
  intro _
  apply ensures_bind fun _ => invariant
  · apply ensures_transact
    · intro w holds failed
      exact frame.fails w _ trivial failed holds
    · intro w holds served
      exact frame.serves w _ trivial served holds
  · intro reply
    exact ensures_pure fun _ => id

theorem Rf69Frame.writeReg {reg data : UInt8} (spares : ¬ChangesMode reg) :
    Finishes invariant (iRf69WriteReg irq reg data) fun _ => invariant := by
  apply ensures_writeReg pauses
  · intro w holds failed
    exact frame.fails w _ spares failed holds
  · intro w holds served
    exact frame.serves w _ spares served holds

theorem Rf69Frame.readByte {reg : UInt8} :
    Finishes invariant (tryByte (iRf69ReadReg irq reg)) fun _ => invariant := by
  apply ensures_bind fun _ => invariant
  · exact frame.muted_finishes (frame.readReg pauses)
  · intro r
    exact ensures_pure fun _ => id

theorem Rf69Frame.waitForReady {timeout : ℤ} :
    Finishes invariant (iRf69WaitForReady irq timeout) fun _ => invariant := by
  apply ensures_bind _ frame.timer
  intro turns
  apply ensures_bind fun _ => invariant
  · apply ensures_whileRunning
    apply (frame.readByte pauses).weaken
    · intro w holds
      exact holds
    · intro b w holds
      exact ⟨holds, fun _ => holds⟩
    · intro stop w impossible
      exact impossible
  · intro b
    exact ensures_pure fun _ => id

end Frame

/-! ### A change of mode -/

/-- What holds before a change of mode, from the write of the register on, when the mode is stored,
after the change, and where it has failed. -/
structure Rf69ModeChange (irq : Driver Unit) (newMode : ERf69Mode)
    (before switched stored after failed : Rf69World → Prop) : Prop where
  frame : Rf69Frame before
  frameSwitched : Rf69Frame switched
  pauses : Finishes before irq fun _ => before
  pausesSwitched : Finishes switched irq fun _ => switched
  opmodeFails : ∀ w data, (w.env w.clock).fault < 0 → before w →
    failed (w.asked (.writeReg regOpmode data))
  opmodeServed : ∀ w b, before w →
    switched (w.served (.writeReg regOpmode (b &&& 0xE3 ||| newMode.opmode)))
  testpaFails : ∀ w reg data, reg = regTestpa1 ∨ reg = regTestpa2 →
    (w.env w.clock).fault < 0 → switched w → failed (w.asked (.writeReg reg data))
  testpaServed : ∀ w reg data, reg = regTestpa1 ∨ reg = regTestpa2 → switched w →
    switched (w.served (.writeReg reg data))
  stores : ∀ w, switched w → stored { w with rf := { w.rf with mode := newMode } }
  skips : ∀ w, before w → w.rf.mode = newMode → stored w
  notes : ∀ w, stored w → after (w.noted newMode)

/-- Some transfer has failed. -/
def Rf69World.HasFailed (w : Rf69World) : Prop := ∃ entry ∈ w.spi, entry.failed = true

theorem hasFailed_asked {w : Rf69World} {transfer : Rf69Transfer}
    (failed : (w.env w.clock).fault < 0) : (w.asked transfer).HasFailed :=
  ⟨_, List.mem_append_right _ (List.mem_singleton_self _), decide_eq_true failed⟩

/-- The function has returned a negative value. -/
def EndsFailed (failed : Rf69World → Prop) (stop : Stop) (w : Rf69World) : Prop :=
  ∃ r, stop = .returned r ∧ r < 0 ∧ failed w

/-- The function has returned a negative value for a transfer that has failed. -/
abbrev Fails : Stop → Rf69World → Prop := EndsFailed Rf69World.HasFailed

theorem ensures_tryReturning {call : Driver ℤ} {value : ℤ} (nonneg : 0 ≤ value)
    {after failed : Rf69World → Prop}
    (calls : Ensures before call (fun r w => (r = value ∧ after w) ∨ (r < 0 ∧ failed w))
      (EndsFailed failed)) :
    Ensures before (tryInt call) (fun _ => after) (EndsFailed failed) := by
  apply ensures_tryInt _ calls
  · rintro r w (⟨-, reached⟩ | ⟨negative, -⟩) positive
    · exact reached
    · exact absurd negative (Int.not_lt.mpr positive)
  · rintro r w (⟨rfl, -⟩ | ⟨negative, kept⟩) isNegative
    · exact absurd isNegative (Int.not_lt.mpr nonneg)
    · exact ⟨r, rfl, negative, kept⟩

theorem ensures_tryFailing {call : Driver ℤ} {after failed : Rf69World → Prop}
    (finishes : Finishes before call fun r w => (r = 0 ∧ after w) ∨ (r < 0 ∧ failed w)) :
    Ensures before (tryInt call) (fun _ => after) (EndsFailed failed) :=
  ensures_tryReturning (le_refl 0) finishes.ensures

theorem ensures_tryWriteReg {irq : Driver Unit} {reg data : UInt8}
    {after failed : Rf69World → Prop} (pauses : Finishes before irq fun _ => middle)
    (fails : ∀ w, middle w → (w.env w.clock).fault < 0 → failed (w.asked (.writeReg reg data)))
    (serves : ∀ w, middle w → ¬ (w.env w.clock).fault < 0 →
      after (w.served (.writeReg reg data))) :
    Ensures before (tryInt (iRf69WriteReg irq reg data)) (fun _ => after)
      (EndsFailed failed) := by
  apply ensures_tryReturning (by decide : (0 : ℤ) ≤ 1)
  apply ensures_writeReg pauses.ensures
  · exact fun w holds negative => .inr ⟨negative, fails w holds negative⟩
  · exact fun w holds served => .inl ⟨rfl, serves w holds served⟩

section Frame

variable {irq : Driver Unit} (frame : Rf69Frame invariant)
  (pauses : Finishes invariant irq fun _ => invariant)

include frame pauses

theorem Rf69Frame.tryWriteReg {reg data : UInt8} (spares : ¬ChangesMode reg) :
    Ensures invariant (tryInt (iRf69WriteReg irq reg data)) (fun _ => invariant) Fails :=
  ensures_tryWriteReg pauses (fun _ _ failed => hasFailed_asked failed)
    fun w holds served => frame.serves w _ spares served holds

theorem Rf69Frame.avoidRxDeadLocks :
    Ensures invariant (tryInt (iRf69AvoidRxDeadLocks irq)) (fun _ => invariant) Fails := by
  apply ensures_tryFailing
  apply finishes_called
  apply ensures_bind _ (frame.readByte pauses).ensures
  intro b
  apply ensures_bind fun _ => invariant
  · apply (frame.tryWriteReg pauses (by decide)).weaken (fun _ => id) (fun _ _ => id)
    rintro stop w ⟨r, isReturn, negative, kept⟩
    exact ⟨r, isReturn, .inr ⟨negative, kept⟩⟩
  · intro _
    exact ensures_pure fun _ kept => .inl ⟨rfl, kept⟩

/-- Without a trigger, the level is only read. -/
theorem Rf69Frame.rssi : Finishes invariant (iRf69Rssi irq false) fun _ => invariant := by
  apply finishes_called
  apply ensures_bind fun _ => invariant
  · exact ensures_pure fun _ => id
  · intro _
    apply ensures_bind _ (frame.readByte pauses).ensures
    intro b
    exact ensures_pure fun _ => id

end Frame

section ModeChange

variable {irq : Driver Unit} {newMode : ERf69Mode}
  {switched stored after failed : Rf69World → Prop}
  (change : Rf69ModeChange irq newMode before switched stored after failed)

include change

theorem Rf69ModeChange.writeOpmode {b : UInt8} :
    Ensures before (tryInt (iRf69WriteReg irq regOpmode (b &&& 0xE3 ||| newMode.opmode)))
      (fun _ => switched) (EndsFailed failed) :=
  ensures_tryWriteReg change.pauses
    (fun w holds negative => change.opmodeFails w _ negative holds)
    fun w holds _ => change.opmodeServed w b holds

theorem Rf69ModeChange.writeTestpa {reg data : UInt8}
    (isTestpa : reg = regTestpa1 ∨ reg = regTestpa2) :
    Ensures switched (tryInt (iRf69WriteReg irq reg data)) (fun _ => switched)
      (EndsFailed failed) :=
  ensures_tryWriteReg change.pausesSwitched
    (fun w holds negative => change.testpaFails w reg data isTestpa negative holds)
    fun w holds _ => change.testpaServed w reg data isTestpa holds

theorem Rf69ModeChange.setHighPowerRegs {bOn : Bool} :
    Ensures switched (tryInt (iRf69SetHighPowerRegs irq bOn)) (fun _ => switched)
      (EndsFailed failed) := by
  have body : Ensures switched (do
      tryInt (iRf69WriteReg irq regTestpa1 (if bOn then 0x5D else 0x55))
      tryInt (iRf69WriteReg irq regTestpa2 (if bOn then 0x7C else 0x70))
      pure (0 : ℤ)) (fun r w => r = 0 ∧ switched w) (EndsFailed failed) := by
    apply ensures_bind _ (change.writeTestpa (.inl rfl))
    intro _
    apply ensures_bind _ (change.writeTestpa (.inr rfl))
    intro _
    exact ensures_pure fun _ holds => ⟨rfl, holds⟩
  apply ensures_tryFailing
  apply finishes_called
  apply body.weaken (fun _ => id)
  · exact fun _ _ reached => .inl reached
  · rintro stop w ⟨r, isReturn, negative, kept⟩
    exact ⟨r, isReturn, .inr ⟨negative, kept⟩⟩

/-- The amplifier comes behind the register. -/
theorem Rf69ModeChange.switchAmplified {b : UInt8} {bOn : Bool} :
    Ensures before (do
        tryInt (iRf69WriteReg irq regOpmode (b &&& 0xE3 ||| newMode.opmode))
        let isRfm69hw ← access irq (·.isRfm69hw)
        whenever isRfm69hw (tryInt (iRf69SetHighPowerRegs irq bOn)))
      (fun _ => switched) (EndsFailed failed) := by
  apply ensures_bind _ change.writeOpmode
  intro _
  apply ensures_bind fun _ => switched
  · exact ensures_access change.pausesSwitched.ensures fun _ => id
  · intro isRfm69hw
    apply ensures_whenever
    · intro _
      exact change.setHighPowerRegs
    · exact fun _ _ => id

theorem Rf69ModeChange.switchMode {b : UInt8} :
    Ensures before (rf69SwitchMode irq newMode (b &&& 0xE3)) (fun _ => switched)
      (EndsFailed failed) := by
  cases newMode with
  | tx => exact change.switchAmplified
  | rx => exact change.switchAmplified
  | synth => exact change.writeOpmode
  | standby => exact change.writeOpmode
  | sleep => exact change.writeOpmode

/-- The register is written, or it has the mode in the cache already. -/
theorem Rf69ModeChange.setMode :
    Finishes before (iRf69SetMode irq newMode)
      fun r w => (r = 0 ∧ after w) ∨ (r < 0 ∧ failed w) := by
  apply finishes_called
  apply ensures_bind fun mode w => before w ∧ w.rf.mode = mode
  · exact ensures_access change.pauses.ensures fun w holds => ⟨holds, rfl⟩
  · intro mode
    apply ensures_bind fun _ => stored
    · apply ensures_whenever
      · intro _
        apply ensures_bind fun _ => before
        · exact (change.frame.readByte change.pauses).ensures.weaken (fun _ holds => holds.1)
            (fun _ _ => id) fun _ _ => id
        · intro b
          apply ensures_bind fun _ => switched
          · apply change.switchMode.weaken (fun _ => id) (fun _ _ => id)
            rintro stop w ⟨r, isReturn, negative, kept⟩
            exact ⟨r, isReturn, .inr ⟨negative, kept⟩⟩
          · intro _
            apply ensures_bind fun _ => switched
            · exact ensures_access change.pausesSwitched.ensures fun _ => id
            · intro mode
              apply ensures_bind fun _ => switched
              · have frame := change.frameSwitched
                apply ensures_whenever
                · intro _
                  apply ensures_bind fun _ => switched
                  · exact (frame.muted_finishes
                      (frame.waitForReady change.pausesSwitched)).ensures
                  · intro _
                    exact ensures_pure fun _ => id
                · exact fun _ _ => id
              · intro _
                exact ensures_update change.pausesSwitched.ensures change.stores
      · intro same w holds
        have isMode : newMode = mode := by simpa using same
        exact change.skips w holds.1 (holds.2.trans isMode.symm)
    · intro _
      apply ensures_bind fun _ => after
      · exact ensures_noteMode change.notes
      · intro _
        exact ensures_pure fun _ reached => .inl ⟨rfl, reached⟩

theorem Rf69ModeChange.trySetMode :
    Ensures before (tryInt (iRf69SetMode irq newMode)) (fun _ => after) (EndsFailed failed) :=
  ensures_tryFailing change.setMode

end ModeChange

end Sysio.Rf69
