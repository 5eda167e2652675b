import Sysio.Rf69.Modes
import Sysio.Rf69.Registers

/-!
# A driver that has been opened

What `iRf69Open` leaves behind if no transfer fails. It sets the amplifier with
`iRf69SetHighPower` and `iRf69SetPowerLevel`, and what comes after them does not touch it.
-/

namespace Sysio.Rf69

open Routine

/-- The body of `iRf69Open` as far as `iRf69SetHighPower`. -/
def rf69OpenRegisters (irq : Driver Unit) (eBand : ERf69Band) (ucNodeId ucNetId : UInt8) :
    Driver Unit := do
  tryInt (iRf69WriteRegWithCheck irq regSyncvalue1 0xAA 50)
  tryInt (iRf69WriteRegWithCheck irq regSyncvalue1 0x55 50)
  rf69WriteConfig irq xInitConfigPgm
  tryInt (iSetFrequencyRegs irq eBand.frf)
  tryInt (iRf69WriteReg irq regSyncvalue2 ucNetId)
  tryInt (iRf69WriteReg irq regNodeadrs ucNodeId)
  tryInt (iRf69SetEncryptKey irq none)
  tryInt (iRf69SetHighPower irq false)

/-- What follows. -/
def rf69OpenRest (irq : Driver Unit) (ucNodeId : UInt8) : Driver Unit := do
  tryInt (iRf69SetPowerLevel irq rf69DefaultPower)
  tryInt (iRf69SetMode irq .standby)
  tryInt (iRf69SetPromiscuous irq true)
  let ret ← tryIntVal (iRf69WaitForReady irq 50) id
  whenever (ret = 1) do
    update irq fun rf => { rf with nodeId := ucNodeId }
    update irq fun rf => { rf with isOpen := true }
    returns 0

/-- Opening in two parts. -/
theorem open_eq (irq : Driver Unit) (eBand : ERf69Band) (ucNodeId ucNetId : UInt8) :
    iRf69Open irq eBand ucNodeId ucNetId = called (do
      let isOpen ← access irq (·.isOpen)
      whenever (!isOpen) do
        rf69OpenRegisters irq eBand ucNodeId ucNetId
        rf69OpenRest irq ucNodeId
      pure (-1)) := by
  simp only [rf69OpenRegisters, bind_bind]
  rfl

/-- The driver is known, and of the registers those of the amplifier. -/
def Held (env : ℕ → Rf69Answer) (initial : UInt8 → UInt8) (rf : XRf69) (levels : UInt8 × UInt8)
    (w : Rf69World) : Prop :=
  w.env = env ∧ w.rf = rf ∧ testpa (w.registers initial) = levels

/-- How `iRf69Open` may return before it is done. -/
def Refused (stop : Stop) (_ : Rf69World) : Prop := stop ≠ .returned 0

section Registers

variable {env : ℕ → Rf69Answer} {initial : UInt8 → UInt8} {rf : XRf69}
  {registers : UInt8 → UInt8} {levels : UInt8 × UInt8} {early : Stop → Rf69World → Prop}

theorem Steady.held {w : Rf69World} (steady : Steady env initial rf registers w)
    (isLevels : testpa registers = levels) : Held env initial rf levels w :=
  ⟨steady.1, steady.2.1, (congrArg testpa steady.2.2).trans isLevels⟩

/-- The registers are known as far as they have been written. -/
theorem Held.steady {w : Rf69World} (held : Held env initial rf levels w) :
    Steady env initial rf (w.registers initial) w := ⟨held.1, held.2.1, rfl⟩

theorem returned_ne_zero {r : ℤ} (negative : r < 0) : Stop.returned r ≠ .returned 0 := by
  rintro ⟨⟩
  exact absurd negative (by decide)

theorem refused_of_neg {r : ℤ} {w : Rf69World} (negative : r < 0) : Refused (.returned r) w :=
  returned_ne_zero negative

theorem held_frame : Rf69Frame (Held env initial rf levels) where
  nextAnswer _ _ held := held
  muted _ _ held := held
  fails _ _ plain _ held := ⟨held.1, held.2.1, (testpa_asked plain).trans held.2.2⟩
  serves _ _ plain _ held := ⟨held.1, held.2.1, (testpa_asked plain).trans held.2.2⟩

section Kept

variable {before : Rf69World → Prop}

theorem ensures_tryKeeps {body : Driver ℤ} (keeps : Keeps before (called body)) :
    Ensures before (tryInt (called body)) (fun _ => before) Refused := by
  have calls : Ensures before (called body) (fun _ => before) Refused := by
    apply keeps.called_ensures.weaken
    · exact fun _ => id
    · exact fun _ _ => id
    · rintro stop w rfl ⟨⟩
  apply ensures_tryInt _ calls
  · exact fun _ _ kept _ => kept
  · exact fun _ _ _ => refused_of_neg

theorem ensures_tryWriteKeeps {reg data : UInt8}
    (writes : Finishes before (iRf69WriteReg quiet reg data) fun _ => before) :
    Ensures before (tryInt (iRf69WriteReg quiet reg data)) (fun _ => before) Refused := by
  apply ensures_tryInt _ writes.ensures
  · exact fun _ _ kept _ => kept
  · exact fun _ _ _ => refused_of_neg

end Kept

theorem Held.asked {w : Rf69World} {reg data : UInt8} (held : Held env initial rf levels w)
    (not1 : regTestpa1 ≠ reg) (not2 : regTestpa2 ≠ reg) :
    Held env initial rf levels (w.asked (.writeReg reg data)) := by
  refine ⟨held.1, held.2.1, Eq.trans ?_ held.2.2⟩
  rw [registers_asked]
  exact (apply_ite testpa _ _ _).trans (by rw [testpa_update not1 not2, ite_self])

theorem finishes_writeHeld {reg data : UInt8} (not1 : regTestpa1 ≠ reg) (not2 : regTestpa2 ≠ reg) :
    Finishes (Held env initial rf levels) (iRf69WriteReg quiet reg data)
      fun _ => Held env initial rf levels := by
  apply ensures_writeReg ensures_quiet
  · exact fun _ held _ => held.asked not1 not2
  · exact fun _ held _ => held.asked not1 not2

/-- The table leaves the amplifier alone. -/
theorem ensures_configHeld :
    Ensures (Held env initial rf levels) (rf69WriteConfig quiet xInitConfigPgm)
      (fun _ => Held env initial rf levels) Refused := by
  have spares : (xInitConfigPgm.all fun elmt =>
      regTestpa1 != elmt.1 && regTestpa2 != elmt.1) = true := by decide
  apply ensures_configKeeps
  · intro elmt among
    have spared := Bool.and_eq_true_iff.mp (List.all_eq_true.mp spares elmt among)
    exact finishes_writeHeld (bne_iff_ne.mp spared.1) (bne_iff_ne.mp spared.2)
  · exact fun _ _ => refused_of_neg

variable (works : ∀ i, 0 ≤ (env i).fault)

include works

/-- Standby needs no other amplifier. -/
theorem ensures_tryStandbyHeld :
    Ensures (Held env initial rf levels) (tryInt (iRf69SetMode quiet .standby))
      (fun _ => Held env initial { rf with mode := .standby } levels) early := by
  intro w held
  apply (steady_trySetMode works).weaken (fun _ => id) _ (fun _ _ => id) w held.steady
  intro _ next steady
  exact steady.held (by rw [amplified_of_ne (by decide) (by decide), held.2.2])

theorem finishes_setEncryptKeyHeld :
    Finishes (Held env initial rf levels) (iRf69SetEncryptKey quiet none)
      fun r w => 0 ≤ r → Held env initial { rf with mode := .standby } levels w := by
  apply finishes_called
  apply ensures_bind _ (ensures_tryStandbyHeld works)
  intro _
  apply ensures_bind fun _ => Held env initial { rf with mode := .standby } levels
  · exact ensures_pure fun _ => id
  · intro _
    apply ensures_bind fun _ => Held env initial { rf with mode := .standby } levels
    · exact (held_frame.readByte ensures_quiet).ensures
    · intro b
      apply ensures_bind fun _ => Held env initial { rf with mode := .standby } levels
      · apply ensures_tryInt _ (finishes_writeHeld (by decide) (by decide)).ensures
        · exact fun _ _ held _ => held
        · exact fun r _ held _ => ⟨r, rfl, fun _ => held⟩
      · intro _
        exact ensures_pure fun _ held _ => held

/-! ### The amplifier -/

/-- What `iRf69SetHighPower` writes if `b` is read. -/
def XRf69.palevel (rf : XRf69) (bOn : Bool) (b : UInt8) : UInt8 :=
  if bOn then b &&& 0x1F ||| rfPalevelPa1On ||| rfPalevelPa2On else rfPalevelPa0On ||| rf.powerLevel

theorem steady_highPowerLevel {bOn : Bool} :
    Ensures (Steady env initial rf registers) (rf69HighPowerLevel quiet bOn)
      (fun palevel w => (∃ i, palevel = rf.palevel bOn (env i).value) ∧
        Steady env initial rf registers w) early := by
  cases bOn with
  | true =>
      apply ensures_bind _ (steady_readByte works)
      intro b
      apply ensures_pure
      rintro w ⟨isValue, steady⟩
      rcases isValue (by decide) (by decide) with ⟨i, rfl⟩
      exact ⟨⟨i, rfl⟩, steady⟩
  | false =>
      apply ensures_bind_value steady_access
      exact ensures_pure fun _ steady => ⟨⟨0, rfl⟩, steady⟩

/-- The selection of the amplifiers is known, and the flag. -/
theorem steady_setHighPower {bOn : Bool} :
    Finishes (Steady env initial rf registers) (iRf69SetHighPower quiet bOn)
      fun r w => r = 0 ∧ ∃ i, Steady env initial { rf with isRfm69hw := bOn }
        (Function.update (Function.update registers regOcp (if bOn then rfOcpOff else rfOcpOn))
          regPalevel (rf.palevel bOn (env i).value)) w := by
  apply finishes_called
  apply ensures_bind _ (steady_tryWrite works)
  intro _
  apply ensures_bind _ (steady_highPowerLevel works)
  rintro _ w ⟨⟨i, rfl⟩, steady⟩
  refine ensures_bind _ (steady_tryWrite works) (fun _ => ?_) w steady
  apply ensures_bind _ steady_update
  intro _
  exact ensures_pure fun _ steady => ⟨rfl, i, steady⟩

/-- What `iRf69Open` leaves in the structure of the driver. -/
def XRf69.opened (rf : XRf69) (ucNodeId : UInt8) : XRf69 :=
  { rf with
    mode := .standby
    isRfm69hw := false
    powerLevel := 18
    promiscuous := true
    nodeId := ucNodeId
    isOpen := true }

/-- What `iRf69SetPowerLevel` stores. -/
def XRf69.storedLevel (rf : XRf69) (level : ℤ) : UInt8 :=
  UInt8.ofInt (if rf.isRfm69hw then (min level 31).tdiv 2 else min level 31)

/-- The selection of the amplifiers is written as it has been read. -/
theorem told_setPowerLevel {level : ℤ} {clock : ℕ} :
    Finishes (fun w => Steady env initial rf registers w ∧ w.clock = clock)
      (iRf69SetPowerLevel quiet level)
      fun r w => r = 0 ∧ Steady env initial { rf with powerLevel := rf.storedLevel level }
        (Function.update registers regPalevel
          ((env clock).value &&& 0xE0 ||| rf.storedLevel level)) w := by
  apply finishes_called
  apply ensures_bind fun isRfm69hw w =>
    isRfm69hw = rf.isRfm69hw ∧ Steady env initial rf registers w ∧ w.clock = clock
  · apply ensures_access ensures_quiet
    rintro w ⟨steady, isClock⟩
    exact ⟨congrArg XRf69.isRfm69hw steady.2.1, steady, isClock⟩
  · rintro _ w ⟨rfl, reached⟩
    refine ensures_bind _ (told_readByte works) (fun b => ?_) w reached
    rintro w ⟨isValue, steady, -⟩
    rw [isValue (by decide) (by decide)]
    refine ensures_bind _ (steady_tryWrite works) (fun _ => ?_) w steady
    apply ensures_bind _ steady_update
    intro _
    exact ensures_pure fun _ steady => ⟨rfl, steady⟩

theorem steady_setPromiscuous {bOn : Bool} :
    Finishes (Steady env initial rf registers) (iRf69SetPromiscuous quiet bOn)
      fun _ w => ∃ data, Steady env initial { rf with promiscuous := bOn }
        (Function.update registers regPacketconfig1 data) w := by
  apply finishes_called
  apply ensures_bind_value steady_access
  apply ensures_bind fun _ w => ∃ data, Steady env initial { rf with promiscuous := bOn }
    (Function.update registers regPacketconfig1 data) w
  · apply ensures_whenever
    · intro _
      apply ensures_bind _ (steady_readByte works)
      rintro b w ⟨-, steady⟩
      refine ensures_bind _ (steady_tryWrite works) (fun _ => ?_) w steady
      apply steady_update.weaken (fun _ => id) _ fun _ _ => id
      exact fun _ _ steady => ⟨_, steady⟩
    · intro same w steady
      have isOn : bOn = rf.promiscuous := by simpa using same
      subst isOn
      refine ⟨registers regPacketconfig1, ?_⟩
      rw [Function.update_eq_self]
      exact steady
  · intro _
    exact ensures_pure fun _ reached => reached

/-! ### The two parts of the opening -/

/-- The registers behind the first part. -/
theorem ensures_openRegisters {eBand : ERf69Band} {ucNodeId ucNetId : UInt8} :
    Ensures (Held env initial rf levels) (rf69OpenRegisters quiet eBand ucNodeId ucNetId)
      (fun _ w => ∃ registers, testpa registers = levels ∧
        registers regPalevel = rfPalevelPa0On ||| rf.powerLevel ∧
        Steady env initial { rf with mode := .standby, isRfm69hw := false } registers w)
      Refused := by
  have rules := (@held_frame env initial rf levels).rules
  have sync : ∀ data, Keeps (Held env initial rf levels)
      (iRf69WriteRegWithCheck quiet regSyncvalue1 data 50) := by
    intro data
    have plain : (Rf69Transfer.writeReg regSyncvalue1 data).IsPlain :=
      (by decide : ¬ChangesMode regSyncvalue1)
    exact rules.writeRegWithCheck rules.noPause (rules.transact plain)
  apply ensures_bind _ (ensures_tryKeeps (sync 0xAA))
  intro _
  apply ensures_bind _ (ensures_tryKeeps (sync 0x55))
  intro _
  apply ensures_bind _ ensures_configHeld
  intro _
  apply ensures_bind _ (ensures_tryKeeps (rules.setFrequencyRegs rules.noPause))
  intro _
  apply ensures_bind _ (ensures_tryWriteKeeps (finishes_writeHeld (by decide) (by decide)))
  intro _
  apply ensures_bind _ (ensures_tryWriteKeeps (finishes_writeHeld (by decide) (by decide)))
  intro _
  apply ensures_bind fun _ => Held env initial { rf with mode := .standby } levels
  · apply ensures_tryInt _ (finishes_setEncryptKeyHeld works).ensures
    · exact fun _ _ reached nonneg => reached nonneg
    · exact fun _ _ _ => refused_of_neg
  · intro _ w held
    refine ensures_tryInt _ (steady_setHighPower works).ensures ?_ ?_ w held.steady
    · rintro r next ⟨-, i, steady⟩ _
      refine ⟨_, ?_, Function.update_self .., steady⟩
      rw [testpa_update (by decide) (by decide), testpa_update (by decide) (by decide), held.2.2]
    · rintro r next ⟨rfl, -⟩ negative
      exact absurd negative (by decide)

/-- The second part sets the level, the mode and the filter. -/
theorem ensures_openRest {ucNodeId : UInt8} {clock : ℕ} :
    Ensures (fun w => Steady env initial { rf with mode := .standby, isRfm69hw := false }
        registers w ∧ w.clock = clock)
      (rf69OpenRest quiet ucNodeId) (fun _ _ => True)
      fun stop w => stop = .returned 0 → ∃ registers', testpa registers' = testpa registers ∧
        registers' regPalevel = (env clock).value &&& 0xE0 ||| 18 ∧
        Steady env initial (rf.opened ucNodeId) registers' w := by
  let leveled : XRf69 := { rf with
    mode := .standby
    isRfm69hw := false
    powerLevel := 18 }
  let written := Function.update registers regPalevel ((env clock).value &&& 0xE0 ||| 18)
  let promiscuous : XRf69 := { leveled with promiscuous := true }
  have isWritten : ∀ data, Function.update written regPacketconfig1 data regPalevel =
      (env clock).value &&& 0xE0 ||| 18 := by
    intro data
    rw [Function.update_of_ne (by decide)]
    exact Function.update_self ..
  have spared : ∀ data, testpa (Function.update written regPacketconfig1 data) =
      testpa registers := by
    intro data
    rw [testpa_update (by decide) (by decide)]
    exact testpa_update (by decide) (by decide)
  apply ensures_bind fun _ => Steady env initial leveled written
  · apply ensures_tryInt _ (told_setPowerLevel works).ensures
    · exact fun _ _ reached _ => reached.2
    · exact fun _ _ _ isNegative isZero => absurd isZero (returned_ne_zero isNegative)
  · intro _
    apply ensures_bind fun _ => Steady env initial leveled written
    · exact steady_trySetMode works
    · intro _
      apply ensures_bind fun _ w => ∃ data, Steady env initial promiscuous
        (Function.update written regPacketconfig1 data) w
      · apply ensures_tryInt _ (steady_setPromiscuous works).ensures
        · exact fun _ _ reached _ => reached
        · exact fun _ _ _ isNegative isZero => absurd isZero (returned_ne_zero isNegative)
      · rintro _ w ⟨data, steady⟩
        refine ensures_bind (fun _ => Steady env initial promiscuous
          (Function.update written regPacketconfig1 data)) ?_ (fun ret => ?_) w steady
        · apply ensures_tryIntVal _ (steady_waitForReady works).ensures
          · exact fun _ _ steady _ => steady
          · exact fun _ _ _ isNegative isZero => absurd isZero (returned_ne_zero isNegative)
        · apply ensures_whenever
          · intro _
            apply ensures_bind _ steady_update
            intro _
            apply ensures_bind _ steady_update
            intro _
            exact ensures_returns fun _ steady _ => ⟨_, spared data, isWritten data, steady⟩
          · exact fun _ _ _ => trivial

end Registers

section

variable {initial : UInt8 → UInt8} {w : Rf69World} {eBand : ERf69Band} {ucNodeId ucNetId : UInt8}

/-- The first time the level of the amplifier is read, it is as it has just been written. -/
def Rf69World.TellsPalevel (w : Rf69World) (initial : UInt8 → UInt8) (eBand : ERf69Band)
    (ucNodeId ucNetId : UInt8) : Prop :=
  let written := (rf69OpenRegisters quiet eBand ucNodeId ucNetId w.recorded).2
  (written.env written.clock).value = written.registers initial regPalevel

instance : Decidable (w.TellsPalevel initial eBand ucNodeId ucNetId) :=
  inferInstanceAs (Decidable ((_ : UInt8) = _))

/-- What an open driver holds, and its registers. -/
theorem ensures_opened (works : ∀ i, 0 ≤ (w.env i).fault) (closed : w.rf.isOpen = false) :
    Ensures (· = w.recorded) (iRf69Open quiet eBand ucNodeId ucNetId)
      (fun r next => r = 0 → ∃ registers,
        Steady w.env initial (w.rf.opened ucNodeId) registers next ∧
        testpa registers = testpa initial ∧
        (w.TellsPalevel initial eBand ucNodeId ucNetId →
          registers regPalevel = (rfPalevelPa0On ||| w.rf.powerLevel) &&& 0xE0 ||| 18))
      fun stop _ => stop = .stuck := by
  rw [open_eq]
  apply ensures_called
  have reads : Ensures (· = w.recorded) (access quiet (·.isOpen))
      (fun isOpen next => isOpen = false ∧ next = w.recorded) fun stop next =>
        ∀ r, stop = .returned r → r = 0 → ∃ registers,
          Steady w.env initial (w.rf.opened ucNodeId) registers next ∧
          testpa registers = testpa initial ∧
          (w.TellsPalevel initial eBand ucNodeId ucNetId →
            registers regPalevel = (rfPalevelPa0On ||| w.rf.powerLevel) &&& 0xE0 ||| 18) := by
    apply ensures_access ensures_quiet
    rintro _ rfl
    exact ⟨closed, rfl⟩
  apply ensures_bind_value reads
  apply ensures_bind fun _ _ => True
  · apply ensures_whenever
    · intro _
      have held : Held w.env initial w.rf (testpa initial) w.recorded := ⟨rfl, rfl, rfl⟩
      have writes := (@ensures_openRegisters _ initial _ _ works eBand ucNodeId ucNetId).ran held
      apply ensures_bind _ (writes.weaken (fun _ => id) (fun _ _ => id) _)
      · rintro _ next ⟨isNext, registers, isTestpa, isPalevel, steady⟩
        apply (ensures_openRest works).weaken (fun _ => id) (fun _ _ => id) _ next ⟨steady, rfl⟩
        rintro stop last reached r rfl rfl
        rcases reached rfl with ⟨registers', isTestpa', isPalevel', opened⟩
        refine ⟨registers', opened, isTestpa'.trans isTestpa, fun tells => ?_⟩
        rw [Rf69World.TellsPalevel, ← isNext, steady.1, steady.2.2, isPalevel] at tells
        rw [isPalevel', tells]
      · rintro stop next refused r rfl rfl
        exact absurd rfl refused
    · exact fun _ _ _ => trivial
  · intro _
    exact ensures_pure fun _ _ impossible => absurd impossible (by decide)

/-- The same of the world of the open driver. -/
theorem steady_opened (works : ∀ i, 0 ≤ (w.env i).fault)
    (opens : (iRf69Open quiet eBand ucNodeId ucNetId w.recorded).1 = .ok 0) :
    ∃ registers, Steady w.env initial (w.rf.opened ucNodeId) registers
        (w.opened eBand ucNodeId ucNetId) ∧
      testpa registers = testpa initial ∧
      (w.TellsPalevel initial eBand ucNodeId ucNetId →
        registers regPalevel = (rfPalevelPa0On ||| w.rf.powerLevel) &&& 0xE0 ||| 18) := by
  cases isOpen : w.rf.isOpen with
  | true =>
      rcases (@finishes_openAgain eBand ucNodeId ucNetId).run (s := w.recorded) isOpen with
        ⟨r, next, runs, rfl⟩
      rw [runs] at opens
      cases opens
  | false =>
      rcases @ensures_opened initial w eBand ucNodeId ucNetId works isOpen w.recorded rfl with
        ⟨r, next, runs, reached⟩ | ⟨stop, next, runs, rfl⟩
      · rw [Rf69World.opened, runs]
        rw [runs] at opens
        cases opens
        exact reached rfl
      · rw [runs] at opens
        cases opens

end

/-- A new driver; what is read from its module has only the first amplifier selected. -/
def newNode : Rf69World where
  rf := ⟨.replicate 66 0, 0, ⟨0, 0, 0, 0⟩, 0, .sleep, false, false, false, 0, 0⟩
  chip := ⟨0, [], []⟩
  env _ := ⟨0, rfPalevelPa0On, [], 0, 0, 0⟩
  clock := 0
  muted := false
  spi := []
  events := []
  modes := []
  changes := []

end Sysio.Rf69
