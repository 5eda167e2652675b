import Sysio.Rf69.Primitives

/-!
# What the registers hold

The registers of the module as the record of the transfers tells: each holds what was last written
to it. As long as no transfer fails the structure of the driver and the registers are known after
each function. The operating mode and the FIFO are kept with the module and are left out here, and
so is the key of the encryption, which is written as a block.
-/

namespace Sysio.Rf69

open Routine

/-- A write that has not failed stores its byte. -/
def Rf69Entry.store (entry : Rf69Entry) (registers : UInt8 → UInt8) : UInt8 → UInt8 :=
  match entry.transfer with
  | .writeReg reg data =>
      if entry.failed || reg == regOpmode then registers else Function.update registers reg data
  | _ => registers

/-- What the registers hold, if they held `initial` when the record began. -/
def Rf69World.registers (w : Rf69World) (initial : UInt8 → UInt8) : UInt8 → UInt8 :=
  w.spi.foldl (fun registers entry => entry.store registers) initial

/-- The two registers of the amplifier are those of `iRf69SetHighPowerRegs`. -/
def setTestpa (bOn : Bool) (registers : UInt8 → UInt8) : UInt8 → UInt8 :=
  Function.update (Function.update registers regTestpa1 (if bOn then 0x5D else 0x55)) regTestpa2
    (if bOn then 0x7C else 0x70)

/-- What the two registers hold. -/
def testpa (registers : UInt8 → UInt8) : UInt8 × UInt8 :=
  (registers regTestpa1, registers regTestpa2)

/-- Without the boost. -/
def normalTestpa : UInt8 × UInt8 := (0x55, 0x70)
/-- With the boost of high power. -/
def boostTestpa : UInt8 × UInt8 := (0x5D, 0x7C)

/-- The registers after a change of mode. -/
def XRf69.amplified (rf : XRf69) (newMode : ERf69Mode) (registers : UInt8 → UInt8) :
    UInt8 → UInt8 :=
  if rf.isRfm69hw = true ∧ newMode ≠ rf.mode then
    if newMode = .tx then setTestpa true registers
    else if newMode = .rx then setTestpa false registers
    else registers
  else registers

/-- The module is there to be read: the answers that come next are `values`, in turn. -/
def Rf69World.telling (values : ℕ → UInt8) (w : Rf69World) : Rf69World :=
  { w with env := fun i => { w.env i with value := values (i - w.clock) } }

/-- The driver and the registers are known. -/
def Steady (env : ℕ → Rf69Answer) (initial : UInt8 → UInt8) (rf : XRf69)
    (registers : UInt8 → UInt8) (w : Rf69World) : Prop :=
  w.env = env ∧ w.rf = rf ∧ w.registers initial = registers

theorem testpa_setTestpa (bOn : Bool) (registers : UInt8 → UInt8) :
    testpa (setTestpa bOn registers) = if bOn then boostTestpa else normalTestpa := by
  rw [testpa, setTestpa, Function.update_self, Function.update_of_ne (by decide),
    Function.update_self]
  cases bOn <;> rfl

theorem testpa_update {registers : UInt8 → UInt8} {reg data : UInt8} (not1 : regTestpa1 ≠ reg)
    (not2 : regTestpa2 ≠ reg) : testpa (Function.update registers reg data) = testpa registers := by
  rw [testpa, Function.update_of_ne not1, Function.update_of_ne not2]
  rfl

/-- Only a change of mode writes these registers. -/
theorem Rf69Transfer.IsPlain.testpa {transfer : Rf69Transfer} (plain : transfer.IsPlain)
    (failed heard : Bool) (registers : UInt8 → UInt8) :
    testpa ((⟨transfer, failed, heard⟩ : Rf69Entry).store registers) = testpa registers := by
  cases transfer with
  | writeReg reg data =>
      have written : Rf69.testpa (Function.update registers reg data) = Rf69.testpa registers :=
        testpa_update (fun is1 => plain (.inr (.inl is1.symm)))
          fun is2 => plain (.inr (.inr is2.symm))
      exact (apply_ite Rf69.testpa _ _ _).trans (by rw [written, ite_self])
  | readReg reg => rfl
  | readBlock reg len => rfl
  | writeBlock reg data => rfl

theorem amplified_of_ne {rf : XRf69} {newMode : ERf69Mode} {registers : UInt8 → UInt8}
    (notTx : newMode ≠ .tx) (notRx : newMode ≠ .rx) :
    rf.amplified newMode registers = registers := by
  rw [XRf69.amplified, if_neg notTx, if_neg notRx, ite_self]

section Transfers

variable {env : ℕ → Rf69Answer} {initial : UInt8 → UInt8} {rf : XRf69}
  {registers : UInt8 → UInt8} {w : Rf69World} {early : Stop → Rf69World → Prop}

theorem registers_asked (w : Rf69World) (transfer : Rf69Transfer) :
    (w.asked transfer).registers initial =
      (⟨transfer, decide ((w.env w.clock).fault < 0), !w.muted⟩ : Rf69Entry).store
        (w.registers initial) := by
  rw [Rf69World.registers, Rf69World.asked, List.foldl_append]
  rfl

/-- What reads and writes one register leaves the amplifier as it is, whether or not it fails. -/
theorem testpa_asked {transfer : Rf69Transfer} (plain : transfer.IsPlain) :
    testpa ((w.asked transfer).registers initial) = testpa (w.registers initial) := by
  rw [registers_asked]
  exact plain.testpa _ _ _

theorem registers_served {transfer : Rf69Transfer} (works : ¬(w.env w.clock).fault < 0) :
    (w.served transfer).registers initial =
      (⟨transfer, false, !w.muted⟩ : Rf69Entry).store (w.registers initial) := by
  rw [← decide_eq_false works]
  exact registers_asked w transfer

theorem ensures_ofClock {α : Type} {before : Rf69World → Prop} {m : Driver α}
    {after : α → Rf69World → Prop}
    (told : ∀ clock, Ensures (fun w => before w ∧ w.clock = clock) m after early) :
    Ensures before m after early :=
  fun w holds => told w.clock w ⟨holds, rfl⟩

variable (works : ∀ i, 0 ≤ (env i).fault)

include works

theorem steady_transact {transfer : Rf69Transfer} {clock : ℕ}
    {after : ℤ × List UInt8 → Rf69World → Prop}
    (serves : ∀ w, Steady env initial rf registers w → w.clock = clock →
      (w.served transfer).registers initial =
        (⟨transfer, false, !w.muted⟩ : Rf69Entry).store registers →
      after (w.chip.reply (w.env w.clock).value transfer) (w.served transfer)) :
    Ensures (fun w => Steady env initial rf registers w ∧ w.clock = clock) (transact transfer)
      after early := by
  have fine : ∀ w, Steady env initial rf registers w → ¬(w.env w.clock).fault < 0 := by
    intro w steady
    rw [steady.1]
    exact Int.not_lt.mpr (works _)
  apply ensures_transact
  · rintro w ⟨steady, -⟩ failed
    exact absurd failed (fine w steady)
  · rintro w ⟨steady, isClock⟩ served
    apply serves w steady isClock
    rw [registers_served served, steady.2.2]

theorem told_readReg {reg : UInt8} {clock : ℕ} :
    Ensures (fun w => Steady env initial rf registers w ∧ w.clock = clock) (iRf69ReadReg quiet reg)
      (fun r w => (reg ≠ regFifo → reg ≠ regOpmode → r = ((env clock).value.toNat : ℤ)) ∧
        Steady env initial rf registers w ∧ w.clock = clock + 1) early := by
  apply ensures_bind _ ensures_quiet
  intro _
  apply ensures_bind fun reply w =>
    (reg ≠ regFifo → reg ≠ regOpmode → reply.1 = ((env clock).value.toNat : ℤ)) ∧
      Steady env initial rf registers w ∧ w.clock = clock + 1
  · apply steady_transact works
    rintro w steady rfl stored
    refine ⟨fun notFifo notOpmode => ?_, ⟨steady.1, steady.2.1, stored⟩, rfl⟩
    rw [Rf69Module.reply, if_neg notFifo, if_neg notOpmode, steady.1]
  · intro reply
    exact ensures_pure fun _ => id

/-- A register is read as the environment tells it. -/
theorem told_readByte {reg : UInt8} {clock : ℕ} :
    Ensures (fun w => Steady env initial rf registers w ∧ w.clock = clock)
      (tryByte (iRf69ReadReg quiet reg))
      (fun b w => (reg ≠ regFifo → reg ≠ regOpmode → b = (env clock).value) ∧
        Steady env initial rf registers w ∧ w.clock = clock + 1) early := by
  apply ensures_bind fun r w =>
    (reg ≠ regFifo → reg ≠ regOpmode → r = ((env clock).value.toNat : ℤ)) ∧
      Steady env initial rf registers w ∧ w.clock = clock + 1
  · exact Finishes.ensures (finishes_muted (fun _ steady => steady) (told_readReg works)
      fun _ _ _ reached => reached)
  · intro r
    apply ensures_pure
    rintro w ⟨isValue, reached⟩
    refine ⟨fun notFifo notOpmode => ?_, reached⟩
    rw [isValue notFifo notOpmode]
    exact ofInt_toNat _

theorem steady_readByte {reg : UInt8} :
    Ensures (Steady env initial rf registers) (tryByte (iRf69ReadReg quiet reg))
      (fun b w => (reg ≠ regFifo → reg ≠ regOpmode → ∃ i, b = (env i).value) ∧
        Steady env initial rf registers w) early := by
  apply ensures_ofClock
  intro clock
  apply (told_readByte works).weaken (fun _ => id)
  · rintro b next ⟨isValue, kept, -⟩
    exact ⟨fun notFifo notOpmode => ⟨clock, isValue notFifo notOpmode⟩, kept⟩
  · exact fun _ _ => id

theorem steady_tryWrite {reg data : UInt8} :
    Ensures (Steady env initial rf registers) (tryInt (iRf69WriteReg quiet reg data))
      (fun _ => Steady env initial rf
        (if reg = regOpmode then registers else Function.update registers reg data)) early := by
  have writes : Finishes (Steady env initial rf registers) (iRf69WriteReg quiet reg data)
      fun r w => r = 1 ∧ Steady env initial rf
        (if reg = regOpmode then registers else Function.update registers reg data) w := by
    apply ensures_bind _ ensures_quiet
    intro _
    apply ensures_bind fun reply w => reply.1 = 1 ∧ Steady env initial rf
      (if reg = regOpmode then registers else Function.update registers reg data) w
    · apply ensures_ofClock
      intro clock
      apply steady_transact works
      intro w steady _ stored
      refine ⟨rfl, steady.1, steady.2.1, stored.trans ?_⟩
      simp [Rf69Entry.store]
    · intro reply
      exact ensures_pure fun _ => id
  apply ensures_tryInt _ writes.ensures
  · exact fun _ _ reached _ => reached.2
  · rintro r w ⟨rfl, _⟩ negative
    exact absurd negative (by decide)

omit works in
theorem steady_access {α : Type} {read : XRf69 → α} :
    Ensures (Steady env initial rf registers) (access quiet read)
      (fun a w => a = read rf ∧ Steady env initial rf registers w) early :=
  ensures_access ensures_quiet fun _ steady => ⟨congrArg read steady.2.1, steady⟩

omit works in
theorem steady_update {write : XRf69 → XRf69} :
    Ensures (Steady env initial rf registers) (update quiet write)
      (fun _ => Steady env initial (write rf) registers) early :=
  ensures_update ensures_quiet fun _ steady =>
    ⟨steady.1, congrArg write steady.2.1, steady.2.2⟩

/-! ### The operating mode -/

theorem steady_waitForReady {timeout : ℤ} :
    Finishes (Steady env initial rf registers) (iRf69WaitForReady quiet timeout)
      fun _ => Steady env initial rf registers := by
  apply ensures_bind fun _ => Steady env initial rf registers
  · apply ensures_bind fun _ => Steady env initial rf registers
    · exact ensures_nextAnswer fun _ steady => steady
    · intro answer
      exact ensures_pure fun _ => id
  · intro turns
    apply ensures_bind fun _ => Steady env initial rf registers
    · apply ensures_whileRunning
      exact (steady_readByte works).weaken (fun _ => id)
        (fun _ _ reached => ⟨reached.2, fun _ => reached.2⟩) fun _ _ => id
    · intro b
      exact ensures_pure fun _ => id

theorem steady_setHighPowerRegs {bOn : Bool} :
    Ensures (Steady env initial rf registers) (tryInt (iRf69SetHighPowerRegs quiet bOn))
      (fun _ => Steady env initial rf (setTestpa bOn registers)) early := by
  have sets : Finishes (Steady env initial rf registers) (iRf69SetHighPowerRegs quiet bOn)
      fun r w => r = 0 ∧ Steady env initial rf (setTestpa bOn registers) w := by
    apply finishes_called
    apply ensures_bind _ (steady_tryWrite works)
    intro _
    apply ensures_bind _ (steady_tryWrite works)
    intro _
    exact ensures_pure fun _ steady => ⟨rfl, steady⟩
  apply ensures_tryInt _ sets.ensures
  · exact fun _ _ reached _ => reached.2
  · rintro r w ⟨rfl, _⟩ negative
    exact absurd negative (by decide)

theorem steady_amplify {bOn : Bool} {data : UInt8} :
    Ensures (Steady env initial rf registers) (do
        tryInt (iRf69WriteReg quiet regOpmode data)
        let isRfm69hw ← access quiet (·.isRfm69hw)
        whenever isRfm69hw (tryInt (iRf69SetHighPowerRegs quiet bOn)))
      (fun _ => Steady env initial rf
        (if rf.isRfm69hw then setTestpa bOn registers else registers)) early := by
  apply ensures_bind _ (steady_tryWrite works)
  intro _
  rw [if_pos rfl]
  apply ensures_bind_value steady_access
  apply ensures_whenever
  · intro isRfm69hw
    rw [isRfm69hw, if_pos rfl]
    exact steady_setHighPowerRegs works
  · intro isNormal w steady
    rw [isNormal]
    exact steady

theorem steady_switchMode {newMode : ERf69Mode} {b : UInt8} (other : newMode ≠ rf.mode) :
    Ensures (Steady env initial rf registers) (rf69SwitchMode quiet newMode b)
      (fun _ => Steady env initial rf (rf.amplified newMode registers)) early := by
  have plain : ∀ data, newMode ≠ .tx → newMode ≠ .rx → Ensures (Steady env initial rf registers)
      (tryInt (iRf69WriteReg quiet regOpmode data))
      (fun _ => Steady env initial rf (rf.amplified newMode registers)) early := by
    intro data notTx notRx
    rw [amplified_of_ne notTx notRx]
    exact steady_tryWrite works
  have switched : ∀ bOn, (newMode = .tx ∧ bOn = true) ∨ (newMode = .rx ∧ bOn = false) →
      (if rf.isRfm69hw then setTestpa bOn registers else registers) =
        rf.amplified newMode registers := by
    intro bOn isSwitched
    rw [XRf69.amplified]
    cases rf.isRfm69hw with
    | false => rw [if_neg Bool.false_ne_true, if_neg fun both => Bool.false_ne_true both.1]
    | true =>
        rw [if_pos rfl, if_pos ⟨rfl, other⟩]
        rcases isSwitched with ⟨rfl, rfl⟩ | ⟨rfl, rfl⟩
        · rfl
        · rfl
  cases newMode with
  | tx =>
      rw [← switched true (.inl ⟨rfl, rfl⟩)]
      exact steady_amplify works
  | rx =>
      rw [← switched false (.inr ⟨rfl, rfl⟩)]
      exact steady_amplify works
  | synth => exact plain _ (by decide) (by decide)
  | standby => exact plain _ (by decide) (by decide)
  | sleep => exact plain _ (by decide) (by decide)

/-- The amplifier is switched on the way to another mode. -/
theorem steady_setMode {newMode : ERf69Mode} :
    Finishes (Steady env initial rf registers) (iRf69SetMode quiet newMode)
      fun r w => r = 0 ∧ Steady env initial { rf with mode := newMode }
        (rf.amplified newMode registers) w := by
  apply finishes_called
  apply ensures_bind_value steady_access
  apply ensures_bind fun _ => Steady env initial { rf with mode := newMode }
    (rf.amplified newMode registers)
  · apply ensures_whenever
    · intro other
      have other : newMode ≠ rf.mode := by simpa using other
      apply ensures_bind _ (steady_readByte works)
      intro b
      apply ensures_bind _ ((steady_switchMode works other).weaken (fun _ reached => reached.2)
        (fun _ _ => id) fun _ _ => id)
      intro _
      apply ensures_bind_value steady_access
      apply ensures_bind fun _ => Steady env initial rf (rf.amplified newMode registers)
      · apply ensures_whenever
        · intro _
          apply ensures_bind fun _ => Steady env initial rf (rf.amplified newMode registers)
          · exact Finishes.ensures (finishes_muted (fun _ steady => steady)
              (steady_waitForReady works) fun _ _ _ steady => steady)
          · intro _
            exact ensures_pure fun _ => id
        · exact fun _ _ => id
      · intro _
        exact steady_update
    · intro same w steady
      have isMode : newMode = rf.mode := by simpa using same
      subst isMode
      rw [XRf69.amplified, if_neg fun both => both.2 rfl]
      exact steady
  · intro _
    apply ensures_bind fun _ => Steady env initial { rf with mode := newMode }
      (rf.amplified newMode registers)
    · exact ensures_noteMode fun _ steady => steady
    · intro _
      exact ensures_pure fun _ steady => ⟨rfl, steady⟩

theorem steady_trySetMode {newMode : ERf69Mode} :
    Ensures (Steady env initial rf registers) (tryInt (iRf69SetMode quiet newMode))
      (fun _ => Steady env initial { rf with mode := newMode } (rf.amplified newMode registers))
      early := by
  apply ensures_tryInt _ (steady_setMode works).ensures
  · exact fun _ _ reached _ => reached.2
  · rintro r w ⟨rfl, _⟩ negative
    exact absurd negative (by decide)

end Transfers

/-- A driver that is open, and a module at which no transfer fails. -/
def workingNode (mode : ERf69Mode) : Rf69World where
  rf := ⟨.replicate 66 0, 0, ⟨0, 0, 0, 0⟩, 0, mode, false, false, true, 0, 0⟩
  chip := ⟨mode.opmode, [], []⟩
  env _ := ⟨0, rfIrqflags1Modeready, [], 0, 0, 0⟩
  clock := 0
  muted := false
  spi := []
  events := []
  modes := []
  changes := []

end Sysio.Rf69
