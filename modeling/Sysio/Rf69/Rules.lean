import Sysio.Rf69.Driver

/-!
# Rules for the driver

What holds of every access to the registers, and of what is put together from such accesses, holds
of the functions of the driver. A judgement `Judged failing m` says something about the runs of
`m`, where `failing` are the outcomes by which `m` tells that a transfer has failed: a result of
`iRf69WriteReg` does so when it is negative (`Reported`), a statement when it returns a negative
value from the function that it stands in (`Early`). `Rf69Rules` is what a judgement has to obey;
each function then has one theorem. The rules leave out the FIFO, the driver's own structure, and
the registers of the operating mode and of the amplifier, which `iRf69SetMode` alone writes once
the driver is open.
-/

namespace Sysio.Rf69

open Routine

/-- No outcome. -/
def Never {α : Type} : Except Stop α → Prop := fun _ => False

/-- The routine has returned an error from within. -/
def Early {α : Type} (isError : ℤ → Prop) : Except Stop α → Prop := fun outcome =>
  ∃ r, isError r ∧ outcome = .error (.returned r)

/-- The routine has returned an error, from within or at its end. -/
def Reported (isError : ℤ → Prop) : Except Stop ℤ → Prop := fun outcome =>
  ∃ r, isError r ∧ outcome = .ok r

/-- How the body of a function fails. -/
def Ends (isError : ℤ → Prop) : Except Stop ℤ → Prop := fun outcome =>
  Early isError outcome ∨ Reported isError outcome

/-- The errors of most functions. -/
def Negative (r : ℤ) : Prop := r < 0

/-- The error of a measurement. -/
def IsIntMax (r : ℤ) : Prop := r = intMax

/-- A transfer has returned a negative number. -/
def Faulty : Except Stop (ℤ × List UInt8) → Prop := fun outcome =>
  ∃ r, r < 0 ∧ outcome = .ok (r, [])

/-- The registers that only a change of mode writes once the driver is open. -/
def ChangesMode (reg : UInt8) : Prop := reg = regOpmode ∨ reg = regTestpa1 ∨ reg = regTestpa2

instance (reg : UInt8) : Decidable (ChangesMode reg) := inferInstanceAs (Decidable (_ ∨ _))

/-- The transfers that read a register, or write one that is not among these. -/
def Rf69Transfer.IsPlain : Rf69Transfer → Prop
  | .readReg _ => True
  | .writeReg reg _ => ¬ChangesMode reg
  | _ => False

/-- What a judgement on parts of the driver has to satisfy to hold of its functions. -/
structure Rf69Rules (Judged : ∀ {α : Type}, (Except Stop α → Prop) → Driver α → Prop) : Prop where
  weaken : ∀ {α : Type} {failing failing' : Except Stop α → Prop} {m : Driver α},
    Judged failing m → (∀ outcome, failing outcome → failing' outcome) → Judged failing' m
  ended : ∀ {α : Type} (outcome : Except Stop α), Judged Never (ended outcome : Driver α)
  bind : ∀ {α β : Type} {failing : Except Stop α → Prop} {failing' : Except Stop β → Prop}
    {m : Driver α} {f : α → Driver β}, Judged failing m → (∀ a, Judged failing' (f a)) →
    (∀ a, failing (.ok a) → ∃ outcome, failing' outcome ∧ f a = Routine.ended outcome) →
    (∀ stop, failing (.error stop) → failing' (.error stop)) → Judged failing' (m >>= f)
  called : ∀ {isError : ℤ → Prop} {body : Driver ℤ}, Judged (Ends isError) body →
    Judged (Reported isError) (called body)
  muted : ∀ {α : Type} {failing : Except Stop α → Prop} {m : Driver α}, Judged failing m →
    Judged Never (muted m)
  nextAnswer : ∀ {ask : Rf69Ask}, Judged Never (nextAnswer ask)
  read : ∀ {α : Type} (read : XRf69 → α),
    Judged Never ((fun w => (.ok (read w.rf), w)) : Driver α)
  transact : ∀ {transfer : Rf69Transfer}, transfer.IsPlain → Judged Faulty (transact transfer)

namespace Rf69Rules

variable {Judged : ∀ {α : Type}, (Except Stop α → Prop) → Driver α → Prop}
  {α β : Type} {failing : Except Stop α → Prop} {failing' : Except Stop β → Prop}
  {isError : ℤ → Prop} {irq : Driver Unit}

section Combinators

variable (rules : Rf69Rules Judged)

include rules

theorem ofNever {m : Driver α} (judged : Judged Never m) : Judged failing m := by
  apply rules.weaken judged
  intro outcome impossible
  exact impossible.elim

theorem pure {a : α} : Judged failing (pure a : Driver α) := by
  apply rules.ofNever
  exact rules.ended (.ok a)

theorem returns {r : ℤ} : Judged failing (returns r : Driver α) := by
  apply rules.ofNever
  exact rules.ended (.error (.returned r))

/-- A part that reports nothing, and what follows it. -/
theorem after {m : Driver α} {f : α → Driver β} (first : Judged Never m)
    (rest : ∀ a, Judged failing' (f a)) : Judged failing' (m >>= f) := by
  apply rules.bind first rest
  · intro a impossible
    exact impossible.elim
  · intro stop impossible
    exact impossible.elim

/-- A statement and what follows it. -/
theorem next {m : Driver α} {f : α → Driver β} (first : Judged (Early isError) m)
    (rest : ∀ a, Judged (Early isError) (f a)) : Judged (Early isError) (m >>= f) := by
  apply rules.bind first rest
  · rintro a ⟨r, bad, ended⟩
    cases ended
  · rintro stop ⟨r, bad, ended⟩
    cases ended
    exact ⟨r, bad, rfl⟩

/-- A statement and what follows it in the body of a function. -/
theorem step {m : Driver α} {f : α → Driver ℤ} (first : Judged (Early isError) m)
    (rest : ∀ a, Judged (Ends isError) (f a)) : Judged (Ends isError) (m >>= f) := by
  apply rules.bind first rest
  · rintro a ⟨r, bad, ended⟩
    cases ended
  · rintro stop ⟨r, bad, ended⟩
    cases ended
    exact Or.inl ⟨r, bad, rfl⟩

/-- A function that ends with the result of another one. -/
theorem last {m : Driver ℤ} (judged : Judged (Reported isError) m) :
    Judged (Ends isError) m := by
  apply rules.weaken judged
  intro outcome reported
  exact Or.inr reported

/-- A function that passes on the failure of another one. -/
theorem passedOn {m : Driver ℤ} {f : ℤ → Driver ℤ} (judged : Judged (Reported Negative) m)
    (passes : ∀ r, r < 0 → f r = Pure.pure r) (rest : ∀ r, Judged (Reported Negative) (f r)) :
    Judged (Reported Negative) (m >>= f) := by
  apply rules.bind judged rest
  · rintro a ⟨r, negative, ended⟩
    cases ended
    exact ⟨.ok a, ⟨a, negative, rfl⟩, passes a negative⟩
  · rintro stop ⟨r, negative, ended⟩
    cases ended

theorem tryIntVal {call : Driver ℤ} {value : ℤ → ℤ} (judged : Judged (Reported Negative) call)
    (isValue : ∀ r, r < 0 → isError (value r)) :
    Judged (Early isError) (tryIntVal call value) := by
  apply rules.bind judged
  · intro r
    by_cases negative : r < 0
    · rw [if_pos negative]
      exact rules.returns
    · rw [if_neg negative]
      exact rules.pure
  · rintro a ⟨r, negative, ended⟩
    cases ended
    refine ⟨.error (.returned (value a)), ⟨value a, isValue a negative, rfl⟩, ?_⟩
    exact if_pos negative
  · rintro stop ⟨r, negative, ended⟩
    cases ended

theorem tryInt {call : Driver ℤ} (judged : Judged (Reported Negative) call) :
    Judged (Early Negative) (tryInt call) := by
  have tried : Judged (Early Negative) (Routine.tryIntVal call id) :=
    rules.tryIntVal judged fun r negative => negative
  apply rules.next tried
  intro r
  exact rules.pure

theorem tryOrMax {call : Driver ℤ} (judged : Judged (Reported Negative) call) :
    Judged (Early IsIntMax) (Routine.tryIntVal call fun _ => intMax) := by
  apply rules.tryIntVal judged
  intro r negative
  rfl

theorem tryByte {call : Driver ℤ} {failing : Except Stop ℤ → Prop}
    (judged : Judged failing call) : Judged Never (tryByte call) := by
  apply rules.after (rules.muted judged)
  intro r
  exact rules.pure

theorem tryBool {call : Driver ℤ} {failing : Except Stop ℤ → Prop}
    (judged : Judged failing call) : Judged Never (tryBool call) := by
  apply rules.after (rules.muted judged)
  intro r
  exact rules.pure

theorem ignored {call : Driver ℤ} {failing : Except Stop ℤ → Prop}
    (judged : Judged failing call) : Judged Never (ignored call) := by
  apply rules.after (rules.muted judged)
  intro r
  exact rules.pure

theorem whenever {condition : Bool} {body : Driver Unit} {failing : Except Stop Unit → Prop}
    (judged : Judged failing body) : Judged failing (whenever condition body) := by
  cases condition with
  | true => exact judged
  | false => exact rules.pure

/-- A failure ends the loop. -/
theorem whileRunning {body : Driver α} {again : α → Bool} (judged : Judged failing body)
    (leaves : ∀ a, failing (.ok a) → again a = false) (turns : ℕ) :
    Judged failing (whileRunning turns body again) := by
  induction turns with
  | zero => exact judged
  | succ turns later =>
      apply rules.bind judged
      · intro a
        by_cases goesOn : again a = true
        · rw [if_pos goesOn]
          exact later
        · rw [if_neg goesOn]
          exact rules.pure
      · intro a failed
        refine ⟨.ok a, failed, ?_⟩
        rw [leaves a failed]
        rfl
      · intro stop failed
        exact failed

theorem whileAgain {body : Driver α} {again : α → Bool} (judged : Judged failing body)
    (leaves : ∀ a, failing (.ok a) → again a = false) (turns : ℕ) :
    Judged failing (whileAgain turns body again) := by
  induction turns with
  | zero => exact rules.ofNever (rules.ended (.error .stuck))
  | succ turns later =>
      apply rules.bind judged
      · intro a
        by_cases goesOn : again a = true
        · rw [if_pos goesOn]
          exact later
        · rw [if_neg goesOn]
          exact rules.pure
      · intro a failed
        refine ⟨.ok a, failed, ?_⟩
        rw [leaves a failed]
        rfl
      · intro stop failed
        exact failed

theorem whileDo {body : α → Driver α} {again : α → Bool}
    (judged : ∀ a, Judged (Early isError) (body a)) (turns : ℕ) (a : α) :
    Judged (Early isError) (whileDo turns again body a) := by
  induction turns generalizing a with
  | zero => exact rules.pure
  | succ turns later =>
      change Judged (Early isError) (if again a then body a >>= Routine.whileDo turns again body
        else Pure.pure a)
      by_cases goesOn : again a = true
      · rw [if_pos goesOn]
        exact rules.next (judged a) later
      · rw [if_neg goesOn]
        exact rules.pure

theorem timer {timeout : ℤ} : Judged Never (vRf69TimerStart timeout) := by
  apply rules.after rules.nextAnswer
  intro answer
  exact rules.pure

theorem patience : Judged Never patience := by
  apply rules.after rules.nextAnswer
  intro answer
  exact rules.pure

theorem noPause : Judged Never quiet := rules.pure

end Combinators

/-! ### One theorem for each function -/

section Functions

variable (rules : Rf69Rules Judged) (pauses : Judged Never irq)

include rules pauses

theorem access {read : XRf69 → α} : Judged Never (access irq read) := by
  apply rules.after pauses
  intro _
  exact rules.read read

theorem readReg {reg : UInt8} : Judged (Reported Negative) (iRf69ReadReg irq reg) := by
  apply rules.after pauses
  intro _
  have plain : (Rf69Transfer.readReg reg).IsPlain := trivial
  apply rules.bind (rules.transact plain)
  · intro reply
    exact rules.pure
  · rintro reply ⟨r, negative, ended⟩
    cases ended
    exact ⟨.ok r, ⟨r, negative, rfl⟩, rfl⟩
  · rintro stop ⟨r, negative, ended⟩
    cases ended

theorem writeRegOf {reg data : UInt8}
    (writes : Judged Faulty (Sysio.Rf69.transact (.writeReg reg data))) :
    Judged (Reported Negative) (iRf69WriteReg irq reg data) := by
  apply rules.after pauses
  intro _
  apply rules.bind writes
  · intro reply
    exact rules.pure
  · rintro reply ⟨r, negative, ended⟩
    cases ended
    exact ⟨.ok r, ⟨r, negative, rfl⟩, rfl⟩
  · rintro stop ⟨r, negative, ended⟩
    cases ended

theorem writeReg {reg data : UInt8} (spares : ¬ChangesMode reg) :
    Judged (Reported Negative) (iRf69WriteReg irq reg data) := by
  have plain : (Rf69Transfer.writeReg reg data).IsPlain := spares
  exact rules.writeRegOf pauses (rules.transact plain)

theorem readIrqPin : Judged Never (iRf69ReadIrqPin irq) := by
  apply rules.after pauses
  intro _
  apply rules.after rules.nextAnswer
  intro answer
  exact rules.pure

theorem readByte {reg : UInt8} : Judged Never (Sysio.Rf69.tryByte (iRf69ReadReg irq reg)) :=
  rules.tryByte (rules.readReg pauses)

theorem write {reg data : UInt8} (spares : ¬ChangesMode reg) :
    Judged (Early Negative) (Routine.tryInt (iRf69WriteReg irq reg data)) :=
  rules.tryInt (rules.writeReg pauses spares)

theorem waitForReady {timeout : ℤ} : Judged Never (iRf69WaitForReady irq timeout) := by
  apply rules.after rules.timer
  intro turns
  apply rules.after
  · apply rules.whileRunning (rules.readByte pauses)
    intro b impossible
    exact impossible.elim
  · intro b
    exact rules.pure

theorem writeRegWithCheck {reg data : UInt8} {timeout : ℤ}
    (writes : Judged Faulty (Sysio.Rf69.transact (.writeReg reg data))) :
    Judged (Reported Negative) (iRf69WriteRegWithCheck irq reg data timeout) := by
  apply rules.called
  apply rules.after rules.timer
  intro turns
  apply rules.step
  · apply rules.whileRunning
    · apply rules.next (rules.tryInt (rules.writeRegOf pauses writes))
      intro _
      exact rules.ofNever (rules.readByte pauses)
    · rintro b ⟨r, negative, ended⟩
      cases ended
  · intro b
    exact rules.pure

theorem waitIrq {timeout : ℤ} : Judged Never (iRf69WaitIrq irq timeout) := by
  apply rules.after rules.timer
  intro turns
  apply rules.after
  · apply rules.whileRunning (rules.tryBool (rules.readIrqPin pauses))
    intro b impossible
    exact impossible.elim
  · intro bIrqHigh
    exact rules.pure

theorem avoidRxDeadLocks : Judged (Reported Negative) (iRf69AvoidRxDeadLocks irq) := by
  apply rules.called
  apply rules.after (rules.readByte pauses)
  intro b
  apply rules.step (rules.write pauses (by decide))
  intro _
  exact rules.pure

theorem setFrequencyRegs {freq : ℤ} : Judged (Reported Negative) (iSetFrequencyRegs irq freq) := by
  apply rules.called
  by_cases licensed : bIsLicensedFreq freq = true
  · rw [if_pos licensed]
    apply rules.step (rules.write pauses (by decide))
    intro _
    apply rules.step (rules.write pauses (by decide))
    intro _
    apply rules.step (rules.write pauses (by decide))
    intro _
    exact rules.pure
  · rw [if_neg licensed]
    exact rules.pure

theorem isEncrypted : Judged Never (iRf69isEncrypted irq) := by
  apply rules.after (rules.readByte pauses)
  intro b
  exact rules.pure

theorem nodeId : Judged Never (iRf69NodeId irq) := by
  apply rules.after (rules.readByte pauses)
  intro b
  exact rules.pure

theorem setNetworkId {ucNetId : UInt8} :
    Judged (Reported Negative) (iRf69SetNetworkId irq ucNetId) := by
  apply rules.called
  apply rules.step (rules.write pauses (by decide))
  intro _
  exact rules.pure

theorem networkId : Judged Never (iRf69NetworkId irq) := by
  apply rules.after (rules.readByte pauses)
  intro b
  exact rules.pure

theorem frequency : Judged Never (lRf69Frequency irq) := by
  apply rules.after (rules.readByte pauses)
  intro msb
  apply rules.after (rules.readByte pauses)
  intro mid
  apply rules.after (rules.readByte pauses)
  intro lsb
  exact rules.pure

theorem highPowerLevel {bOn : Bool} : Judged Never (rf69HighPowerLevel irq bOn) := by
  cases bOn with
  | true =>
      apply rules.after (rules.readByte pauses)
      intro b
      exact rules.pure
  | false =>
      apply rules.after (rules.access pauses)
      intro powerLevel
      exact rules.pure

theorem powerLevel : Judged Never (iRf69PowerLevel irq) := by
  apply rules.after (rules.readByte pauses)
  intro b
  apply rules.after (rules.access pauses)
  intro isRfm69hw
  exact rules.pure

theorem rssi {bForceTrigger : Bool} :
    Judged (Reported IsIntMax) (iRf69Rssi irq bForceTrigger) := by
  apply rules.called
  apply rules.step
  · apply rules.whenever
    apply rules.next (rules.tryOrMax (rules.writeReg pauses (by decide)))
    intro _
    apply rules.after rules.patience
    intro turns
    apply rules.after
    · apply rules.whileAgain (rules.readByte pauses)
      intro b impossible
      exact impossible.elim
    · intro b
      exact rules.pure
  · intro _
    apply rules.after (rules.readByte pauses)
    intro b
    exact rules.pure

theorem setDioMapping {dio map : UInt8} :
    Judged (Reported Negative) (iRf69SetDioMapping irq dio map) := by
  apply rules.called
  apply rules.after (rules.access pauses)
  intro isOpen
  split
  · apply rules.after (rules.readByte pauses)
    intro b
    apply rules.step
    · apply rules.write pauses
      split <;> decide
    · intro _
      exact rules.pure
  · exact rules.pure

theorem rcCalibration : Judged (Reported Negative) (iRf69RcCalibration irq) := by
  apply rules.called
  apply rules.step (rules.write pauses (by decide))
  intro _
  apply rules.after rules.patience
  intro turns
  apply rules.after
  · apply rules.whileAgain (rules.readByte pauses)
    intro b impossible
    exact impossible.elim
  · intro b
    exact rules.pure

section OperatingMode

variable (writes : ∀ reg data, Judged Faulty (Sysio.Rf69.transact (.writeReg reg data)))

include writes

theorem tryWrite {reg data : UInt8} :
    Judged (Early Negative) (Routine.tryInt (iRf69WriteReg irq reg data)) :=
  rules.tryInt (rules.writeRegOf pauses (writes reg data))

theorem setHighPowerRegs {bOn : Bool} :
    Judged (Reported Negative) (iRf69SetHighPowerRegs irq bOn) := by
  apply rules.called
  apply rules.step (rules.tryWrite pauses writes)
  intro _
  apply rules.step (rules.tryWrite pauses writes)
  intro _
  exact rules.pure

theorem switchMode {newMode : ERf69Mode} {b : UInt8} :
    Judged (Early Negative) (rf69SwitchMode irq newMode b) := by
  cases newMode with
  | tx =>
      apply rules.next (rules.tryWrite pauses writes)
      intro _
      apply rules.after (rules.access pauses)
      intro isRfm69hw
      exact rules.whenever (rules.tryInt (rules.setHighPowerRegs pauses writes))
  | rx =>
      apply rules.next (rules.tryWrite pauses writes)
      intro _
      apply rules.after (rules.access pauses)
      intro isRfm69hw
      exact rules.whenever (rules.tryInt (rules.setHighPowerRegs pauses writes))
  | synth => exact rules.tryWrite pauses writes
  | standby => exact rules.tryWrite pauses writes
  | sleep => exact rules.tryWrite pauses writes

theorem setModeOf {newMode : ERf69Mode}
    (stores : Judged Never (update irq fun rf => { rf with mode := newMode }))
    (notes : Judged Never (noteMode newMode)) :
    Judged (Reported Negative) (iRf69SetMode irq newMode) := by
  apply rules.called
  apply rules.after (rules.access pauses)
  intro mode
  apply rules.step
  · apply rules.whenever
    apply rules.after (rules.readByte pauses)
    intro b
    apply rules.next (rules.switchMode pauses writes)
    intro _
    apply rules.after (rules.access pauses)
    intro mode
    apply rules.after (rules.whenever (rules.ignored (rules.waitForReady pauses)))
    intro _
    exact rules.ofNever stores
  · intro _
    apply rules.after notes
    intro _
    exact rules.pure

theorem writeConfig {elmts : List (UInt8 × UInt8)} :
    Judged (Early Negative) (rf69WriteConfig irq elmts) := by
  induction elmts with
  | nil => exact rules.pure
  | cons elmt later rest =>
      have written : Judged (Reported Negative) (iRf69WriteConstElmt irq elmt) := by
        by_cases ends : elmt.1 = 255
        · exact (congrArg _ (if_neg (not_not_intro ends))).mpr rules.pure
        · rw [iRf69WriteConstElmt, if_pos ends]
          exact rules.writeRegOf pauses (writes elmt.1 elmt.2)
      have tried : Judged (Early Negative)
          (Routine.tryIntVal (iRf69WriteConstElmt irq elmt) id) :=
        rules.tryIntVal written fun r negative => negative
      apply rules.next tried
      intro ret
      exact rules.whenever rest

end OperatingMode

end Functions

end Rf69Rules

end Sysio.Rf69
