import Sysio.Rf69.Faults
import Sysio.Rf69.Primitives

/-!
# What an operation tells of a failure

An operation of which a failing transfer is heard returns its error value. Here it is shown the
other way round: where no failure is heard, an operation that is not refused for its arguments
does not return its error value, so that a failure that is not heard is not told.
-/

namespace Sysio.Rf69

open Routine

variable {α β : Type} {isError : ℤ → Prop} {k : ℕ}

/-- The transfer has failed, and the code looks at it. -/
def Rf69Entry.tells (entry : Rf69Entry) : Bool := entry.failed && entry.heard

/-- `k` failures at least have been heard, and the next one will be. -/
def Going (k : ℕ) (w : Rf69World) : Prop :=
  w.muted = false ∧ k ≤ w.spi.countP Rf69Entry.tells

/-- A failure has been heard, besides `k` others. -/
def Told (k : ℕ) (w : Rf69World) : Prop := k < w.spi.countP Rf69Entry.tells

/-- A loop is stuck, or an error is returned, and a failure has been heard. -/
def EndsTold (isError : ℤ → Prop) (k : ℕ) (stop : Stop) (w : Rf69World) : Prop :=
  stop = .stuck ∨ ∃ r, stop = .returned r ∧ isError r ∧ Told k w

/-- The result is an error just if a failure has been heard. -/
def Answered (isError : ℤ → Prop) (k : ℕ) (r : ℤ) (w : Rf69World) : Prop :=
  (¬isError r ∧ Going k w) ∨ (isError r ∧ Told k w)

/-- A statement that leaves its function for no other reason than a failure that is heard. -/
def Goes (isError : ℤ → Prop) (k : ℕ) (m : Driver α) : Prop :=
  Ensures (Going k) m (fun _ => Going k) (EndsTold isError k)

/-- The body of a function that returns its error value for no other reason. -/
def Concludes (isError : ℤ → Prop) (k : ℕ) (body : Driver ℤ) : Prop :=
  Ensures (Going k) body (Answered isError k) (EndsTold isError k)

/-- A function that returns an error value just if a failure is heard in it. -/
def Answers (isError : ℤ → Prop) (k : ℕ) (call : Driver ℤ) : Prop :=
  Ensures (Going k) call (Answered isError k) fun stop _ => stop = .stuck

/-! ### Statements -/

theorem Goes.next {m : Driver α} {f : α → Driver β} (first : Goes isError k m)
    (rest : ∀ a, Goes isError k (f a)) : Goes isError k (m >>= f) :=
  ensures_bind _ first rest

theorem Goes.step {m : Driver α} {f : α → Driver ℤ} (first : Goes isError k m)
    (rest : ∀ a, Concludes isError k (f a)) : Concludes isError k (m >>= f) :=
  ensures_bind _ first rest

theorem Goes.answers {m : Driver α} {f : α → Driver ℤ}
    (first : Ensures (Going k) m (fun _ => Going k) fun stop _ => stop = .stuck)
    (rest : ∀ a, Answers isError k (f a)) : Answers isError k (m >>= f) :=
  ensures_bind _ first rest

theorem goes_pure {a : α} : Goes isError k (pure a) := ensures_pure fun _ => id

theorem ensures_answer {early : Stop → Rf69World → Prop} {r : ℤ} (fine : ¬isError r) :
    Ensures (Going k) (pure r : Driver ℤ) (Answered isError k) early :=
  ensures_pure fun _ going => .inl ⟨fine, going⟩

theorem Concludes.called {body : Driver ℤ} (concludes : Concludes isError k body) :
    Answers isError k (called body) := by
  apply ensures_called
  apply concludes.weaken (fun _ => id) (fun _ _ => id)
  rintro stop w (rfl | ⟨r, rfl, bad, told⟩) r' isReturn
  · cases isReturn
  · cases isReturn
    exact .inr ⟨bad, told⟩

theorem Answers.last {call : Driver ℤ} (answers : Answers isError k call) :
    Concludes isError k call :=
  answers.weaken (fun _ => id) (fun _ _ => id) fun _ _ => .inl

theorem Answers.tryIntVal {call : Driver ℤ} {value : ℤ → ℤ} (answers : Answers Negative k call)
    (isValue : ∀ r, r < 0 → isError (value r)) :
    Ensures (Going k) (tryIntVal call value) (fun r w => 0 ≤ r ∧ Going k w)
      (EndsTold isError k) := by
  apply ensures_tryIntVal (Answered Negative k)
  · exact answers.weaken (fun _ => id) (fun _ _ => id) fun _ _ => .inl
  · rintro r w (⟨-, going⟩ | ⟨negative, -⟩) positive
    · exact ⟨positive, going⟩
    · exact absurd positive (Int.not_le.mpr negative)
  · rintro r w (⟨positive, -⟩ | ⟨-, told⟩) negative
    · exact absurd negative positive
    · exact .inr ⟨value r, rfl, isValue r negative, told⟩

theorem Answers.tryOrMax {call : Driver ℤ} (answers : Answers Negative k call) :
    Ensures (Going k) (Routine.tryIntVal call fun _ => intMax) (fun r w => 0 ≤ r ∧ Going k w)
      (EndsTold IsIntMax k) :=
  answers.tryIntVal fun _ _ => rfl

theorem Answers.tryInt {call : Driver ℤ} (answers : Answers Negative k call) :
    Goes Negative k (tryInt call) := by
  have tried : Ensures (Going k) (Routine.tryIntVal call id) (fun r w => 0 ≤ r ∧ Going k w)
      (EndsTold Negative k) := answers.tryIntVal fun _ negative => negative
  apply ensures_bind _ tried
  intro r
  exact ensures_pure fun w reached => reached.2

theorem Goes.whenever {condition : Bool} {body : Driver Unit} (goes : Goes isError k body) :
    Goes isError k (whenever condition body) :=
  ensures_whenever (fun _ => goes) fun _ _ => id

theorem Goes.whileRunning {body : Driver α} {again : α → Bool} (goes : Goes isError k body)
    (turns : ℕ) : Goes isError k (whileRunning turns body again) :=
  ensures_whileRunning (goes.weaken (fun _ => id) (fun _ _ going => ⟨going, fun _ => going⟩)
    fun _ _ => id) turns

theorem Goes.whileAgain {body : Driver α} {again : α → Bool} (goes : Goes isError k body)
    (turns : ℕ) : Goes isError k (whileAgain turns body again) :=
  ensures_whileAgain (goes.weaken (fun _ => id) (fun _ _ going => ⟨going, fun _ => going⟩)
    fun _ _ => id) (fun _ _ => .inl rfl) turns

/-- A function that passes on the failure of another one. -/
theorem Answers.passedOn {call : Driver ℤ} {f : ℤ → Driver ℤ} (answers : Answers Negative k call)
    (passes : ∀ r, r < 0 → f r = pure r)
    (rest : ∀ r, ¬ r < 0 → Answers Negative k (f r)) : Answers Negative k (call >>= f) := by
  apply ensures_bind _ answers
  intro r
  by_cases negative : r < 0
  · rw [passes r negative]
    apply ensures_pure
    rintro w (⟨positive, -⟩ | told)
    · exact absurd negative positive
    · exact .inr told
  · apply (rest r negative).weaken _ (fun _ _ => id) fun _ _ => id
    rintro w (⟨-, going⟩ | ⟨isNegative, -⟩)
    · exact going
    · exact absurd isNegative negative

/-! ### Primitives -/

/-- It does not leave its function. -/
def Settles (m : Driver α) : Prop :=
  Ensures (fun _ => True) m (fun _ _ => True) fun stop _ => stop = .stuck

theorem settles_called {body : Driver ℤ} : Settles (called body) := by
  have keeps : Keeps (fun _ => True) (called body) := fun _ _ => trivial
  exact keeps.called_ensures

theorem Settles.muted {m : Driver α} (settles : Settles m) : Settles (muted m) := by
  intro w _
  rcases settles { w with muted := true } trivial with
    ⟨a, next, runs, -⟩ | ⟨stop, next, runs, isStuck⟩
  · exact .inl ⟨a, { next with muted := w.muted }, by rw [Rf69.muted, runs], trivial⟩
  · exact .inr ⟨stop, { next with muted := w.muted }, by rw [Rf69.muted, runs], isStuck⟩

/-- What is not heard of a part that does not leave its function. -/
theorem going_of_heeds {failing : Except Stop α → Prop} {m : Driver α} (heeds : Heeds failing m)
    (settles : Settles m) :
    Ensures (Going k) m (fun _ => Going k) fun stop _ => stop = .stuck := by
  rintro w ⟨unmuted, heard⟩
  rcases heeds w with ⟨entries, spi, muted, -, -⟩
  have going : Going k (m w).2 := by
    refine ⟨muted.trans unmuted, ?_⟩
    rw [spi, List.countP_append]
    omega
  rcases settles w trivial with ⟨a, next, runs, -⟩ | ⟨stop, next, runs, isStuck⟩
  · rw [runs] at going
    exact .inl ⟨a, next, runs, going⟩
  · exact .inr ⟨stop, next, runs, isStuck⟩

theorem goes_of_settles {m : Driver α}
    (settles : Ensures (Going k) m (fun _ => Going k) fun stop _ => stop = .stuck) :
    Goes isError k m :=
  settles.weaken (fun _ => id) (fun _ _ => id) fun _ _ => .inl

section Primitives

variable {reg : UInt8} {timeout : ℤ}

theorem goes_access {read : XRf69 → α} : Goes isError k (access quiet read) :=
  ensures_access ensures_quiet fun _ => id

theorem goes_update {write : XRf69 → XRf69} : Goes isError k (update quiet write) :=
  ensures_update ensures_quiet fun _ => id

theorem goes_note {event : Rf69Event} : Goes isError k (note event) := ensures_note fun _ => id

theorem settles_answer {ask : Rf69Ask} :
    Ensures (Going k) (do
        let answer ← nextAnswer ask
        pure answer.patience) (fun _ => Going k) fun stop _ => stop = .stuck := by
  apply ensures_bind fun _ => Going k
  · exact ensures_nextAnswer fun _ => id
  · exact fun _ => ensures_pure fun _ => id

theorem goes_timer : Goes isError k (vRf69TimerStart timeout) := goes_of_settles settles_answer

theorem goes_patience : Goes isError k patience := goes_of_settles settles_answer

/-- Whatever happens to the registers. -/
theorem trivialFrame : Rf69Frame fun _ => True where
  nextAnswer _ _ _ := trivial
  muted _ _ _ := trivial
  fails _ _ _ _ _ := trivial
  serves _ _ _ _ _ := trivial

theorem settles_readByte : Settles (tryByte (iRf69ReadReg quiet reg)) :=
  (trivialFrame.readByte ensures_quiet).ensures

theorem settles_waitForReady : Settles (iRf69WaitForReady quiet timeout) :=
  (trivialFrame.waitForReady ensures_quiet).ensures

theorem Settles.tryBool {call : Driver ℤ} (settles : Settles call) : Settles (tryBool call) := by
  apply ensures_bind _ settles.muted
  exact fun _ => ensures_pure fun _ => id

theorem Settles.ignored {call : Driver ℤ} (settles : Settles call) :
    Settles (ignored call) := by
  apply ensures_bind _ settles.muted
  exact fun _ => ensures_pure fun _ => id

theorem goes_readByte : Goes isError k (tryByte (iRf69ReadReg quiet reg)) :=
  goes_of_settles (going_of_heeds (heeds_base.readByte heeds_base.noPause) settles_readByte)

theorem goes_tryReady : Goes isError k (tryBool (iRf69WaitForReady quiet timeout)) :=
  goes_of_settles (going_of_heeds (heeds_base.tryBool (heeds_base.waitForReady heeds_base.noPause))
    settles_waitForReady.tryBool)

theorem goes_ignoreReady : Goes isError k (ignored (iRf69WaitForReady quiet timeout)) :=
  goes_of_settles (going_of_heeds (heeds_base.ignored (heeds_base.waitForReady heeds_base.noPause))
    settles_waitForReady.ignored)

theorem answers_transact {transfer : Rf69Transfer} {f : ℤ × List UInt8 → Driver ℤ}
    (served : ∀ (chip : Rf69Module) value,
      Answers Negative k (f (chip.reply value transfer)))
    (failed : ∀ r, r < 0 → f (r, []) = pure r) :
    Answers Negative k (transact transfer >>= f) := by
  rintro w ⟨unmuted, heard⟩
  by_cases fails : (w.env w.clock).fault < 0
  · left
    have runs : transact transfer w = (.ok ((w.env w.clock).fault, []), w.asked transfer) :=
      if_pos fails
    rw [bind_of_ok runs, failed _ fails]
    refine ⟨_, _, rfl, .inr ⟨fails, ?_⟩⟩
    have tells : Rf69Entry.tells ⟨transfer, decide ((w.env w.clock).fault < 0), !w.muted⟩ =
        true := by
      rw [Rf69Entry.tells, unmuted, decide_eq_true fails]
      rfl
    rw [Told, Rf69World.asked, List.countP_append, List.countP_singleton, if_pos tells]
    omega
  · have runs : transact transfer w =
        (.ok (w.chip.reply (w.env w.clock).value transfer), w.served transfer) := if_neg fails
    rw [bind_of_ok runs]
    apply served w.chip (w.env w.clock).value
    refine ⟨unmuted, ?_⟩
    rw [Rf69World.served, Rf69World.asked, List.countP_append]
    omega

theorem answers_readReg : Answers Negative k (iRf69ReadReg quiet reg) := by
  apply answers_transact
  · intro chip value
    apply ensures_answer
    rw [Rf69Module.reply, Negative, Int.not_lt]
    split
    · exact Int.natCast_nonneg _
    · split
      · exact Int.natCast_nonneg _
      · exact Int.natCast_nonneg _
  · exact fun _ _ => rfl

theorem answers_writeReg {data : UInt8} : Answers Negative k (iRf69WriteReg quiet reg data) := by
  apply answers_transact
  · exact fun _ _ => ensures_answer (by decide : ¬(1 : ℤ) < 0)
  · exact fun _ _ => rfl

theorem answers_writeBlock {data : List UInt8} :
    Answers Negative k (iRf69WriteBlock quiet reg data) := by
  apply answers_transact
  · exact fun _ _ => ensures_answer (Int.not_lt.mpr (Int.natCast_nonneg _))
  · exact fun _ _ => rfl

theorem goes_write {data : UInt8} : Goes Negative k (tryInt (iRf69WriteReg quiet reg data)) :=
  answers_writeReg.tryInt

end Primitives

/-! ### One theorem for each function -/

section Functions

variable {reg : UInt8} {timeout : ℤ}

theorem answers_truth {condition : Prop} [Decidable condition] :
    Answers Negative k (pure (if condition then 1 else 0)) := by
  apply ensures_answer
  rw [Negative]
  split <;> decide

theorem concludes_zero : Concludes Negative k (pure 0) := ensures_answer (lt_irrefl 0)

theorem answers_waitForReady : Answers Negative k (iRf69WaitForReady quiet timeout) := by
  apply Goes.answers settles_answer
  intro turns
  apply Goes.answers
  · apply ensures_whileRunning
    apply (going_of_heeds (heeds_base.readByte heeds_base.noPause) settles_readByte).weaken
    · exact fun _ => id
    · exact fun _ _ going => ⟨going, fun _ => going⟩
    · exact fun _ _ => id
  · intro b
    exact answers_truth

theorem answers_writeRegWithCheck {data : UInt8} :
    Answers Negative k (iRf69WriteRegWithCheck quiet reg data timeout) := by
  apply Concludes.called
  apply goes_timer.step
  intro turns
  apply Goes.step
  · apply Goes.whileRunning
    apply goes_write.next
    intro _
    exact goes_readByte
  · intro b
    exact answers_truth.last

theorem answers_setHighPowerRegs {bOn : Bool} :
    Answers Negative k (iRf69SetHighPowerRegs quiet bOn) := by
  apply Concludes.called
  apply goes_write.step
  intro _
  apply goes_write.step
  intro _
  exact concludes_zero

theorem answers_avoidRxDeadLocks : Answers Negative k (iRf69AvoidRxDeadLocks quiet) := by
  apply Concludes.called
  apply goes_readByte.step
  intro b
  apply goes_write.step
  intro _
  exact concludes_zero

theorem goes_switchMode {newMode : ERf69Mode} {b : UInt8} :
    Goes Negative k (rf69SwitchMode quiet newMode b) := by
  cases newMode with
  | tx =>
      apply goes_write.next
      intro _
      apply goes_access.next
      intro isRfm69hw
      exact answers_setHighPowerRegs.tryInt.whenever
  | rx =>
      apply goes_write.next
      intro _
      apply goes_access.next
      intro isRfm69hw
      exact answers_setHighPowerRegs.tryInt.whenever
  | synth => exact goes_write
  | standby => exact goes_write
  | sleep => exact goes_write

theorem answers_setMode {newMode : ERf69Mode} :
    Answers Negative k (iRf69SetMode quiet newMode) := by
  apply Concludes.called
  apply goes_access.step
  intro mode
  apply Goes.step
  · apply Goes.whenever
    apply goes_readByte.next
    intro b
    apply goes_switchMode.next
    intro _
    apply goes_access.next
    intro mode
    apply goes_ignoreReady.whenever.next
    intro _
    exact goes_update
  · intro _
    have notes : Goes Negative k (noteMode newMode) := ensures_noteMode fun _ => id
    apply notes.step
    intro _
    exact concludes_zero

theorem answers_setFrequencyRegs {freq : ℤ} (licensed : bIsLicensedFreq freq = true) :
    Answers Negative k (iSetFrequencyRegs quiet freq) := by
  apply Concludes.called
  rw [if_pos licensed]
  apply goes_write.step
  intro _
  apply goes_write.step
  intro _
  apply goes_write.step
  intro _
  exact concludes_zero

theorem answers_readByte {value : UInt8 → ℤ} (fine : ∀ b, ¬isError (value b)) :
    Answers isError k (do
      let b ← tryByte (iRf69ReadReg quiet reg)
      pure (value b)) := by
  apply Goes.answers (going_of_heeds (heeds_base.readByte heeds_base.noPause) settles_readByte)
  intro b
  exact ensures_answer (fine b)

theorem answers_frequency : Answers Negative k (lRf69Frequency quiet) := by
  have reads : ∀ {reg}, Ensures (Going k) (tryByte (iRf69ReadReg quiet reg))
      (fun _ => Going k) fun stop _ => stop = .stuck :=
    going_of_heeds (heeds_base.readByte heeds_base.noPause) settles_readByte
  apply Goes.answers reads
  intro msb
  apply Goes.answers reads
  intro mid
  apply Goes.answers reads
  intro lsb
  apply ensures_answer
  rw [Negative, Int.not_lt]
  omega

theorem answers_setFrequency {freq : ℤ} (licensed : bIsLicensedFreq freq = true) :
    Answers Negative k (iRf69SetFrequency quiet freq) := by
  apply Concludes.called
  apply goes_access.step
  intro oldMode
  apply answers_setMode.tryInt.whenever.step
  intro _
  apply (answers_setFrequencyRegs licensed).tryInt.step
  intro _
  apply answers_setMode.tryInt.whenever.step
  intro _
  exact answers_setMode.last

theorem answers_setEncryptKey {key : Option (List UInt8)}
    (fits : key.isSome = true → (key.getD []).length = 16) :
    Answers Negative k (iRf69SetEncryptKey quiet key) := by
  apply Concludes.called
  apply answers_setMode.tryInt.step
  intro _
  apply Goes.step
  · apply ensures_whenever
    · intro isSome
      have accepted : decide ((key.getD []).length ≠ 16) = false := by
        rw [fits isSome]
        rfl
      rw [accepted]
      exact answers_writeBlock.tryInt
    · exact fun _ _ => id
  · intro _
    apply goes_readByte.step
    intro b
    apply goes_write.step
    intro _
    exact concludes_zero

theorem answers_setNodeId {ucNodeId : UInt8} :
    Answers Negative k (iRf69SetNodeId quiet ucNodeId) := by
  apply Concludes.called
  apply goes_write.step
  intro _
  apply goes_update.step
  intro _
  exact concludes_zero

theorem answers_setNetworkId {ucNetId : UInt8} :
    Answers Negative k (iRf69SetNetworkId quiet ucNetId) := by
  apply Concludes.called
  apply goes_write.step
  intro _
  exact concludes_zero

theorem goes_highPowerLevel {bOn : Bool} : Goes isError k (rf69HighPowerLevel quiet bOn) := by
  cases bOn with
  | true =>
      apply goes_readByte.next
      intro b
      exact goes_pure
  | false =>
      apply goes_access.next
      intro powerLevel
      exact goes_pure

theorem answers_setHighPower {bOn : Bool} :
    Answers Negative k (iRf69SetHighPower quiet bOn) := by
  apply Concludes.called
  apply goes_write.step
  intro _
  apply goes_highPowerLevel.step
  intro palevel
  apply goes_write.step
  intro _
  apply goes_update.step
  intro _
  exact concludes_zero

theorem answers_setPowerLevel {level : ℤ} :
    Answers Negative k (iRf69SetPowerLevel quiet level) := by
  apply Concludes.called
  apply goes_access.step
  intro isRfm69hw
  apply goes_readByte.step
  intro b
  apply goes_write.step
  intro _
  apply goes_update.step
  intro _
  exact concludes_zero

theorem answers_powerLevel : Answers Negative k (iRf69PowerLevel quiet) := by
  apply Goes.answers (going_of_heeds (heeds_base.readByte heeds_base.noPause) settles_readByte)
  intro b
  apply Goes.answers
  · exact ensures_access ensures_quiet fun _ => id
  · intro isRfm69hw
    exact ensures_answer (Int.not_lt.mpr (Int.natCast_nonneg _))

/-- The sum may be `INT_MAX` for a calibration factor near it. -/
theorem answers_temperature {iCalFactor : ℤ} (small : iCalFactor + 170 < intMax) :
    Answers IsIntMax k (iRf69Temperature quiet iCalFactor) := by
  apply Concludes.called
  apply ensures_bind _ answers_setMode.tryOrMax
  intro _
  apply Ensures.weaken _ (fun _ reached => reached.2) (fun _ _ => id) fun _ _ => id
  apply ensures_bind _ answers_writeReg.tryOrMax
  intro _
  apply Ensures.weaken _ (fun _ reached => reached.2) (fun _ _ => id) fun _ _ => id
  apply goes_patience.step
  intro turns
  apply Goes.step
  · apply Goes.whileAgain
    exact answers_readReg.tryOrMax.weaken (fun _ => id) (fun _ _ reached => reached.2) fun _ _ => id
  · intro _
    apply ensures_bind _ answers_readReg.tryOrMax
    intro x
    apply ensures_pure
    rintro w ⟨positive, going⟩
    refine .inl ⟨?_, going⟩
    rw [IsIntMax, rf69TempCal]
    omega

theorem answers_rssi {bForceTrigger : Bool} :
    Answers IsIntMax k (iRf69Rssi quiet bForceTrigger) := by
  apply Concludes.called
  apply Goes.step
  · apply Goes.whenever
    apply ensures_bind _ answers_writeReg.tryOrMax
    intro _
    apply Ensures.weaken _ (fun _ reached => reached.2) (fun _ _ => id) fun _ _ => id
    apply goes_patience.next
    intro turns
    apply Goes.next
    · exact goes_readByte.whileAgain turns
    · intro b
      exact goes_pure
  · intro _
    apply goes_readByte.step
    intro b
    apply ensures_answer
    rw [IsIntMax, intMax]
    omega

theorem answers_setPromiscuous {bOn : Bool} :
    Answers Negative k (iRf69SetPromiscuous quiet bOn) := by
  apply Concludes.called
  apply goes_access.step
  intro promiscuous
  apply Goes.step
  · apply Goes.whenever
    apply goes_readByte.next
    intro b
    apply goes_write.next
    intro _
    exact goes_update
  · intro _
    exact concludes_zero

theorem answers_rcCalibration : Answers Negative k (iRf69RcCalibration quiet) := by
  apply Concludes.called
  apply goes_write.step
  intro _
  apply goes_patience.step
  intro turns
  apply Goes.step
  · exact goes_readByte.whileAgain turns
  · intro b
    exact concludes_zero

theorem answers_setDioMapping {dio map : UInt8} :
    Ensures (fun w => Going k w ∧
        (w.rf.isOpen = true ∧ 1 ≤ dio ∧ dio ≤ 5 ∧ dio ≠ 4 ∧ map ≤ 3))
      (iRf69SetDioMapping quiet dio map) (Answered Negative k) fun stop _ => stop = .stuck := by
  apply ensures_called
  apply ensures_bind fun isOpen w => Going k w ∧
    (isOpen = true ∧ 1 ≤ dio ∧ dio ≤ 5 ∧ dio ≠ 4 ∧ map ≤ 3)
  · exact ensures_access ensures_quiet fun _ => id
  · intro isOpen
    by_cases accepted : isOpen = true ∧ 1 ≤ dio ∧ dio ≤ 5 ∧ dio ≠ 4 ∧ map ≤ 3
    · rw [if_pos accepted]
      have body : Concludes Negative k (do
          let b ← tryByte (iRf69ReadReg quiet (if dio < 5 then regDiomapping1 else regDiomapping2))
          tryInt (iRf69WriteReg quiet (if dio < 5 then regDiomapping1 else regDiomapping2)
            (b &&& ~~~((3 : UInt8) <<< (if dio < 5 then (3 - dio) * 2 else 4)) |||
              map <<< (if dio < 5 then (3 - dio) * 2 else 4)))
          pure 0) := by
        apply goes_readByte.step
        intro b
        apply goes_write.step
        intro _
        exact concludes_zero
      apply body.weaken (fun _ start => start.1) fun _ _ => id
      rintro stop w (rfl | ⟨r, rfl, bad, told⟩) r' isReturn
      · cases isReturn
      · cases isReturn
        exact .inr ⟨bad, told⟩
    · rintro w ⟨-, isAccepted⟩
      exact absurd isAccepted accepted

theorem answers_startReceiving : Answers Negative k (iRf69StartReceiving quiet) := by
  apply Concludes.called
  apply goes_update.step
  intro _
  apply answers_avoidRxDeadLocks.tryInt.step
  intro _
  apply goes_readByte.step
  intro b
  apply goes_write.step
  intro _
  exact answers_setMode.last

theorem settles_access {read : XRf69 → α} :
    Ensures (Going k) (access quiet read) (fun _ => Going k) fun stop _ => stop = .stuck :=
  ensures_access ensures_quiet fun _ => id

theorem answers_receiveDone : Answers Negative k (iRf69ReceiveDone quiet quiet) := by
  apply Goes.answers ensures_quiet
  intro _
  apply Goes.answers ensures_quiet
  intro _
  apply Goes.answers settles_access
  intro mode
  by_cases receives : mode = .rx
  · rw [if_pos receives]
    apply Goes.answers settles_access
    intro payloadLen
    by_cases taken : 0 < payloadLen
    · rw [if_pos taken]
      apply answers_setMode.passedOn
      · intro r negative
        rw [if_neg negative.ne]
      · intro r positive
        apply ensures_answer
        rw [Negative]
        split
        · decide
        · exact positive
    · rw [if_neg taken]
      exact ensures_answer (lt_irrefl 0)
  · rw [if_neg receives]
    exact answers_startReceiving

theorem answers_ackReceived {fromNodeId : UInt8} :
    Answers Negative k (iRf69AckReceived quiet quiet fromNodeId) := by
  apply answers_receiveDone.passedOn
  · intro r negative
    have failed : r ≠ 1 := ne_of_lt (lt_trans negative one_pos)
    exact if_neg failed
  · intro r positive
    by_cases done : r = 1
    · rw [if_pos done]
      apply Goes.answers settles_access
      intro sender
      apply Goes.answers settles_access
      intro ctl
      exact answers_truth
    · rw [if_neg done]
      exact ensures_answer positive

theorem answers_waitAckReceived {fromNodeId : UInt8} :
    Answers Negative k (iRf69WaitAckReceived quiet quiet fromNodeId timeout) := by
  apply Goes.answers settles_answer
  intro turns
  apply ensures_whileRunning
  apply answers_ackReceived.weaken (fun _ => id)
  · rintro r w answered
    refine ⟨answered, fun again => ?_⟩
    rcases answered with ⟨-, going⟩ | ⟨negative, -⟩
    · exact going
    · exact absurd (of_decide_eq_true again) negative.ne
  · exact fun _ _ => id

theorem answers_canSend : Answers Negative k (iRf69CanSend quiet) := by
  apply Concludes.called
  apply ensures_bind _ (answers_rssi.weaken (fun _ => id) (fun _ _ => id) fun _ _ => .inl)
  intro rssi
  by_cases failed : rssi = intMax
  · rw [if_pos failed]
    apply ensures_pure
    rintro w (⟨fine, -⟩ | ⟨-, told⟩)
    · exact absurd failed fine
    · exact .inr ⟨neg_one_lt_zero, told⟩
  · rw [if_neg failed]
    have body : Concludes Negative k (do
        let mode ← access quiet (·.mode)
        let payloadLen ← access quiet (·.hdr.payloadLen)
        if mode = .rx ∧ payloadLen = 0 ∧ rssi < rf69CsmaMinLevelDbm then do
          tryInt (iRf69SetMode quiet .standby)
          pure 1
        else pure 0) := by
      apply goes_access.step
      intro mode
      apply goes_access.step
      intro payloadLen
      split
      · apply answers_setMode.tryInt.step
        intro _
        exact ensures_answer (by decide : ¬(1 : ℤ) < 0)
      · exact concludes_zero
    apply body.weaken _ (fun _ _ => id) fun _ _ => id
    rintro w (⟨-, going⟩ | ⟨isMax, -⟩)
    · exact going
    · exact absurd isMax failed

theorem not_negative_toInt (b : Bool) : ¬Negative b.toInt := by
  rw [Negative]
  cases b <;> decide

theorem answers_waitToSend : Answers Negative k (iRf69WaitToSend quiet quiet timeout) := by
  have tries : Goes Negative k (tryBool (iRf69CanSend quiet)) :=
    goes_of_settles (going_of_heeds
      (heeds_base.tryBool (heeds_rules.canSend heeds_rules.noPause heeds_rules.setMode))
      settles_called.tryBool)
  apply Concludes.called
  apply goes_timer.step
  intro turns
  apply answers_avoidRxDeadLocks.tryInt.step
  intro _
  apply Goes.step
  · apply Goes.whileRunning
    apply tries.next
    intro bCanSend
    apply answers_receiveDone.tryInt.whenever.next
    intro _
    exact goes_pure
  · intro bCanSend
    apply goes_note.step
    intro _
    exact ensures_answer (not_negative_toInt bCanSend)

theorem settles_readIrqPin : Settles (iRf69ReadIrqPin quiet) := by
  apply ensures_bind _ ensures_quiet
  intro _
  apply ensures_bind fun _ _ => True
  · exact ensures_nextAnswer fun _ => id
  · exact fun _ => ensures_pure fun _ => id

theorem goes_waitIrq : Goes isError k (tryBool (iRf69WaitIrq quiet timeout)) := by
  have settles : Settles (iRf69WaitIrq quiet timeout) := by
    apply ensures_bind fun _ _ => True
    · apply ensures_bind fun _ _ => True
      · exact ensures_nextAnswer fun _ => id
      · exact fun _ => ensures_pure fun _ => id
    · intro turns
      apply ensures_bind fun _ _ => True
      · apply ensures_whileRunning
        exact settles_readIrqPin.tryBool.weaken (fun _ => id)
          (fun _ _ _ => ⟨trivial, fun _ => trivial⟩) fun _ _ => id
      · exact fun _ => ensures_pure fun _ => id
  exact goes_of_settles (going_of_heeds (heeds_base.tryBool (heeds_base.waitIrq heeds_base.noPause))
    settles.tryBool)

theorem answers_sendFrame (bRequestAck : Bool) {toAddress : UInt8} {txBuffer : List UInt8}
    {bSendAck : Bool} :
    Answers Negative k (iRf69SendFrame quiet toAddress txBuffer bRequestAck bSendAck) := by
  apply Concludes.called
  apply answers_setMode.tryInt.step
  intro _
  apply goes_tryReady.step
  intro bIsOk
  by_cases isOk : bIsOk = true
  · rw [if_pos isOk]
    apply goes_readByte.step
    intro b
    apply goes_write.step
    intro _
    apply goes_update.step
    intro _
    apply goes_access.step
    intro data
    apply answers_writeBlock.tryInt.step
    intro _
    apply answers_setMode.tryInt.step
    intro _
    apply goes_waitIrq.step
    intro bIsOk
    apply answers_setMode.tryInt.step
    intro _
    exact ensures_answer (not_negative_toInt bIsOk)
  · rw [if_neg isOk]
    exact concludes_zero

theorem answers_send {toAddress : UInt8} {txBuffer : List UInt8} {bRequestAck : Bool} :
    Answers Negative k (iRf69Send quiet quiet toAddress txBuffer bRequestAck) := by
  apply answers_waitToSend.passedOn
  · intro r negative
    have failed : r ≠ 1 := ne_of_lt (lt_trans negative one_pos)
    exact if_neg failed
  · intro r positive
    by_cases free : r = 1
    · rw [if_pos free]
      exact answers_sendFrame bRequestAck
    · rw [if_neg free]
      exact ensures_answer positive

theorem goes_whileDo {body : ℤ → Driver ℤ} {again : ℤ → Bool} {a : ℤ} (positive : 0 ≤ a)
    (turn : ∀ b, Ensures (Going k) (body b) (fun r w => 0 ≤ r ∧ Going k w)
      (EndsTold Negative k)) (turns : ℕ) :
    Ensures (Going k) (whileDo turns again body a) (fun r w => 0 ≤ r ∧ Going k w)
      (EndsTold Negative k) := by
  have runs := @ensures_whileDo _ _ (EndsTold Negative k) body again
    (fun _ b w => 0 ≤ b ∧ Going k w)
    (fun n b _ => (turn b).weaken (fun _ start => start.2) (fun _ _ => id) fun _ _ => id) turns 0 a
  apply runs.weaken
  · exact fun w going => ⟨positive, going⟩
  · rintro r w ⟨-, reached, -⟩
    exact reached
  · exact fun _ _ => id

theorem answers_sendWithRetry {toAddress : UInt8} {txBuffer : List UInt8} {retries : UInt8}
    {retryWaitTime : ℤ} : Answers Negative k
      (iRf69SendWithRetry quiet quiet toAddress txBuffer retries retryWaitTime) := by
  have tried : ∀ {call : Driver ℤ}, Answers Negative k call →
      Ensures (Going k) (tryIntVal call id) (fun r w => 0 ≤ r ∧ Going k w) (EndsTold Negative k) :=
    fun answers => answers.tryIntVal fun _ negative => negative
  apply Concludes.called
  apply (goes_whileDo (le_refl 0) ?_ retries.toNat).weaken (fun _ => id) ?_ fun _ _ => id
  · intro _
    apply ensures_bind _ (tried answers_send)
    rintro iAckReceived w ⟨positive, going⟩
    have waits : Ensures (Going k) (do
        let turns ← vRf69TimerStart retryWaitTime
        whileDo turns (fun iAckReceived => iAckReceived = 0)
          (fun _ => tryIntVal (iRf69AckReceived quiet quiet toAddress) id) iAckReceived)
        (fun r w => 0 ≤ r ∧ Going k w) (EndsTold Negative k) := by
      apply ensures_bind _ goes_timer
      intro turns
      exact goes_whileDo positive (fun _ => tried answers_ackReceived) turns
    exact waits w going
  · rintro r w ⟨positive, going⟩
    exact .inl ⟨Int.not_lt.mpr positive, going⟩

theorem answers_answerSender {txBuffer : List UInt8} {sender : UInt8} :
    Answers Negative k (rf69AnswerSender quiet quiet txBuffer sender) := by
  apply answers_waitToSend.passedOn
  · intro r negative
    have failed : r ≠ 1 := ne_of_lt (lt_trans negative one_pos)
    exact if_neg failed
  · intro r positive
    by_cases free : r = 1
    · rw [if_pos free]
      apply Goes.answers
      · exact ensures_update ensures_quiet fun _ => id
      · intro _
        exact answers_sendFrame false
    · rw [if_neg free]
      exact ensures_answer positive

theorem answers_sendAck {txBuffer : List UInt8} :
    Answers Negative k (iRf69SendAck quiet quiet txBuffer) := by
  apply Goes.answers
  · exact ensures_update ensures_quiet fun _ => id
  · intro _
    apply Goes.answers settles_access
    intro sender
    apply Goes.answers settles_access
    intro rssi
    apply ensures_bind _ answers_answerSender
    intro ret
    apply ensures_bind fun _ => Answered Negative k ret
    · exact ensures_update ensures_quiet fun _ => id
    · exact fun _ => ensures_pure fun _ => id

end Functions

/-! ### Every operation -/

/-- The operation is not refused for its arguments. `iRf69Open` may always find the module not
ready, and then returns a negative value as it does for a failure. -/
def Rf69Operation.Accepts : Rf69Operation → XRf69 → Prop
  | .call (.iRf69Open _ _ _), _ => False
  | .call (.iRf69SetFrequency freq), _ => bIsLicensedFreq freq = true
  | .call (.iRf69SetEncryptKey key), _ => key.isSome = true → (key.getD []).length = 16
  | .call (.iRf69SetDioMapping dio map), rf =>
      rf.isOpen = true ∧ 1 ≤ dio ∧ dio ≤ 5 ∧ dio ≠ 4 ∧ map ≤ 3
  | .call (.iRf69Temperature iCalFactor), _ => iCalFactor + 170 < intMax
  | _, _ => True

theorem answers_run (operation : Rf69Operation) :
    Ensures (fun w => Going k w ∧ operation.Accepts w.rf) operation.run
      (Answered operation.IsError k) fun stop _ => stop = .stuck := by
  have plain : ∀ {call : Driver ℤ}, Answers operation.IsError k call →
      Ensures (fun w => Going k w ∧ operation.Accepts w.rf) call
        (Answered operation.IsError k) fun stop _ => stop = .stuck :=
    fun answers => answers.weaken (fun _ start => start.1) (fun _ _ => id) fun _ _ => id
  have ofByte : ∀ b : UInt8, ¬Negative b.toNat := fun b =>
    Int.not_lt.mpr (Int.natCast_nonneg _)
  cases operation with
  | writeRegWithCheck reg data timeout => exact plain answers_writeRegWithCheck
  | call call =>
      cases call with
      | iRf69Open eBand ucNodeId ucNetId =>
          rintro w ⟨-, refused⟩
          exact absurd refused not_false
      | iRf69ReceiveDone => exact plain answers_receiveDone
      | iRf69SendAck txBuffer => exact plain answers_sendAck
      | iRf69CanSend => exact plain answers_canSend
      | iRf69Send toAddress txBuffer bRequestAck => exact plain answers_send
      | iRf69SendWithRetry toAddress txBuffer retries retryWaitTime =>
          exact plain answers_sendWithRetry
      | iRf69AckReceived fromNodeId => exact plain answers_ackReceived
      | iRf69WaitAckReceived fromNodeId timeout => exact plain answers_waitAckReceived
      | iRf69SetNodeId ucNodeId => exact plain answers_setNodeId
      | iRf69NodeId => exact plain (answers_readByte ofByte)
      | iRf69SetNetworkId ucNetId => exact plain answers_setNetworkId
      | iRf69NetworkId => exact plain (answers_readByte ofByte)
      | lRf69Frequency => exact plain answers_frequency
      | iRf69SetFrequency freq =>
          rintro w ⟨going, licensed⟩
          exact answers_setFrequency licensed w going
      | iRf69SetHighPower bOn => exact plain answers_setHighPower
      | iRf69SetPowerLevel level => exact plain answers_setPowerLevel
      | iRf69PowerLevel => exact plain answers_powerLevel
      | iRf69Temperature iCalFactor =>
          rintro w ⟨going, small⟩
          exact answers_temperature small w going
      | iRf69Rssi bForceTrigger => exact plain answers_rssi
      | iRf69SetEncryptKey key =>
          rintro w ⟨going, fits⟩
          exact answers_setEncryptKey fits w going
      | iRf69isEncrypted =>
          apply plain
          apply answers_readByte
          intro b
          change ¬ (if b &&& rfPacket2AesOn ≠ 0 then 1 else 0 : ℤ) < 0
          split <;> decide
      | iRf69SetPromiscuous bOn => exact plain answers_setPromiscuous
      | iRf69SetDioMapping dio map => exact answers_setDioMapping
      | iRf69Sleep => exact plain answers_setMode
      | iRf69RcCalibration => exact plain answers_rcCalibration
      | iRf69AvoidRxDeadLocks => exact plain answers_avoidRxDeadLocks
      | iRf69StartReceiving => exact plain answers_startReceiving
      | iRf69WaitForReady timeout => exact plain answers_waitForReady
      | iRf69SetMode newMode => exact plain answers_setMode
      | iRf69SendFrame toAddress txBuffer bRequestAck bSendAck =>
          exact plain (answers_sendFrame bRequestAck)
      | iRf69WaitToSend timeout => exact plain answers_waitToSend

/-! ### A single failure -/

/-- The operation has returned its error value, and written nothing after the failure: no register
at all, computed from what was read or not. -/
def Propagated (operation : Rf69Operation) (w : Rf69World) (after : List Rf69Entry) : Prop :=
  (∃ r, (operation.run w).1 = .ok r ∧ operation.IsError r) ∧
    ∀ later ∈ after, ∀ reg data, later.transfer ≠ .writeReg reg data

/-- Without a failure that is heard, the error value is not returned. -/
theorem Rf69Operation.not_isError {operation : Rf69Operation} {w : Rf69World}
    (accepts : operation.Accepts w.rf) (unmuted : w.muted = false) {entries : List Rf69Entry}
    (ran : (operation.run w).2.spi = w.spi ++ entries)
    (unheard : ∀ entry ∈ entries, entry.tells = false) {r : ℤ}
    (result : (operation.run w).1 = .ok r) : ¬operation.IsError r := by
  have none : entries.countP Rf69Entry.tells = 0 := by
    rw [List.countP_eq_zero]
    intro entry among
    rw [unheard entry among]
    exact Bool.false_ne_true
  rcases answers_run operation w ⟨⟨unmuted, le_refl _⟩, accepts⟩ with
    ⟨r', next, runs, fine | ⟨-, told⟩⟩ | ⟨stop, next, runs, -⟩
  · rw [runs] at result
    cases result
    exact fine.1
  · rw [runs] at ran
    rw [Told, ran, List.countP_append, none] at told
    exact absurd told (lt_irrefl _)
  · rw [runs] at result
    cases result

theorem propagated_iff_heard {operation : Rf69Operation} {w : Rf69World}
    (unmuted : w.muted = false) {before after : List Rf69Entry} {entry : Rf69Entry}
    (ran : (operation.run w).2.spi = w.spi ++ (before ++ entry :: after))
    (failed : entry.failed = true) (only : ∀ other ∈ before ++ after, other.failed = false) :
    (entry.heard = true → Propagated operation w after) ∧
      (operation.Accepts w.rf → (Propagated operation w after ↔ entry.heard = true)) := by
  have sufficient : entry.heard = true → Propagated operation w after := by
    intro isHeard
    rcases heeds_run operation w with ⟨entries, spi, -, -, heard⟩
    have isEntries : before ++ entry :: after = entries :=
      List.append_cancel_left (ran.symm.trans spi)
    have unfailed : ∀ other ∈ before, other.failed = false :=
      fun other among => only other (List.mem_append_left _ among)
    rcases heard before entry after isEntries.symm unfailed failed isHeard with
      ⟨rfl, r, isError, result⟩
    exact ⟨⟨r, result, isError⟩, fun later among => absurd among List.not_mem_nil⟩
  refine ⟨sufficient, fun accepts => ⟨?_, sufficient⟩⟩
  rintro ⟨⟨r, result, isError⟩, -⟩
  by_contra silent
  apply operation.not_isError accepts unmuted ran _ result isError
  intro other among
  rw [Rf69Entry.tells]
  rcases List.mem_append.mp among with isBefore | later
  · rw [only other (List.mem_append_left _ isBefore)]
    rfl
  · rcases List.mem_cons.mp later with rfl | isAfter
    · rw [Bool.eq_false_of_not_eq_true silent, Bool.and_false]
    · rw [only other (List.mem_append_right _ isAfter)]
      rfl

/-- A module of which one transfer fails. -/
def failsAt (i : ℕ) : Rf69World where
  rf := ⟨.replicate 66 0, 0, ⟨0, 0, 0, 0⟩, 0, .standby, false, false, true, 1, 0⟩
  chip := ⟨rfOpmodeStandby, [], []⟩
  env n := ⟨if n = i then -1 else 0, 0, [], 1, 0, 0⟩
  clock := 0
  muted := false
  spi := []
  events := []
  modes := []
  changes := []

/-- The second of the three registers of the frequency cannot be written, and the third is not. -/
theorem propagated_setFrequency :
    Propagated (.call (.iRf69SetFrequency 868000000)) (failsAt 1) [] := by
  have ran : ((Rf69Operation.call (.iRf69SetFrequency 868000000)).run (failsAt 1)).2.spi =
      (failsAt 1).spi ++ ([⟨.writeReg regFrfmsb 0xD9, false, true⟩] ++
        ⟨.writeReg regFrfmid 0, true, true⟩ :: []) := by
    decide +kernel
  exact (propagated_iff_heard rfl ran rfl (by decide)).1 rfl

/-- The level that could not be read is written back, and the function returns 0. -/
theorem not_propagated_setPowerLevel :
    ((Rf69Operation.call (.iRf69SetPowerLevel 5)).run (failsAt 0)).2.spi =
        [⟨.readReg regPalevel, true, false⟩, ⟨.writeReg regPalevel 0xE5, false, true⟩] ∧
      ((Rf69Operation.call (.iRf69SetPowerLevel 5)).run (failsAt 0)).1 = .ok 0 ∧
      ¬Propagated (.call (.iRf69SetPowerLevel 5)) (failsAt 0)
        [⟨.writeReg regPalevel 0xE5, false, true⟩] := by
  have result : ((Rf69Operation.call (.iRf69SetPowerLevel 5)).run (failsAt 0)).1 = .ok 0 := by
    decide +kernel
  refine ⟨by decide +kernel, result, ?_⟩
  rintro ⟨⟨r, isResult, isError⟩, -⟩
  rw [result] at isResult
  cases isResult
  exact lt_irrefl 0 isError

end Sysio.Rf69
