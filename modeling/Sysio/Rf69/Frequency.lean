import Sysio.Rf69.Registers

/-!
# The frequency that is read back

`iRf69SetFrequency` turns hertz into steps of 15625 / 256 Hz, `lRf69Frequency` turns steps into
hertz, and both round down. What is read back is at most 62 Hz below what was set. Set again, it
gives the same steps only if their number is a multiple of 256, and one step less otherwise.
-/

namespace Sysio.Rf69

open Routine

/-- The number in the three registers of the frequency. -/
def frf (registers : UInt8 → UInt8) : ℤ :=
  (registers regFrfmsb).toNat * 65536 + (registers regFrfmid).toNat * 256 +
    (registers regFrflsb).toNat

/-- What `iSetFrequencyRegs` writes for a frequency. -/
def hertzToSteps (freq : ℤ) : ℤ := freq * 256 / 15625

/-- What `lRf69Frequency` makes of it. -/
def stepsToHertz (steps : ℤ) : ℤ := steps * 15625 / 256

/-- The frequency that is read back after `freq` has been set. -/
def readBack (freq : ℤ) : ℤ := stepsToHertz (hertzToSteps freq)

/-- The three reads of `lRf69Frequency` find what the registers hold. -/
def Rf69World.tellingFrf (initial : UInt8 → UInt8) (w : Rf69World) : Rf69World :=
  w.telling fun i => w.registers initial ([regFrfmsb, regFrfmid, regFrflsb].getD i regFrflsb)

section Rounding

/-- The frequency that is read is not above the one that was set. -/
theorem readBack_le (freq : ℤ) : readBack freq ≤ freq := by
  rw [readBack, stepsToHertz, hertzToSteps]
  omega

/-- It is less than 63 Hz below. -/
theorem le_readBack (freq : ℤ) : freq - 62 ≤ readBack freq := by
  rw [readBack, stepsToHertz, hertzToSteps]
  omega

/-- Setting what was read loses a step, unless it is a whole number of hertz. -/
theorem hertzToSteps_stepsToHertz (steps : ℤ) :
    hertzToSteps (stepsToHertz steps) = if 256 ∣ steps then steps else steps - 1 := by
  rw [hertzToSteps, stepsToHertz]
  split
  · omega
  · have truncated : steps * 15625 / 256 * 256 ≠ steps * 15625 := by omega
    omega

/-- A step is more than a hertz. -/
theorem stepsToHertz_lt (steps : ℤ) : stepsToHertz (steps - 1) < stepsToHertz steps := by
  rw [stepsToHertz, stepsToHertz]
  omega

/-- Only what is set in the first step of the second band is read back below the band. -/
theorem licensed_readBack {freq : ℤ} (licensed : bIsLicensedFreq freq = true) :
    bIsLicensedFreq (readBack freq) = true ↔ ¬(433075000 ≤ freq ∧ freq ≤ 433075012) := by
  have below := readBack_le freq
  have above := le_readBack freq
  have exactly : ∀ bound ∈ [290000000, 868000000, 890000000], bound ≤ freq →
      bound ≤ readBack freq := by
    intro bound isBound le
    simp only [List.mem_cons, List.not_mem_nil, or_false] at isBound
    rw [readBack, stepsToHertz, hertzToSteps]
    omega
  have first : 433075000 ≤ freq → freq ≤ 433075012 → readBack freq < 433075000 := by
    intro _ _
    have steps : freq * 256 / 15625 = 7095500 := by omega
    rw [readBack, hertzToSteps, steps]
    decide
  have others : 433075012 < freq → 433075000 ≤ readBack freq := by
    intro _
    have steps : 7095501 ≤ freq * 256 / 15625 := by omega
    rw [readBack, stepsToHertz, hertzToSteps]
    omega
  have at290 := exactly 290000000 (by simp)
  have at868 := exactly 868000000 (by simp)
  have at890 := exactly 890000000 (by simp)
  simp only [bIsLicensedFreq, iFrfBounds, List.any_cons, List.any_nil, Bool.or_eq_true,
    Bool.or_false, decide_eq_true_eq] at licensed ⊢
  omega

/-- The steps of a licensed frequency have three bytes. -/
theorem hertzToSteps_bounds {freq : ℤ} (licensed : bIsLicensedFreq freq = true) :
    0 ≤ hertzToSteps freq ∧ hertzToSteps freq < 16777216 := by
  simp only [bIsLicensedFreq, iFrfBounds, List.any_cons, List.any_nil, Bool.or_eq_true,
    Bool.or_false, decide_eq_true_eq] at licensed
  rw [hertzToSteps]
  omega

theorem ofInt_toNat_eq (i : ℤ) : ((UInt8.ofInt i).toNat : ℤ) = i % 256 := by
  rw [UInt8.ofInt, UInt8.toNat_ofNat']
  omega

/-- The three registers make up the steps. -/
theorem frf_update (registers : UInt8 → UInt8) {steps : ℤ} (nonneg : 0 ≤ steps)
    (bounded : steps < 16777216) :
    frf (Function.update (Function.update (Function.update registers
      regFrfmsb (UInt8.ofInt (steps / 65536))) regFrfmid (UInt8.ofInt (steps / 256)))
      regFrflsb (UInt8.ofInt steps)) = steps := by
  have distinct : regFrfmsb ≠ regFrfmid ∧ regFrfmsb ≠ regFrflsb ∧ regFrfmid ≠ regFrflsb := by
    decide
  simp only [frf, Function.update_self, Function.update_of_ne distinct.1,
    Function.update_of_ne distinct.2.1, Function.update_of_ne distinct.2.2, ofInt_toNat_eq]
  omega

theorem frf_setTestpa (bOn : Bool) (registers : UInt8 → UInt8) :
    frf (setTestpa bOn registers) = frf registers := by
  have spares : ∀ reg, reg ≠ regTestpa1 → reg ≠ regTestpa2 →
      setTestpa bOn registers reg = registers reg := by
    intro reg not1 not2
    rw [setTestpa, Function.update_of_ne not2, Function.update_of_ne not1]
  rw [frf, spares regFrfmsb (by decide) (by decide), spares regFrfmid (by decide) (by decide),
    spares regFrflsb (by decide) (by decide)]
  rfl

/-- The amplifier does not change the frequency. -/
theorem frf_amplified (rf : XRf69) (newMode : ERf69Mode) (registers : UInt8 → UInt8) :
    frf (rf.amplified newMode registers) = frf registers := by
  rw [XRf69.amplified]
  split_ifs
  · exact frf_setTestpa true registers
  · exact frf_setTestpa false registers
  · rfl
  · rfl

end Rounding

/-- The driver and the number of steps are known, the other registers are not. -/
def Tuned (env : ℕ → Rf69Answer) (initial : UInt8 → UInt8) (rf : XRf69) (steps : ℤ)
    (w : Rf69World) : Prop :=
  w.env = env ∧ w.rf = rf ∧ frf (w.registers initial) = steps

section Setting

variable {env : ℕ → Rf69Answer} {initial : UInt8 → UInt8} {rf : XRf69} {steps : ℤ}
  {early : Stop → Rf69World → Prop} (works : ∀ i, 0 ≤ (env i).fault)

include works

/-- The frequency outlasts a change of mode. -/
theorem tuned_setMode {newMode : ERf69Mode} :
    Finishes (Tuned env initial rf steps) (iRf69SetMode quiet newMode)
      fun r w => r = 0 ∧ Tuned env initial { rf with mode := newMode } steps w := by
  rintro w ⟨isEnv, isRf, rfl⟩
  have steady : Steady env initial rf (w.registers initial) w := ⟨isEnv, isRf, rfl⟩
  refine (steady_setMode works).weaken (fun _ => id) ?_ (fun _ _ => id) w steady
  rintro r next ⟨isZero, isEnv, isRf, isRegisters⟩
  refine ⟨isZero, isEnv, isRf, ?_⟩
  rw [isRegisters]
  exact frf_amplified _ _ _

theorem tuned_trySetMode {newMode : ERf69Mode} :
    Ensures (Tuned env initial rf steps) (tryInt (iRf69SetMode quiet newMode))
      (fun _ => Tuned env initial { rf with mode := newMode } steps) early := by
  apply ensures_tryInt _ (tuned_setMode works).ensures
  · exact fun _ _ reached _ => reached.2
  · rintro r w ⟨rfl, _⟩ negative
    exact absurd negative (by decide)

/-- A licensed frequency is set. -/
theorem tuned_setFrequencyRegs {freq : ℤ} (licensed : bIsLicensedFreq freq = true) :
    Ensures (Tuned env initial rf steps) (tryInt (iSetFrequencyRegs quiet freq))
      (fun _ => Tuned env initial rf (hertzToSteps freq)) early := by
  have sets : Finishes (Tuned env initial rf steps) (iSetFrequencyRegs quiet freq)
      fun r w => r = 0 ∧ Tuned env initial rf (hertzToSteps freq) w := by
    apply finishes_called
    rw [if_pos licensed]
    rintro w ⟨isEnv, isRf, -⟩
    refine ensures_bind _ (steady_tryWrite works) (fun _ => ?_) w
      (⟨isEnv, isRf, rfl⟩ : Steady env initial rf (w.registers initial) w)
    apply ensures_bind _ (steady_tryWrite works)
    intro _
    apply ensures_bind _ (steady_tryWrite works)
    intro _
    apply ensures_pure
    rintro next ⟨isEnv, isRf, isRegisters⟩
    refine ⟨rfl, isEnv, isRf, ?_⟩
    have bounds := hertzToSteps_bounds licensed
    rw [isRegisters]
    exact frf_update _ bounds.1 bounds.2
  apply ensures_tryInt _ sets.ensures
  · exact fun _ _ reached _ => reached.2
  · rintro r w ⟨rfl, _⟩ negative
    exact absurd negative (by decide)

omit works in
theorem tuned_access {α : Type} {read : XRf69 → α} :
    Ensures (Tuned env initial rf steps) (access quiet read)
      (fun a w => a = read rf ∧ Tuned env initial rf steps w) early :=
  ensures_access ensures_quiet fun _ tuned => ⟨congrArg read tuned.2.1, tuned⟩

omit works in
theorem ensures_refuseRegs {before : Rf69World → Prop} {freq : ℤ}
    (unlicensed : bIsLicensedFreq freq = false) :
    Ensures before (tryInt (iSetFrequencyRegs quiet freq)) (fun _ _ => False)
      fun stop w => ∃ r, stop = .returned r ∧ r = -1 ∧ before w := by
  have refuses : Finishes before (iSetFrequencyRegs quiet freq) fun r w => r = -1 ∧ before w := by
    apply finishes_called
    rw [unlicensed, if_neg Bool.false_ne_true]
    exact ensures_pure fun _ holds => ⟨rfl, holds⟩
  apply ensures_tryInt _ refuses.ensures
  · rintro r w ⟨rfl, _⟩ nonneg
    exact absurd nonneg (by decide)
  · rintro r w ⟨rfl, holds⟩ _
    exact ⟨-1, rfl, rfl, holds⟩

theorem tuned_whenever {leaving newMode mode : ERf69Mode} :
    Ensures (Tuned env initial { rf with mode := mode } steps)
      (whenever (rf.mode = leaving) (tryInt (iRf69SetMode quiet newMode)))
      (fun _ w => ∃ mode, Tuned env initial { rf with mode := mode } steps w) early := by
  apply ensures_whenever
  · intro _
    exact (tuned_trySetMode works).weaken (fun _ => id) (fun _ _ tuned => ⟨newMode, tuned⟩)
      fun _ _ => id
  · exact fun _ _ tuned => ⟨mode, tuned⟩

/-- A licensed frequency is set, and the module is back in its mode. -/
theorem tuned_setFrequency {freq : ℤ} (licensed : bIsLicensedFreq freq = true) :
    Finishes (Tuned env initial rf steps) (iRf69SetFrequency quiet freq)
      fun r w => r = 0 ∧ Tuned env initial rf (hertzToSteps freq) w := by
  apply finishes_called
  apply ensures_bind_value tuned_access
  apply ensures_bind _ (@tuned_whenever _ _ rf _ _ works _ _ rf.mode)
  rintro _ w ⟨mode, tuned⟩
  refine ensures_bind _ (tuned_setFrequencyRegs works licensed) (fun _ => ?_) w tuned
  apply ensures_bind _ (tuned_whenever works)
  intro _
  rintro w ⟨mode, tuned⟩
  have sets : Finishes (Tuned env initial { rf with mode := mode } (hertzToSteps freq))
      (iRf69SetMode quiet rf.mode) fun r w => r = 0 ∧ Tuned env initial rf (hertzToSteps freq) w :=
    tuned_setMode works
  exact sets.ensures w tuned

/-- Another frequency is refused. -/
theorem tuned_refuse {freq : ℤ} (unlicensed : bIsLicensedFreq freq = false) :
    Finishes (Tuned env initial rf steps) (iRf69SetFrequency quiet freq)
      fun r w => r = -1 ∧ frf (w.registers initial) = steps := by
  apply finishes_called
  apply ensures_bind_value tuned_access
  apply ensures_bind _ (@tuned_whenever _ _ rf _ _ works _ _ rf.mode)
  rintro _ w ⟨mode, tuned⟩
  refine ensures_bind _ ((ensures_refuseRegs unlicensed).weaken (fun _ => id) (fun _ _ => id) ?_)
    (fun _ _ impossible => impossible.elim) w tuned
  rintro stop next ⟨r, rfl, isError, tuned⟩
  exact ⟨r, rfl, isError, tuned.2.2⟩

end Setting

/-- The registers are read as they are. -/
theorem frequency_told {initial : UInt8 → UInt8} {w : Rf69World}
    (works : ∀ i, 0 ≤ (w.env i).fault) :
    ∃ next, lRf69Frequency quiet (w.tellingFrf initial) =
        (.ok (stepsToHertz (frf (w.registers initial))), next) ∧
      Tuned (w.tellingFrf initial).env initial w.rf (frf (w.registers initial)) next := by
  have told : ∀ i < 3, ((w.tellingFrf initial).env (w.clock + i)).value =
      w.registers initial ([regFrfmsb, regFrfmid, regFrflsb].getD i regFrflsb) := by
    intro i _
    change w.registers initial (List.getD _ (w.clock + i - w.clock) _) = _
    rw [Nat.add_sub_cancel_left]
  have reads : Finishes (· = w.tellingFrf initial) (lRf69Frequency quiet) fun g next =>
      g = stepsToHertz (frf (w.registers initial)) ∧
        Tuned (w.tellingFrf initial).env initial w.rf (frf (w.registers initial)) next := by
    have answers : ∀ i, 0 ≤ ((w.tellingFrf initial).env i).fault := works
    have start : ∀ s, s = w.tellingFrf initial → Steady (w.tellingFrf initial).env initial w.rf
        (w.registers initial) s ∧ s.clock = w.clock := by
      rintro _ rfl
      exact ⟨⟨rfl, rfl, rfl⟩, rfl⟩
    apply ensures_bind _ ((told_readByte answers).weaken start (fun _ _ => id) fun _ _ => id)
    rintro msb s ⟨isMsb, steady⟩
    refine ensures_bind _ (told_readByte answers) (fun mid => ?_) s steady
    rintro s ⟨isMid, steady⟩
    refine ensures_bind _ (told_readByte answers) (fun lsb => ?_) s steady
    rintro s ⟨isLsb, ⟨isEnv, isRf, isRegisters⟩, -⟩
    refine Or.inl ⟨_, s, rfl, ?_, isEnv, isRf, ?_⟩
    · rw [isMsb (by decide) (by decide), isMid (by decide) (by decide),
        isLsb (by decide) (by decide)]
      have first := told 0 (by decide)
      have second := told 1 (by decide)
      have third := told 2 (by decide)
      rw [Nat.add_zero] at first
      rw [first, second, third]
      rfl
    · rw [isRegisters]
  rcases reads.run rfl with ⟨g, next, runs, rfl, tuned⟩
  exact ⟨next, runs, tuned⟩

/-- The module is not asked, unless it sends. -/
theorem setFrequency_refused {w : Rf69World} {freq : ℤ}
    (unlicensed : bIsLicensedFreq freq = false) (notTx : w.rf.mode ≠ .tx) :
    Finishes (· = w) (iRf69SetFrequency quiet freq) fun r next => r = -1 ∧ next = w := by
  have reads : Ensures (· = w) (access quiet (·.mode))
      (fun mode next => mode = w.rf.mode ∧ next = w) fun stop next =>
        ∃ r, stop = .returned r ∧ r = -1 ∧ next = w := by
    apply ensures_access ensures_quiet
    rintro next rfl
    exact ⟨rfl, rfl⟩
  apply finishes_called
  apply ensures_bind_value reads
  apply ensures_bind fun _ => (· = w)
  · rw [decide_eq_false notTx]
    exact ensures_pure fun _ => id
  · intro _
    exact ensures_bind _ (ensures_refuseRegs unlicensed) fun _ _ impossible => impossible.elim

/-- A frequency that has been set, read back and set again. -/
theorem frequency_readBack (initial : UInt8 → UInt8) (w : Rf69World) (freq : ℤ)
    (works : ∀ i, 0 ≤ (w.env i).fault) :
    (bIsLicensedFreq freq = true → ∃ first g read,
      iRf69SetFrequency quiet freq w = (.ok 0, first) ∧ first.rf.mode = w.rf.mode ∧
      lRf69Frequency quiet (first.tellingFrf initial) = (.ok g, read) ∧
      freq - 62 ≤ g ∧ g ≤ freq ∧
      (433075000 ≤ freq ∧ freq ≤ 433075012 → ∃ r refused,
        iRf69SetFrequency quiet g read = (.ok r, refused) ∧ r < 0 ∧
        frf (refused.registers initial) = frf (first.registers initial)) ∧
      (¬(433075000 ≤ freq ∧ freq ≤ 433075012) → ∃ again g' reread,
        iRf69SetFrequency quiet g read = (.ok 0, again) ∧ again.rf.mode = w.rf.mode ∧
        lRf69Frequency quiet (again.tellingFrf initial) = (.ok g', reread) ∧
        (256 ∣ frf (first.registers initial) →
          frf (again.registers initial) = frf (first.registers initial) ∧ g' = g) ∧
        (¬256 ∣ frf (first.registers initial) →
          frf (again.registers initial) = frf (first.registers initial) - 1 ∧
          g - 62 ≤ g' ∧ g' < g))) ∧
    (bIsLicensedFreq freq = false → ∃ r refused,
      iRf69SetFrequency quiet freq w = (.ok r, refused) ∧ r < 0 ∧
      frf (refused.registers initial) = frf (w.registers initial) ∧
      (w.rf.mode ≠ .tx → refused = w)) := by
  constructor
  · intro licensed
    have tuned : Tuned w.env initial w.rf (frf (w.registers initial)) w := ⟨rfl, rfl, rfl⟩
    rcases (tuned_setFrequency works licensed).run tuned with
      ⟨_, first, sets, rfl, isEnv, isRf, isSet⟩
    have worksSet : ∀ i, 0 ≤ (first.env i).fault := by
      rw [isEnv]
      exact works
    rcases frequency_told worksSet with ⟨read, reads, readTuned⟩
    have worksRead : ∀ i, 0 ≤ ((first.tellingFrf initial).env i).fault := worksSet
    rw [isSet] at reads readTuned
    refine ⟨first, readBack freq, read, sets, congrArg XRf69.mode isRf, reads, le_readBack freq,
      readBack_le freq, ?_, ?_⟩
    · intro isFirst
      have unlicensed : bIsLicensedFreq (readBack freq) = false :=
        Bool.eq_false_of_not_eq_true fun isLicensed =>
          (licensed_readBack licensed).mp isLicensed isFirst
      rcases (tuned_refuse worksRead unlicensed).run readTuned with
        ⟨_, refused, refuses, rfl, same⟩
      exact ⟨-1, refused, refuses, by decide, same.trans isSet.symm⟩
    · intro notFirst
      have again := (licensed_readBack licensed).mpr notFirst
      rcases (tuned_setFrequency worksRead again).run readTuned with
        ⟨_, next, setsAgain, rfl, isEnv, isNextRf, isAgain⟩
      have worksNext : ∀ i, 0 ≤ (next.env i).fault := by
        rw [isEnv]
        exact worksRead
      rcases frequency_told worksNext with ⟨reread, rereads, -⟩
      rw [isAgain] at rereads
      have isMode : next.rf.mode = w.rf.mode := by rw [isNextRf, isRf]
      have steps := hertzToSteps_stepsToHertz (hertzToSteps freq)
      refine ⟨next, _, reread, setsAgain, isMode, rereads, ?_, ?_⟩
      · rw [isAgain, isSet]
        intro divides
        rw [if_pos divides] at steps
        exact ⟨steps, congrArg stepsToHertz steps⟩
      · rw [isAgain, isSet]
        intro divides
        rw [if_neg divides] at steps
        refine ⟨steps, le_readBack (readBack freq), ?_⟩
        change stepsToHertz (hertzToSteps (stepsToHertz (hertzToSteps freq))) < _
        rw [steps]
        exact stepsToHertz_lt _
  · intro unlicensed
    by_cases isTx : w.rf.mode = .tx
    · have tuned : Tuned w.env initial w.rf (frf (w.registers initial)) w := ⟨rfl, rfl, rfl⟩
      rcases (tuned_refuse works unlicensed).run tuned with ⟨_, refused, refuses, rfl, same⟩
      exact ⟨-1, refused, refuses, by decide, same, fun notTx => absurd isTx notTx⟩
    · rcases (setFrequency_refused unlicensed isTx).run rfl with
        ⟨_, refused, refuses, rfl, rfl⟩
      exact ⟨-1, refused, refuses, by decide, rfl, fun _ => rfl⟩

theorem frequency_readBack_868 :
    bIsLicensedFreq 868000000 = true ∧ ∃ first g read,
      iRf69SetFrequency quiet 868000000 (workingNode .rx) = (.ok 0, first) ∧ first.rf.mode = .rx ∧
      lRf69Frequency quiet (first.tellingFrf fun _ => 0) = (.ok g, read) ∧
      867999938 ≤ g ∧ g ≤ 868000000 := by
  have licensed : bIsLicensedFreq 868000000 = true := by decide
  rcases (frequency_readBack (fun _ => 0) (workingNode .rx) 868000000 fun _ => le_refl 0).1
    licensed with ⟨first, g, read, sets, isMode, reads, above, below, -⟩
  exact ⟨licensed, first, g, read, sets, isMode, reads, above, below⟩

/-- The middle of the second band is read back as 433924987 Hz, and this as a step less. -/
theorem frequency_drifts :
    let first := (iRf69SetFrequency quiet 433925000 (workingNode .standby)).2
    let read := (lRf69Frequency quiet (first.tellingFrf fun _ => 0)).2
    let again := (iRf69SetFrequency quiet 433924987 read).2
    bIsLicensedFreq 433925000 = true ∧
      (iRf69SetFrequency quiet 433925000 (workingNode .standby)).1 = .ok 0 ∧
      (lRf69Frequency quiet (first.tellingFrf fun _ => 0)).1 = .ok 433924987 ∧
      (iRf69SetFrequency quiet 433924987 read).1 = .ok 0 ∧
      frf (first.registers fun _ => 0) = 7109427 ∧ frf (again.registers fun _ => 0) = 7109426 ∧
      (lRf69Frequency quiet (again.tellingFrf fun _ => 0)).1 = .ok 433924926 := by
  decide +kernel

end Sysio.Rf69
